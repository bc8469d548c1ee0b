/-! # Positions in a YAML text

A cursor is the rest of a text with its line and column. `Cursor.iterate` runs a scanner step by
step; as the steps get further in the text, it takes no more of them than there are characters.
-/

namespace RoleSecrets.Yaml

/-- The rest of a text, and where it starts: characters and lines before it, and characters before
it in its line. -/
structure Cursor where
  rest : List Char
  index : Nat := 0
  line : Nat := 0
  column : Nat := 0

/-- Whether a character is a space or a tab. -/
def isBlank (c : Char) : Bool := c = ' ' || c = '\t'

/-- Whether a character ends a line. -/
def isBreak (c : Char) : Bool :=
  c = '\n' || c = '\r' || c = '\x85' || c = '\u2028' || c = '\u2029'

/-- Whether a character can stand in a name: an ASCII letter or digit, an underscore or a dash. -/
def isNameChar (c : Char) : Bool := c.isAlphanum || c = '_' || c = '-'

/-- Whether a character may stand in a text at all. -/
def isAllowed (c : Char) : Bool :=
  let n := c.toNat
  n = 0x09 || n = 0x0A || n = 0x0D || (0x20 ≤ n && n ≤ 0x7E) || n = 0x85 ||
    (0xA0 ≤ n && n ≤ 0xD7FF) || (0xE000 ≤ n && n ≤ 0xFFFD) || 0x10000 ≤ n

namespace Cursor

def start (text : List Char) : Cursor := { rest := text }

/-- The character at a distance. -/
def peek? (c : Cursor) (distance : Nat) : Option Char := c.rest[distance]?

/-- Whether a given character is at a distance. -/
def sees (c : Cursor) (char : Char) (distance : Nat := 0) : Bool := c.peek? distance = some char

/-- Whether the character at a distance has a property. -/
def seesSome (c : Cursor) (property : Char → Bool) (distance : Nat := 0) : Bool :=
  (c.peek? distance).any property

/-- Whether the text is over, or a line break is there. -/
def atLineEnd (c : Cursor) (distance : Nat := 0) : Bool := (c.peek? distance).all isBreak

/-- Whether the text is over, or a blank or a line break is there. -/
def atGap (c : Cursor) (distance : Nat := 0) : Bool :=
  (c.peek? distance).all fun char => isBlank char || isBreak char

/-- Goes on by some characters of a line. -/
def skip (c : Cursor) (count : Nat := 1) : Cursor :=
  { c with rest := c.rest.drop count, index := c.index + count, column := c.column + count }

/-- Goes on behind a line break. -/
def nextLine (c : Cursor) (count : Nat) : Cursor :=
  { rest := c.rest.drop count, index := c.index + count, line := c.line + 1, column := 0 }

/-- The line break that is there, as it counts in a scalar, and what follows it. -/
def lineBreak? (c : Cursor) : Option (Char × Cursor) :=
  match c.rest with
  | '\r' :: '\n' :: _ => some ('\n', c.nextLine 2)
  | char :: _ =>
      if char = '\u2028' ∨ char = '\u2029' then some (char, c.nextLine 1)
      else if isBreak char then some ('\n', c.nextLine 1)
      else none
  | [] => none

/-- The longest run of characters with a property that starts here, and what follows it. -/
def span (c : Cursor) (property : Char → Bool) : List Char × Cursor :=
  let run := c.rest.takeWhile property
  (run, c.skip run.length)

/-- Goes on behind all characters with a property. -/
def skipAll (c : Cursor) (property : Char → Bool) : Cursor := (c.span property).2

/-- Whether a line starts here with the sign that begins or ends a document. -/
def atDocumentSign (c : Cursor) : Bool :=
  c.column = 0 && (c.rest.take 3 = ['-', '-', '-'] || c.rest.take 3 = ['.', '.', '.']) && c.atGap 3

/-- What a step of a scanner does. -/
inductive Move (σ α : Type)
  | done (value : α) (after : Cursor)
  | next (state : σ) (after : Cursor)
  | fail

/-- Takes steps until one is the last or fails. As each of them but the last gets further in the
text, there are no more of them than characters, and the last. -/
def iterate {σ α : Type} (step : σ → Cursor → Move σ α) (state : σ) (c : Cursor) :
    Option (α × Cursor) :=
  go (c.rest.length + 1) state c
where
  /-- Takes at most a number of steps. -/
  go : Nat → σ → Cursor → Option (α × Cursor)
    | 0, _, _ => none
    | limit + 1, state, c =>
        match step state c with
        | .done value after => some (value, after)
        | .fail => none
        | .next state after => go limit state after

end Cursor

end RoleSecrets.Yaml
