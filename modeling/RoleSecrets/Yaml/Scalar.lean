import RoleSecrets.Text.Decimal
import RoleSecrets.Yaml.Cursor

/-! # Scanning YAML scalars

Plain and quoted scalars may go over several lines: blanks around a line break go away, a single
break becomes a space, and of several breaks all but the first stay. Block scalars keep the lines
that are indented enough, each with its break or folded.
-/

namespace RoleSecrets.Yaml

/-- The blanks and line breaks between two runs of other characters. -/
structure Gap where
  /-- Blanks before any break. -/
  blanks : List Char := []
  /-- Whether there was a break. -/
  broken : Bool := false
  /-- The first break, unless it was escaped. -/
  first : List Char := []
  /-- The breaks after it. -/
  others : List Char := []

namespace Gap

/-- One more blank, which counts only before a break. -/
def addBlank (g : Gap) (c : Char) : Gap :=
  if g.broken then g else { g with blanks := g.blanks ++ [c] }

/-- One more break. -/
def addBreak (g : Gap) (c : Char) : Gap :=
  if g.broken then { g with others := g.others ++ [c] }
  else { blanks := [], broken := true, first := [c], others := [] }

def folded (g : Gap) : List Char :=
  if g.broken then
    if g.first = ['\n'] then if g.others = [] then [' '] else g.others
    else g.first ++ g.others
  else g.blanks

end Gap

/-- A scalar that is being read: its text so far in reverse, and the gap at its end if there is
one. -/
structure Partly where
  text : List Char := []
  gap : Option Gap := none

namespace Partly

/-- The text with the gap at its end. -/
def settled (p : Partly) : List Char :=
  match p.gap with
  | some gap => gap.folded.reverse ++ p.text
  | none => p.text

def add (p : Partly) (c : Char) : Partly := { text := c :: p.settled }

def addBlank (p : Partly) (c : Char) : Partly :=
  { p with gap := some ((p.gap.getD {}).addBlank c) }

def addBreak (p : Partly) (c : Char) : Partly :=
  { p with gap := some ((p.gap.getD {}).addBreak c) }

/-- Whether there is a break at the end. -/
def isBroken (p : Partly) : Bool := p.gap.any (·.broken)

/-- The whole text, without a gap at its end. -/
def plain (p : Partly) : String := String.ofList p.text.reverse

/-- The whole text, with the gap at its end. -/
def whole (p : Partly) : String := String.ofList p.settled.reverse

end Partly

namespace Plain

/-- Characters that end a plain scalar inside brackets. -/
def isFlowSign (c : Char) : Bool := c = ',' || c = '[' || c = ']' || c = '\x7b' || c = '\x7d'

/-- Whether a colon is wrong here: inside brackets, right before a sign. -/
def isMisplacedColon (inFlow : Bool) (c : Cursor) : Bool :=
  inFlow && c.sees ':' && c.seesSome (fun sign => isFlowSign sign || sign = '?') 1

/-- Whether a plain scalar ends before the character here. -/
def ends (inFlow : Bool) (c : Cursor) : Bool :=
  (c.sees ':' && c.atGap 1) || (inFlow && c.seesSome isFlowSign)

/-- The end of a plain scalar, with whether a line break follows it. -/
def finish (p : Partly) (c : Cursor) : Cursor.Move Partly (String × Bool) :=
  .done (p.plain, p.isBroken) c

/-- One step through a plain scalar whose lines must start at a column. -/
def step (inFlow : Bool) (indent : Nat) (p : Partly) (c : Cursor) :
    Cursor.Move Partly (String × Bool) :=
  match c.peek? 0, c.lineBreak? with
  | none, _ => finish p c
  | some _, some (lineBreak, after) => .next (p.addBreak lineBreak) after
  | some char, none =>
      if isBlank char then
        if p.isBroken && c.column < indent && char = '\t' then .fail
        else .next (p.addBlank char) c.skip
      else if p.gap.isSome &&
          ((!inFlow && c.column < indent) || c.atDocumentSign || char = '#') then finish p c
      else if isMisplacedColon inFlow c then .fail
      else if ends inFlow c then finish p c
      else .next (p.add char) c.skip

end Plain

/-- A plain scalar, and whether a line break follows it. -/
def plainScalar? (inFlow : Bool) (indent : Nat) (c : Cursor) : Option ((String × Bool) × Cursor) :=
  c.iterate (Plain.step inFlow indent) {}

namespace Quoted

/-- The characters that are escaped with a letter. -/
def letters : List (Char × Char) :=
  [('0', Char.ofNat 0), ('a', '\x07'), ('b', '\x08'), ('t', '\t'), ('\t', '\t'), ('n', '\n'),
    ('v', '\x0b'), ('f', '\x0c'), ('r', '\r'), ('e', '\x1b'), (' ', ' '), ('"', '"'), ('/', '/'),
    ('\\', '\\'), ('N', '\x85'), ('_', '\xa0'), ('L', '\u2028'), ('P', '\u2029')]

/-- How many digits follow the letter of an escape. -/
def digitCount? (letter : Char) : Option Nat :=
  if letter = 'x' then some 2
  else if letter = 'u' then some 4
  else if letter = 'U' then some 8
  else none

/-- The character of a code point, where there is one. -/
def charOf? (code : Nat) : Option Char :=
  if (0xD800 ≤ code ∧ code ≤ 0xDFFF) ∨ 0x10FFFF < code then none else some (Char.ofNat code)

/-- The character that an escape stands for, and what follows the escape. -/
def escape? (c : Cursor) : Option (Char × Cursor) := do
  let letter ← c.peek? 1
  match digitCount? letter with
  | some count => do
      let digits := (c.skip 2).rest.take count
      if digits.length < count then none
      else
        let code ← Decimal.readBase? 16 digits
        return (← charOf? code, c.skip (2 + count))
  | none => return (← letters.lookup letter, c.skip 2)

def step (double : Bool) (p : Partly) (c : Cursor) : Cursor.Move Partly String :=
  match c.peek? 0, c.lineBreak? with
  | none, _ => .fail
  | some _, some (lineBreak, after) => .next (p.addBreak lineBreak) after
  | some char, none =>
      if isBlank char then .next (p.addBlank char) c.skip
      else if c.atDocumentSign then .fail
      else if !double && char = '\'' && c.sees '\'' 1 then .next (p.add '\'') (c.skip 2)
      else if char = (if double then '"' else '\'') then .done p.whole c.skip
      else if double && char = '\\' then
        match c.skip.lineBreak? with
        | some (_, after) => .next { text := p.settled, gap := some { broken := true } } after
        | none =>
            match escape? c with
            | some (char, after) => .next (p.add char) after
            | none => .fail
      else .next (p.add char) c.skip

end Quoted

/-- A quoted scalar, from its opening quote on. -/
def quotedScalar? (double : Bool) (c : Cursor) : Option (String × Cursor) :=
  c.skip.iterate (Quoted.step double) {}

namespace Block

/-- What becomes of the breaks at the end of a block scalar. -/
inductive Chomp
  | strip
  | clip
  | keep
deriving DecidableEq, Repr

/-- The chomping that a sign asks for, and what follows it. -/
def chomp (c : Cursor) : Chomp × Cursor :=
  if c.sees '+' then (.keep, c.skip) else if c.sees '-' then (.strip, c.skip) else (.clip, c)

/-- The indentation that a digit asks for, and what follows it. A zero asks for none there is. -/
def indentation? (c : Cursor) : Option (Option Nat × Cursor) :=
  match c.peek? 0 with
  | some char =>
      if char = '0' then none
      else match Decimal.digitValue? char with
        | some digit => some (some digit, c.skip)
        | none => some (none, c)
  | none => some (none, c)

/-- The signs after the one that starts a block scalar, in either order. -/
def header? (c : Cursor) : Option (Chomp × Option Nat × Cursor) := do
  let (chomped, c) := chomp c
  let (indent, c) ← indentation? c
  if chomped = .clip then
    let (chomped, c) := if indent.isSome then chomp c else (chomped, c)
    return (chomped, indent, c)
  else return (chomped, indent, c)

/-- The rest of a line that holds at most a comment. -/
def endLine? (c : Cursor) : Option Cursor :=
  let c := c.skipAll isBlank
  let c := if c.sees '#' then c.skipAll fun char => !isBreak char else c
  if c.atLineEnd then some ((c.lineBreak?.map (·.2)).getD c) else none

/-- One step through empty lines and the indentation after them; an unknown indentation is `none`.
The state is the breaks and the deepest column so far. -/
def breakStep (indent : Option Nat) (state : List Char × Nat) (c : Cursor) :
    Cursor.Move (List Char × Nat) (List Char × Nat) :=
  let deepest := max state.2 c.column
  let shallow := indent.all fun indent => c.column < indent
  if shallow && c.sees ' ' then .next (state.1, deepest) c.skip
  else if shallow && c.sees '\t' then .fail
  else
    match c.lineBreak? with
    | some (char, after) => .next (state.1 ++ [char], deepest) after
    | none => .done (state.1, deepest) c

/-- The breaks of empty lines, and the deepest column among them. -/
def breaks? (indent : Option Nat) (c : Cursor) : Option ((List Char × Nat) × Cursor) :=
  c.iterate (breakStep indent) ([], 0)

/-- A block scalar that is being read. -/
structure Lines where
  text : List Char := []
  /-- Whether the line before started with a blank. -/
  blank : Bool := false
  /-- The break after the line before. -/
  first : List Char := []
  /-- The breaks of the empty lines after it. -/
  others : List Char

/-- The text of a block scalar up to a line that starts with a blank or not. -/
def Lines.joined (folded : Bool) (l : Lines) (blank : Bool) : List Char :=
  if folded && l.first = ['\n'] && !l.blank && !blank then
    l.text ++ (if l.others = [] then [' '] else l.others)
  else l.text ++ l.first ++ l.others

def lineStep (folded : Bool) (indent : Nat) (l : Lines) (c : Cursor) : Cursor.Move Lines Lines :=
  if c.column = indent && !c.rest.isEmpty then
    let blank := c.seesSome isBlank
    let (line, after) := c.span fun char => !isBreak char
    let (first, after) := match after.lineBreak? with
      | some (char, after) => ([char], after)
      | none => ([], after)
    match breaks? (some indent) after with
    | some ((others, _), after) =>
        .next { text := l.joined folded blank ++ line, blank, first, others } after
    | none => .fail
  else .done l c

end Block

/-- A block scalar, from the sign on that starts it. `parent` is the indentation around it, which
is negative outside all collections. -/
def blockScalar? (folded : Bool) (parent : Int) (c : Cursor) : Option (String × Cursor) := do
  let (chomped, increment, c) ← Block.header? c.skip
  let c ← Block.endLine? c
  let given := increment.map fun increment =>
    if 0 ≤ parent then parent.toNat + increment else increment
  let ((others, deepest), c) ← Block.breaks? given c
  let indent := given.getD (max (max deepest (parent + 1).toNat) 1)
  let (lines, c) ← c.iterate (Block.lineStep folded indent) { others }
  let tail := match chomped with
    | .strip => []
    | .clip => lines.first
    | .keep => lines.first ++ lines.others
  return (String.ofList (lines.text ++ tail), c)

end RoleSecrets.Yaml
