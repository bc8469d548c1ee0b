/-! # Cutting and measuring text

Text is handled as a list of characters. `splitOn` cuts at a separator and loses nothing else,
`byteLength` measures in UTF-8 bytes, and `takeBytes` keeps the longest start of a text that fits a
budget of bytes, so a cut never falls inside a character.
-/

namespace RoleSecrets.Text

/-- The pieces of a text between its separators; there is always at least one piece. -/
def splitOn (sep : Char) : List Char → List (List Char)
  | [] => [[]]
  | c :: rest =>
      if c = sep then [] :: splitOn sep rest
      else match splitOn sep rest with
        | [] => [[c]]
        | piece :: pieces => (c :: piece) :: pieces

theorem splitOn_ne_nil (sep : Char) (text : List Char) : splitOn sep text ≠ [] := by
  cases text with
  | nil => simp [splitOn]
  | cons c rest =>
    by_cases h : c = sep
    · simp [splitOn, h]
    · simp only [splitOn, h, if_false]
      split <;> simp

/-- The pieces of a text around its first `cuts` separators, the last piece keeping the others. -/
def splitAtMost (sep : Char) : Nat → List Char → List (List Char)
  | 0, text => [text]
  | _ + 1, [] => [[]]
  | cuts + 1, c :: rest =>
      if c = sep then [] :: splitAtMost sep cuts rest
      else match splitAtMost sep (cuts + 1) rest with
        | [] => [[c]]
        | piece :: pieces => (c :: piece) :: pieces

/-- What stands before and after the first separator. -/
def cutAt? (sep : Char) : List Char → Option (List Char × List Char)
  | [] => none
  | c :: rest =>
      if c = sep then some ([], rest)
      else (cutAt? sep rest).map fun (before, after) => (c :: before, after)

/-- What follows a given start. -/
def dropStart? : (start text : List Char) → Option (List Char)
  | [], text => some text
  | _ :: _, [] => none
  | s :: start, c :: text => if s = c then dropStart? start text else none

/-- What precedes a given end. -/
def dropEnd? (ending text : List Char) : Option (List Char) :=
  (dropStart? ending.reverse text.reverse).map List.reverse

/-- A text without a given start, unchanged where it starts otherwise. -/
def dropStart (start text : List Char) : List Char :=
  (dropStart? start text).getD text

/-- A text without a given end, unchanged where it ends otherwise. -/
def dropEnd (ending text : List Char) : List Char :=
  (dropEnd? ending text).getD text

/-- Writes `new` for the first occurrence of `old`. -/
def replaceFirst (old new : List Char) : List Char → List Char
  | [] => if old = [] then new else []
  | c :: rest =>
      match dropStart? old (c :: rest) with
      | some after => new ++ after
      | none => c :: replaceFirst old new rest

/-- Writes `new` for every character `old`. -/
def replaceChar (old new : Char) (text : List Char) : List Char :=
  text.map fun c => if c = old then new else c

/-- The length of a text in UTF-8 bytes. -/
def byteLength : List Char → Nat
  | [] => 0
  | c :: text => c.utf8Size + byteLength text

@[simp] theorem byteLength_nil : byteLength [] = 0 := rfl

@[simp] theorem byteLength_cons (c : Char) (text : List Char) :
    byteLength (c :: text) = c.utf8Size + byteLength text := rfl

@[simp] theorem byteLength_append (first second : List Char) :
    byteLength (first ++ second) = byteLength first + byteLength second := by
  induction first with
  | nil => simp
  | cons c first ih => simp [ih, Nat.add_assoc]

/-- The longest start of a text that takes no more than `budget` bytes. -/
def takeBytes : (budget : Nat) → List Char → List Char
  | _, [] => []
  | budget, c :: rest =>
      if c.utf8Size ≤ budget then c :: takeBytes (budget - c.utf8Size) rest else []

theorem byteLength_takeBytes_le (budget : Nat) (text : List Char) :
    byteLength (takeBytes budget text) ≤ budget := by
  induction text generalizing budget with
  | nil => simp [takeBytes]
  | cons c rest ih =>
    by_cases h : c.utf8Size ≤ budget
    · have := ih (budget - c.utf8Size)
      simp only [takeBytes, h, if_true, byteLength_cons]
      omega
    · simp [takeBytes, h]

theorem takeBytes_eq_self {budget : Nat} {text : List Char} (fits : byteLength text ≤ budget) :
    takeBytes budget text = text := by
  induction text generalizing budget with
  | nil => rfl
  | cons c rest ih =>
    rw [byteLength_cons] at fits
    have first : c.utf8Size ≤ budget := by omega
    simp only [takeBytes, first, if_true]
    rw [ih (by omega)]

/-- Blanks in the sense of Unicode's property White_Space. -/
def isBlank (c : Char) : Bool :=
  let n := c.toNat
  (9 ≤ n && n ≤ 13) || n = 0x20 || n = 0x85 || n = 0xA0 || n = 0x1680 ||
    (0x2000 ≤ n && n ≤ 0x200A) || n = 0x2028 || n = 0x2029 || n = 0x202F || n = 0x205F || n = 0x3000

/-- A text without the blanks at its start. -/
def trimStart (text : List Char) : List Char := text.dropWhile isBlank

/-- The lower-case form of an ASCII letter; other characters stay. -/
def lower (text : List Char) : List Char := text.map Char.toLower

/-- Pieces with a separator between neighbours. -/
def join (sep : List Char) (pieces : List (List Char)) : List Char := sep.intercalate pieces

end RoleSecrets.Text
