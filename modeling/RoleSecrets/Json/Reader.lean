import RoleSecrets.Json.Basic

/-! # Reading JSON

A text is read in one pass. `Reader` is the state between two characters: the containers that are
still open, innermost first, and what may come next. A string may not hold raw controls or half of a
surrogate pair, and containers nest at most `maxDepth` deep.
-/

namespace RoleSecrets.Json

/-- A container that is still open, with what it holds so far in reverse. -/
inductive Frame
  | array (items : List Json)
  /-- An object between two members. -/
  | object (members : List (String × Json))
  /-- An object whose member of this name is being read. -/
  | member (members : List (String × Json)) (name : String)

/-- How far an escape inside a string has got. -/
inductive Escape
  /-- A plain character is due. -/
  | plain
  /-- A backslash was read. -/
  | started
  /-- So many digits of a code unit were read, after the first half of a pair where there is one. -/
  | unit (high : Option Nat) (count value : Nat)
  /-- The backslash of the second half of a pair is due. -/
  | pair (high : Nat)
  /-- The letter of the second half of a pair is due. -/
  | pairStarted (high : Nat)

/-- What may come next. -/
inductive Mode
  | value
  /-- An item, or the end of an array that has none. -/
  | firstItem
  /-- A name, or the end of an object that has no members. -/
  | firstName
  | name
  | colon
  /-- A comma or the end of the innermost container. -/
  | next
  /-- The rest of a string, which may be a member's name; its characters so far in reverse. -/
  | text (isName : Bool) (chars : List Char) (escape : Escape)
  /-- The rest of a number; its characters so far in reverse. -/
  | number (chars : List Char)
  /-- The rest of `null`, `true` or `false`, which stands for `value`. -/
  | word (rest : List Char) (value : Json)
  /-- Only blanks, after the whole value. -/
  | done (value : Json)

/-- The state between two characters. -/
structure Reader where
  frames : List Frame
  mode : Mode

/-- How deep containers may nest. -/
def maxDepth : Nat := 127

namespace Reader

def start : Reader := ⟨[], .value⟩

/-- Whether a character is white space between tokens. -/
def isSpace (c : Char) : Bool := c = ' ' || c = '\n' || c = '\t' || c = '\r'

/-- Puts a finished value where it belongs. -/
def close? (frames : List Frame) (value : Json) : Option Reader :=
  match frames with
  | [] => some ⟨[], .done value⟩
  | .array items :: frames => some ⟨.array (value :: items) :: frames, .next⟩
  | .member members name :: frames => some ⟨.object ((name, value) :: members) :: frames, .next⟩
  | .object _ :: _ => none

/-- Opens a container. -/
def nest? (r : Reader) (frame : Frame) (mode : Mode) : Option Reader :=
  if r.frames.length < maxDepth then some ⟨frame :: r.frames, mode⟩ else none

/-- Ends a string, which is a member's name or a value. -/
def closeText? (frames : List Frame) (isName : Bool) (text : String) : Option Reader :=
  if isName then
    match frames with
    | .object members :: frames => some ⟨.member members text :: frames, .colon⟩
    | _ => none
  else close? frames (.str text)

def isDigits (text : List Char) : Bool := text ≠ [] && text.all Char.isDigit

/-- Whether a text is the exponent of a number, or nothing. -/
def isExponent : List Char → Bool
  | [] => true
  | e :: rest =>
      (e = 'e' || e = 'E') &&
        match rest with
        | '+' :: ds => isDigits ds
        | '-' :: ds => isDigits ds
        | ds => isDigits ds

/-- Whether a text is the fraction and the exponent of a number, either of which may be missing. -/
def isFraction : List Char → Bool
  | '.' :: rest =>
      isDigits (rest.takeWhile Char.isDigit) && isExponent (rest.dropWhile Char.isDigit)
  | rest => isExponent rest

def number? (text : List Char) : Option Json :=
  let (negative, unsigned) := match text with
    | '-' :: rest => (true, rest)
    | rest => (false, rest)
  let whole := unsigned.takeWhile Char.isDigit
  let rest := unsigned.dropWhile Char.isDigit
  if whole = [] ∨ (whole.length > 1 ∧ whole.head? = some '0') ∨ !isFraction rest then none
  else
    let n : Int := ((Decimal.readNat? whole).getD 0 : Nat)
    let value := if negative then -n else n
    if rest = [] && isWord value && !(negative && n = 0) then some (.int value)
    else some (.real (String.ofList text))

/-- Begins a value. -/
def value? (r : Reader) (c : Char) : Option Reader :=
  if c = '"' then some ⟨r.frames, .text false [] .plain⟩
  else if c = '[' then r.nest? (.array []) .firstItem
  else if c = '\x7b' then r.nest? (.object []) .firstName
  else if c = '-' || c.isDigit then some ⟨r.frames, .number [c]⟩
  else if c = 'n' then some ⟨r.frames, .word "ull".toList .null⟩
  else if c = 't' then some ⟨r.frames, .word "rue".toList (.bool true)⟩
  else if c = 'f' then some ⟨r.frames, .word "alse".toList (.bool false)⟩
  else none

/-- Goes on after a finished value inside a container. -/
def next? (r : Reader) (c : Char) : Option Reader :=
  if isSpace c then some ⟨r.frames, .next⟩
  else
    match r.frames with
    | .array items :: frames =>
        if c = ',' then some ⟨r.frames, .value⟩
        else if c = ']' then close? frames (.arr items.reverse)
        else none
    | .object members :: frames =>
        if c = ',' then some ⟨r.frames, .name⟩
        else if c = '\x7d' then close? frames (.obj members.reverse)
        else none
    | _ => none

/-- The character an escape with one letter stands for. -/
def letterEscape? (c : Char) : Option Char :=
  if c = '"' then some '"'
  else if c = '\\' then some '\\'
  else if c = '/' then some '/'
  else if c = 'b' then some '\x08'
  else if c = 'f' then some '\x0c'
  else if c = 'n' then some '\n'
  else if c = 'r' then some '\r'
  else if c = 't' then some '\t'
  else none

/-- Whether a code unit is the first half of a surrogate pair. -/
def isHigh (unit : Nat) : Bool := 0xD800 ≤ unit && unit < 0xDC00

/-- Whether a code unit is the second half of a surrogate pair. -/
def isLow (unit : Nat) : Bool := 0xDC00 ≤ unit && unit < 0xE000

/-- Ends a code unit of a string. -/
def unit? (r : Reader) (isName : Bool) (chars : List Char) (high : Option Nat) (unit : Nat) :
    Option Reader :=
  match high with
  | none =>
      if isHigh unit then some ⟨r.frames, .text isName chars (.pair unit)⟩
      else if isLow unit then none
      else some ⟨r.frames, .text isName (Char.ofNat unit :: chars) .plain⟩
  | some high =>
      if isLow unit then
        let code := 0x10000 + (high - 0xD800) * 0x400 + (unit - 0xDC00)
        some ⟨r.frames, .text isName (Char.ofNat code :: chars) .plain⟩
      else none

/-- Goes on inside a string. -/
def text? (r : Reader) (isName : Bool) (chars : List Char) (c : Char) : Escape → Option Reader
  | .plain =>
      if c = '"' then closeText? r.frames isName (String.ofList chars.reverse)
      else if c = '\\' then some ⟨r.frames, .text isName chars .started⟩
      else if c.toNat < 0x20 then none
      else some ⟨r.frames, .text isName (c :: chars) .plain⟩
  | .started =>
      if c = 'u' then some ⟨r.frames, .text isName chars (.unit none 0 0)⟩
      else (letterEscape? c).map fun c => ⟨r.frames, .text isName (c :: chars) .plain⟩
  | .unit high count value => do
      let d ← Decimal.hexValue? c
      let value := 16 * value + d
      if count = 3 then r.unit? isName chars high value
      else some ⟨r.frames, .text isName chars (.unit high (count + 1) value)⟩
  | .pair high => if c = '\\' then some ⟨r.frames, .text isName chars (.pairStarted high)⟩ else none
  | .pairStarted high =>
      if c = 'u' then some ⟨r.frames, .text isName chars (.unit (some high) 0 0)⟩ else none

/-- Goes on outside numbers. -/
def plain? (r : Reader) (c : Char) : Option Reader :=
  match r.mode with
  | .value => if isSpace c then some r else r.value? c
  | .firstItem =>
      if isSpace c then some r
      else if c = ']' then
        match r.frames with
        | .array _ :: frames => close? frames (.arr [])
        | _ => none
      else r.value? c
  | .firstName =>
      if isSpace c then some r
      else if c = '"' then some ⟨r.frames, .text true [] .plain⟩
      else if c = '\x7d' then
        match r.frames with
        | .object _ :: frames => close? frames (.obj [])
        | _ => none
      else none
  | .name =>
      if isSpace c then some r
      else if c = '"' then some ⟨r.frames, .text true [] .plain⟩
      else none
  | .colon =>
      if isSpace c then some r else if c = ':' then some ⟨r.frames, .value⟩ else none
  | .next => r.next? c
  | .text isName chars escape => r.text? isName chars c escape
  | .word [] _ => none
  | .word (d :: rest) value =>
      if c ≠ d then none
      else if rest = [] then close? r.frames value
      else some ⟨r.frames, .word rest value⟩
  | .done _ => if isSpace c then some r else none
  | .number _ => none

/-- Whether a character can stand in a number. -/
def isNumberChar (c : Char) : Bool :=
  c.isDigit || c = '.' || c = 'e' || c = 'E' || c = '+' || c = '-'

/-- Ends a number, if one is being read. -/
def endNumber? (r : Reader) : Option Reader :=
  match r.mode with
  | .number chars => do close? r.frames (← number? chars.reverse)
  | _ => some r

/-- Goes on with one more character. -/
def step? (r : Reader) (c : Char) : Option Reader :=
  match r.mode with
  | .number chars =>
      if isNumberChar c then some ⟨r.frames, .number (c :: chars)⟩
      else do (← r.endNumber?).plain? c
  | _ => r.plain? c

/-- The value of the text read, where it is whole. -/
def finish? (r : Reader) : Option Json := do
  match (← r.endNumber?).mode with
  | .done value => some value
  | _ => none

end Reader

def parseChars? (text : List Char) : Option Json := do
  (← text.foldlM Reader.step? .start).finish?

def parse? (text : String) : Option Json := parseChars? text.toList

end RoleSecrets.Json
