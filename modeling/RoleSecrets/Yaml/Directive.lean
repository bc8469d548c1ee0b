import RoleSecrets.Text.Decimal
import RoleSecrets.Yaml.Scalar
import RoleSecrets.Yaml.Token

/-! # Scanning YAML names, tags and directives

Names of anchors, tags in their short and their full form, and the directives before a document.
-/

namespace RoleSecrets.Yaml

/-- The name of an anchor or alias, behind its sign. Only a gap or one of some signs may follow. -/
def anchorName? (c : Cursor) : Option (String × Cursor) :=
  let (name, after) := c.skip.span isNameChar
  let signs := ['?', ':', ',', ']', '\x7d', '%', '@', '\x60']
  if name ≠ [] && (after.atGap || after.seesSome signs.contains) then
    some (String.ofList name, after)
  else none

/-- Whether a character can stand in the suffix of a tag; a full tag allows a few more. -/
def isTagChar (full : Bool) (c : Char) : Bool :=
  isNameChar c || ";/?:@&=+$.!~*'()%".toList.contains c || (full && [',', '[', ']'].contains c)

/-- One byte that is written as a percent sign and two digits. -/
def percentByte? (c : Cursor) : Option UInt8 := do
  if !c.sees '%' then none
  else
    let high ← Decimal.hexValue? (← c.peek? 1)
    let low ← Decimal.hexValue? (← c.peek? 2)
    return (16 * high + low).toUInt8

/-- The length of the UTF-8 form of a character that starts with a byte. -/
def utf8Length? (byte : UInt8) : Option Nat :=
  let n := byte.toNat
  if n < 0x80 then some 1
  else if 0xC0 ≤ n ∧ n < 0xE0 then some 2
  else if 0xE0 ≤ n ∧ n < 0xF0 then some 3
  else if 0xF0 ≤ n ∧ n < 0xF8 then some 4
  else none

/-- The character that starts here as bytes with percent signs, and what follows it. -/
def percentChar? (c : Cursor) : Option (Char × Cursor) := do
  let length ← utf8Length? (← percentByte? c)
  let bytes ← (List.range length).mapM fun i => percentByte? (c.skip (3 * i))
  match (← String.fromUTF8? bytes.toByteArray).toList with
  | [char] => some (char, c.skip (3 * length))
  | _ => none

/-- One step through the suffix of a tag. -/
def suffixStep (full : Bool) (text : List Char) (c : Cursor) :
    Cursor.Move (List Char) (List Char) :=
  match c.peek? 0 with
  | some char =>
      if !isTagChar full char then .done text c
      else if char = '%' then
        match percentChar? c with
        | some (char, after) => .next (char :: text) after
        | none => .fail
      else .next (char :: text) c.skip
  | none => .done text c

/-- The suffix of a tag that starts with some characters already read. -/
def tagSuffix? (full : Bool) (start : List Char) (c : Cursor) : Option (String × Cursor) := do
  let (text, after) ← c.iterate (suffixStep full) start.reverse
  return (String.ofList text.reverse, after)

/-- The handle that a tag starts with: a name between two exclamation marks, or what there is of
that. -/
def tagHandle? (c : Cursor) : Option (List Char × Cursor) :=
  if !c.sees '!' then none
  else
    let (name, after) := c.skip.span isNameChar
    if after.sees '!' then some ('!' :: name ++ ['!'], after.skip) else some ('!' :: name, after)

/-- A tag in full form, between angle brackets. -/
def fullTag? (c : Cursor) : Option (Token × Cursor) := do
  let (suffix, after) ← tagSuffix? true [] (c.skip 2)
  if suffix ≠ "" && after.sees '>' then return (.tag "" suffix, after.skip) else none

/-- A tag in short form. -/
def shortTag? (c : Cursor) : Option (Token × Cursor) := do
  let (handle, after) ← tagHandle? c
  if 1 < handle.length && handle.getLast? = some '!' then
    let (suffix, after) ← tagSuffix? false [] after
    if suffix = "" then none else return (.tag (String.ofList handle) suffix, after)
  else
    let (suffix, after) ← tagSuffix? false handle.tail after
    return (if suffix = "" then .tag "" "!" else .tag "!" suffix, after)

/-- A tag, which only a gap may follow, or inside brackets a comma. -/
def tag? (inFlow : Bool) (c : Cursor) : Option (Token × Cursor) := do
  let (token, after) ← if c.sees '<' 1 then fullTag? c else shortTag? c
  if after.atGap || (inFlow && after.sees ',') then return (token, after) else none

/-- A number of at most nine digits. -/
def shortNumber? (c : Cursor) : Option (Nat × Cursor) :=
  let (digits, after) := c.span Char.isDigit
  if digits.length ≤ 9 then (Decimal.readNat? digits).map fun n => (n, after) else none

/-- The version of the language that a directive names. -/
def versionDirective? (c : Cursor) : Option (Token × Cursor) := do
  let (major, c) ← shortNumber? (c.skipAll isBlank)
  if !c.sees '.' then none
  else
    let (minor, c) ← shortNumber? c.skip
    return (.versionDirective major minor, c)

/-- The handle that a directive explains, and what it stands for. -/
def tagDirective? (c : Cursor) : Option (Token × Cursor) := do
  let (handle, c) ← tagHandle? (c.skipAll isBlank)
  if (handle ≠ ['!'] && (handle.length = 1 || handle.getLast? ≠ some '!')) || !c.seesSome isBlank
  then none
  else
    let (start, c) ← tagSuffix? true [] (c.skipAll isBlank)
    if start ≠ "" && c.atGap then return (.tagDirective (String.ofList handle) start, c) else none

/-- A directive with the rest of its line. -/
def directive? (c : Cursor) : Option (Token × Cursor) := do
  let (name, c) := c.skip.span isNameChar
  if name = [] || !c.atGap then none
  else
    let (token, c) ←
      if name = "YAML".toList then versionDirective? c
      else if name = "TAG".toList then tagDirective? c
      else none
    return (token, ← Block.endLine? c)

end RoleSecrets.Yaml
