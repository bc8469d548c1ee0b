import RoleSecrets.Json.Basic

/-! # Writing JSON

Values are written without blanks. In strings only quotes, backslashes and the controls below 0x20
are escaped, the common controls with a letter and the others with four hexadecimal digits.
-/

namespace RoleSecrets.Json

def escape (c : Char) : List Char :=
  if c = '"' then ['\\', '"']
  else if c = '\\' then ['\\', '\\']
  else if c = '\n' then ['\\', 'n']
  else if c = '\r' then ['\\', 'r']
  else if c = '\t' then ['\\', 't']
  else if c = '\x08' then ['\\', 'b']
  else if c = '\x0c' then ['\\', 'f']
  else if c.toNat < 0x20 then
    ['\\', 'u', '0', '0', Decimal.hexChar (c.toNat / 16), Decimal.hexChar (c.toNat % 16)]
  else [c]

/-- A string with its quotes. -/
def textChars (text : String) : List Char :=
  '"' :: (text.toList.flatMap escape ++ ['"'])

mutual

def chars : Json → List Char
  | null => "null".toList
  | bool true => "true".toList
  | bool false => "false".toList
  | int n => Decimal.ofInt n
  | real text => text.toList
  | str text => textChars text
  | arr items => '[' :: (itemChars items ++ [']'])
  | obj members => '\x7b' :: (memberChars members ++ ['\x7d'])

/-- The texts of the items of an array, with commas between them. -/
def itemChars : List Json → List Char
  | [] => []
  | [item] => item.chars
  | item :: next :: items => item.chars ++ ',' :: itemChars (next :: items)

/-- The texts of the members of an object, with commas between them. -/
def memberChars : List (String × Json) → List Char
  | [] => []
  | [(name, value)] => textChars name ++ ':' :: value.chars
  | (name, value) :: next :: members =>
      textChars name ++ ':' :: (value.chars ++ ',' :: memberChars (next :: members))

end

def write (value : Json) : String := String.ofList value.chars

end RoleSecrets.Json
