/-! # Base 64

Three bytes are written as four characters of six bits each, a shorter last group with `=` in the
places left over. Reading takes only what writing produces: full groups, and no bits beyond the
last byte.
-/

namespace RoleSecrets.Base64

/-- The character of six bits. -/
def charOf (n : Nat) : Char :=
  if n < 26 then Char.ofNat (65 + n)
  else if n < 52 then Char.ofNat (71 + n)
  else if n < 62 then Char.ofNat (n - 4)
  else if n = 62 then '+' else '/'

def valueOf? (c : Char) : Option Nat :=
  if 'A' ≤ c ∧ c ≤ 'Z' then some (c.toNat - 65)
  else if 'a' ≤ c ∧ c ≤ 'z' then some (c.toNat - 71)
  else if '0' ≤ c ∧ c ≤ '9' then some (c.toNat + 4)
  else if c = '+' then some 62
  else if c = '/' then some 63
  else none

def encode : List UInt8 → List Char
  | [] => []
  | [a] => [charOf (a.toNat / 4), charOf (a.toNat % 4 * 16), '=', '=']
  | [a, b] =>
      [charOf (a.toNat / 4), charOf (a.toNat % 4 * 16 + b.toNat / 16),
        charOf (b.toNat % 16 * 4), '=']
  | a :: b :: c :: rest =>
      charOf (a.toNat / 4) :: charOf (a.toNat % 4 * 16 + b.toNat / 16) ::
        charOf (b.toNat % 16 * 4 + c.toNat / 64) :: charOf (c.toNat % 64) :: encode rest

/-- The bytes of a last group that stands for one byte. -/
def readOne? (a b : Char) : Option (List UInt8) := do
  let a ← valueOf? a
  let b ← valueOf? b
  if b % 16 = 0 then some [(a * 4 + b / 16).toUInt8] else none

/-- The bytes of a last group that stands for two bytes. -/
def readTwo? (a b c : Char) : Option (List UInt8) := do
  let a ← valueOf? a
  let b ← valueOf? b
  let c ← valueOf? c
  if c % 4 = 0 then some [(a * 4 + b / 16).toUInt8, (b % 16 * 16 + c / 4).toUInt8] else none

/-- The bytes of a full group. -/
def readThree? (a b c d : Char) : Option (List UInt8) := do
  let a ← valueOf? a
  let b ← valueOf? b
  let c ← valueOf? c
  let d ← valueOf? d
  some [(a * 4 + b / 16).toUInt8, (b % 16 * 16 + c / 4).toUInt8, (c % 4 * 64 + d).toUInt8]

/-- The bytes that a text stands for. -/
def decode? : List Char → Option (List UInt8)
  | [] => some []
  | [a, b, c, d] =>
      if d = '=' then if c = '=' then readOne? a b else readTwo? a b c
      else readThree? a b c d
  | a :: b :: c :: d :: rest => do return (← readThree? a b c d) ++ (← decode? rest)
  | _ => none

def write (bytes : ByteArray) : String := String.ofList (encode bytes.toList)

def read? (text : String) : Option ByteArray := (decode? text.toList).map List.toByteArray

end RoleSecrets.Base64
