/-! # Decimal numbers

Writing puts the most significant digit first; `fixed` has a given width and `digits` the least
one. Reading accepts ASCII digits only: `readNat?` any number of them, `readInt?` an optional sign
before them. Bounds are the caller's, see `readInt64?`.
-/

namespace RoleSecrets.Decimal

def digitChar (d : Nat) : Char := Char.ofNat (48 + d % 10)

/-- The last `width` decimal digits of a number, with leading zeros. -/
def fixed : (width n : Nat) → List Char
  | 0, _ => []
  | width + 1, n => fixed width (n / 10) ++ [digitChar n]

def digits (n : Nat) : List Char :=
  if n < 10 then [digitChar n] else digits (n / 10) ++ [digitChar n]
termination_by n
decreasing_by omega

/-- A number in digits, padded with zeros to at least `width` of them. -/
def padded (width n : Nat) : List Char :=
  let ds := digits n
  List.replicate (width - ds.length) '0' ++ ds

/-- An integer in digits, with a minus sign where it is negative. -/
def ofInt (n : Int) : List Char :=
  if n < 0 then '-' :: digits n.natAbs else digits n.natAbs

/-- The value of an ASCII digit. -/
def digitValue? (c : Char) : Option Nat :=
  if '0' ≤ c ∧ c ≤ '9' then some (c.toNat - 48) else none

/-- The value of a run of digits that follows a number already read. -/
def readOn : (value : Nat) → List Char → Option Nat
  | value, [] => some value
  | value, c :: rest => do
      let d ← digitValue? c
      readOn (10 * value + d) rest

def readNat? (text : List Char) : Option Nat :=
  if text = [] then none else readOn 0 text

/-- The value of one or more digits after an optional sign. -/
def readInt? : List Char → Option Int
  | '-' :: rest => (readNat? rest).map fun n => -(n : Int)
  | '+' :: rest => (readNat? rest).map Int.ofNat
  | text => (readNat? text).map Int.ofNat

/-- Half of the number of words of 64 bits: two to the 63rd. -/
def halfRange : Nat := 0x8000000000000000

def fitsInt64 (n : Int) : Bool := -(halfRange : Int) ≤ n && n < (halfRange : Int)

def fitsNat64 (n : Nat) : Bool := n < 2 * halfRange

def readInt64? (text : List Char) : Option Int :=
  (readInt? text).filter fitsInt64

/-- The value of an unsigned integer of 64 bits; a plus sign may stand before it. -/
def readNat64? (text : List Char) : Option Nat :=
  let unsigned := match text with
    | '+' :: rest => readNat? rest
    | _ => readNat? text
  unsigned.filter fitsNat64

/-- The character of a hexadecimal digit, in lower case. -/
def hexChar (d : Nat) : Char := if d < 10 then Char.ofNat (48 + d) else Char.ofNat (87 + d)

/-- The hexadecimal digits of a number, without leading zeros. -/
def hexDigits (n : Nat) : List Char :=
  if n < 16 then [hexChar n] else hexDigits (n / 16) ++ [hexChar (n % 16)]
termination_by n
decreasing_by omega

/-- The value of a hexadecimal digit of either case. -/
def hexValue? (c : Char) : Option Nat :=
  if '0' ≤ c ∧ c ≤ '9' then some (c.toNat - 48)
  else if 'a' ≤ c ∧ c ≤ 'f' then some (c.toNat - 87)
  else if 'A' ≤ c ∧ c ≤ 'F' then some (c.toNat - 55)
  else none

/-- The value of one or more digits of a base of at most sixteen. -/
def readBase? (base : Nat) (text : List Char) : Option Nat :=
  if text = [] then none
  else text.foldlM (fun value c => do
    let d ← hexValue? c
    if d < base then some (base * value + d) else none) 0

end RoleSecrets.Decimal
