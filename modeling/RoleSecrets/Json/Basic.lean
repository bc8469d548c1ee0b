import RoleSecrets.Text.Decimal

/-! # JSON values

Whole numbers of at most 64 bits are exact; every other number keeps its text. Objects keep their
members in order, and keep members of one name apart: what reads an object decides which counts.
Merging a patch into a value replaces the value unless both are objects; of objects it replaces the
members the patch names, and removes those it sets to null.
-/

namespace RoleSecrets

inductive Json
  | null
  | bool (value : Bool)
  /-- A whole number that fits a signed or an unsigned word of 64 bits. -/
  | int (value : Int)
  /-- Any other number, as written. -/
  | real (text : String)
  | str (text : String)
  | arr (items : List Json)
  | obj (members : List (String × Json))
deriving Inhabited, Repr

namespace Json

/-- The members of an object, or of a record given in another form. -/
abbrev Members := List (String × Json)

/-- The value of an object's last member of a name. -/
def get? (name : String) : Json → Option Json
  | obj members => (members.reverse.find? (·.1 = name)).map (·.2)
  | _ => none

/-- Whether a signed or an unsigned word of 64 bits holds a number. -/
def isWord (n : Int) : Bool := Decimal.fitsInt64 n || (0 ≤ n && Decimal.fitsNat64 n.toNat)

def str? : Json → Option String
  | str text => some text
  | _ => none

def bool? : Json → Option Bool
  | bool value => some value
  | _ => none

/-- The value of a number that fits a signed word of 64 bits. -/
def int64? : Json → Option Int
  | int value => if Decimal.fitsInt64 value then some value else none
  | _ => none

/-- The value of a number that fits an unsigned word of the given width. -/
def nat? (bits : Nat) : Json → Option Nat
  | int value => if 0 ≤ value ∧ value.toNat < 1 <<< bits then some value.toNat else none
  | _ => none

def items? : Json → Option (List Json)
  | arr items => some items
  | _ => none

def members? : Json → Option Members
  | obj members => some members
  | _ => none

/-- An object of the members that are set. -/
def ofMembers (members : List (String × Option Json)) : Json :=
  obj (members.filterMap fun (name, value) => value.map fun v => (name, v))

/-- An object's members without those of a name. -/
def without (name : String) (members : List (String × Json)) : List (String × Json) :=
  members.filter (·.1 ≠ name)

mutual

/-- A value with a patch merged into it; a missing value counts as null. -/
def merge (value patch : Json) : Json :=
  match patch with
  | .obj changes => .obj (mergeMembers ((members? value).getD []) changes)
  | patch => patch

/-- The members of an object with those of a patch merged into them. -/
def mergeMembers (members : List (String × Json)) : List (String × Json) → List (String × Json)
  | [] => members
  | (name, .null) :: changes => mergeMembers (without name members) changes
  | (name, patch) :: changes =>
      let old := ((obj members).get? name).getD .null
      mergeMembers (without name members ++ [(name, merge old patch)]) changes

end

end Json

end RoleSecrets
