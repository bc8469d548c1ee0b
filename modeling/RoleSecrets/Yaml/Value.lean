import RoleSecrets.Text.Basic
import RoleSecrets.Text.Decimal
import RoleSecrets.Yaml.Node

/-! # Values of YAML nodes

What a scalar stands for depends on what its place asks for. Text may be written in any style. A
truth value, a number or nothing at all must be written plain, or as a literal block with the tag
of its kind.
-/

namespace RoleSecrets.Yaml

/-- The tag of one of the kinds of scalars that the language knows itself. -/
def coreTag (kind : String) : String := "tag:yaml.org,2002:" ++ kind

/-- The plain texts that stand for nothing. -/
def nothings : List String := ["null", "Null", "NULL", "~"]

/-- The plain texts that stand for truth values. -/
def flags : List (String × Bool) :=
  [("true", true), ("True", true), ("TRUE", true), ("false", false), ("False", false),
    ("FALSE", false)]

/-- The bases of numbers, by how their texts start. -/
def bases : List (List Char × Nat) :=
  [(['0', 'x'], 16), (['0', 'o'], 8), (['0', 'b'], 2)]

/-- The value of a whole number of at most 64 bits. A plus sign may stand before it; digits after a
leading zero are no number. -/
def natural? (text : List Char) : Option Nat :=
  let digits := Text.dropStart ['+'] text
  let value := match bases.findSome? fun (start, base) =>
      (Text.dropStart? start digits).bind (Decimal.readBase? base) with
    | some value => some value
    | none => if digits.head? = some '0' ∧ digits ≠ ['0'] then none else Decimal.readNat? digits
  value.filter Decimal.fitsNat64

namespace Node

variable {α : Type}

def text? : Node → Option String
  | .scalar text .. => some text
  | _ => none

/-- The text of a scalar that may stand for a value of a kind other than text. -/
def bare? (kind : String) : Node → Option String
  | .scalar text .plain _ => some text
  | .scalar text .literal (some tag) => if tag = coreTag kind then some text else none
  | _ => none

def bool? (node : Node) : Option Bool := do
  flags.lookup (← node.bare? "bool")

/-- The whole number a node stands for. -/
def nat? (node : Node) : Option Nat := do
  natural? (← node.bare? "int").toList

/-- The value of a node that may also stand for nothing. -/
def optional? (read? : Node → Option α) (node : Node) : Option (Option α) :=
  match node with
  | .scalar text .plain none =>
      if text = "" ∨ text ∈ nothings then some none else (read? node).map some
  | .scalar text .plain (some tag) =>
      if tag = coreTag "null" then if text ∈ nothings then some none else none
      else (read? node).map some
  | _ => (read? node).map some

/-- The members of a record that may not have any of some names twice. A record that is left out has
no members. -/
def record? (names : List String) : Node → Option (List (String × Node))
  | .mapping entries => do
      let members ← entries.mapM fun (key, value) => key.text?.map fun name => (name, value)
      if names.any fun name => 1 < (members.filter (·.1 = name)).length then none
      else some members
  | .scalar "" .plain _ => some []
  | _ => none

/-- The value of a member of a record, or a default where it is missing. -/
def memberD? (members : List (String × Node)) (name : String) (read? : Node → Option α)
    (default : α) : Option α :=
  match members.lookup name with
  | some node => read? node
  | none => some default

end Node

end RoleSecrets.Yaml
