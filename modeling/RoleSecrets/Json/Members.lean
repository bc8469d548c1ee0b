import RoleSecrets.Fields
import RoleSecrets.Json.Basic

/-! # Reading the members of an object

A reader of a value is a partial function on `Json`. Members are read by name: an optional one may
be missing or null, and of members of one name the last counts, though all must be readable. A
record is stricter about its shape: it refuses repeated names, and may be given as an array of its
members in order.
-/

namespace RoleSecrets.Json

/-- The members of a record: an object that has no name of the record twice, or an array of no more
items than the record has names. -/
def record? (names : List String) : Json → Option Members
  | obj members =>
      if names.any fun name => 1 < (members.filter (·.1 = name)).length then none else some members
  | arr items => if items.length ≤ names.length then some (names.zip items) else none
  | _ => none

namespace Members

variable {α : Type}

def optional? (members : Members) (name : String) (read? : Json → Option α) : Option (Option α) :=
  (members.filter (·.1 = name)).foldlM
    (fun _ (_, value) => match value with
      | .null => some none
      | value => (read? value).map some)
    none

/-- The value of an optional member that stands for a default where it is missing or null. -/
def getD? (members : Members) (name : String) (read? : Json → Option α) (default : α) : Option α :=
  (members.optional? name read?).map fun value => value.getD default

/-- The value of a member that must be there. -/
def required? (members : Members) (name : String) (read? : Json → Option α) : Option α := do
  let found := members.filter (·.1 = name)
  let values ← found.mapM fun (_, value) => read? value
  values.getLast?

/-- The value of a member that stands for a default only where it is missing. -/
def presentD? (members : Members) (name : String) (read? : Json → Option α) (default : α) :
    Option α :=
  if members.any (·.1 = name) then members.required? name read? else some default

/-- Whether an optional member can be read. -/
def allows (members : Members) (name : String) (read? : Json → Option α) : Bool :=
  (members.optional? name read?).isSome

end Members

/-- The items of an array, each read alike. -/
def list? {α : Type} (read? : Json → Option α) (value : Json) : Option (List α) := do
  (← value.items?).mapM read?

/-- The members of an object as fields, each read alike. -/
def fields? {α : Type} (read? : Json → Option α) (value : Json) : Option (Fields α) := do
  let entries ← (← value.members?).mapM fun (name, value) => (read? value).map fun v => (name, v)
  return Fields.ofList entries

/-- An object of fields, each written alike. -/
def ofFields {α : Type} (write : α → Json) (fields : Fields α) : Json :=
  obj (fields.map fun (name, value) => (name, write value))

end RoleSecrets.Json
