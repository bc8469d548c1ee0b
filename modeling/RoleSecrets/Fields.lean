/-! # Named fields

Labels, annotations and the data of a secret are values under distinct names. A later value under
a name takes the place of an earlier one.
-/

namespace RoleSecrets

/-- Values under names. -/
abbrev Fields (α : Type) := List (String × α)

namespace Fields

variable {α : Type}

def get? (name : String) : Fields α → Option α
  | [] => none
  | (other, value) :: fields => if other = name then some value else get? name fields

def put (name : String) (value : α) : Fields α → Fields α
  | [] => [(name, value)]
  | (other, old) :: fields =>
      if other = name then (name, value) :: fields else (other, old) :: put name value fields

@[simp] theorem get?_put_self (name : String) (value : α) (fields : Fields α) :
    get? name (put name value fields) = some value := by
  induction fields with
  | nil => simp [put, get?]
  | cons field fields ih =>
    obtain ⟨other, old⟩ := field
    by_cases h : other = name <;> simp [put, get?, h, ih]

theorem get?_put_of_ne {name other : String} (distinct : other ≠ name) (value : α)
    (fields : Fields α) : get? name (put other value fields) = get? name fields := by
  induction fields with
  | nil => simp [put, get?, distinct]
  | cons field fields ih =>
    obtain ⟨key, old⟩ := field
    by_cases h : key = other
    · subst h; simp [put, get?, distinct]
    · simp only [put, h, if_false, get?, ih]

/-- The fields with all of some new ones put in. -/
def putAll (fields new : Fields α) : Fields α :=
  new.foldl (fun fields (name, value) => put name value fields) fields

/-- The fields given by a list in which a name may come up again. -/
def ofList (entries : List (String × α)) : Fields α := putAll [] entries

end Fields

end RoleSecrets
