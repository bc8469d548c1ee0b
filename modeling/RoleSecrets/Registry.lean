import RoleSecrets.Pod
import Std.Data.TreeMap
import Std.Data.TreeSet

/-! # The registry of roles in use

The registry knows for every role and namespace the pods that ask for it. Roles without namespaces
and namespaces without pods are dropped as they arise. It counts as synced once a complete listing
has replaced its content.
-/

namespace RoleSecrets

/-- The names of the pods that use a role, by namespace. -/
abbrev Registry.Namespaces := Std.TreeMap String (Std.TreeSet String)

/-- The pods that use a role, by role and namespace. -/
abbrev Registry.Roles := Std.TreeMap String Registry.Namespaces

/-- The roles in use, and whether they come from a complete listing. -/
structure Registry where
  roles : Registry.Roles := ∅
  synced : Bool := false

namespace Registry

instance : Inhabited Registry := ⟨{}⟩

/-- Adds a pod to the namespaces of a role. -/
def Namespaces.insert (namespaces : Namespaces) (ns name : String) : Namespaces :=
  namespaces.alter ns fun names => some ((names.getD ∅).insert name)

/-- Removes a pod from the namespaces of a role, and its namespace with the last one. -/
def Namespaces.erase (namespaces : Namespaces) (ns name : String) : Namespaces :=
  namespaces.alter ns fun names => names.bind fun names =>
    let left := names.erase name
    if left.isEmpty then none else some left

def Roles.insert (roles : Roles) (c : Consumer) : Roles :=
  roles.alter c.role fun namespaces => some (Namespaces.insert (namespaces.getD ∅) c.ns c.name)

/-- Removes a use of a role, and the role with the last one. -/
def Roles.erase (roles : Roles) (c : Consumer) : Roles :=
  roles.alter c.role fun namespaces => namespaces.bind fun namespaces =>
    let left := Namespaces.erase namespaces c.ns c.name
    if left.isEmpty then none else some left

/-- The uses of roles in a list. -/
def Roles.ofList (consumers : List Consumer) : Roles :=
  consumers.foldl Roles.insert ∅

def add (r : Registry) (c : Consumer) : Registry := { r with roles := r.roles.insert c }

def remove (r : Registry) (c : Consumer) : Registry := { r with roles := r.roles.erase c }

/-- The first half of `replace`: puts the uses of a complete listing in place of all others. -/
def swap (r : Registry) (consumers : List Consumer) : Registry :=
  { r with roles := Roles.ofList consumers }

/-- The second half of `replace`: marks the registry as synced. -/
def markSynced (r : Registry) : Registry := { r with synced := true }

/-- Takes over a complete listing. -/
def replace (r : Registry) (consumers : List Consumer) : Registry :=
  (r.swap consumers).markSynced

def uses (r : Registry) (role ns : String) : Bool :=
  match r.roles[role]? with
  | some namespaces => namespaces.contains ns
  | none => false

/-- The roles in use with their namespaces, in order. -/
def snapshot (r : Registry) : List (String × String) :=
  r.roles.toList.flatMap fun (role, namespaces) => namespaces.keys.map fun ns => (role, ns)

def isEmpty (r : Registry) : Bool := r.roles.isEmpty

end Registry

inductive RegistryChange
  | add (consumer : Consumer)
  | remove (consumer : Consumer)
  | replace (consumers : List Consumer)
deriving DecidableEq, Repr

def Registry.apply (r : Registry) : RegistryChange → Registry
  | .add consumer => r.add consumer
  | .remove consumer => r.remove consumer
  | .replace consumers => r.replace consumers

end RoleSecrets
