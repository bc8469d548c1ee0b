import RoleSecrets.Fields

/-! # Object metadata

What a cluster keeps about each of its objects, whatever their kind, and how one object refers to
another. Every part may be unset, and unset is not the same as empty.
-/

namespace RoleSecrets

/-- A reference from an object to the one it belongs to. -/
structure OwnerReference where
  apiVersion : String
  kind : String
  name : String
  uid : String
  controller : Option Bool := none
  blockOwnerDeletion : Option Bool := none
deriving DecidableEq, Repr

/-- Two references agree when they name one object; who controls it does not matter. -/
def OwnerReference.agrees (a b : OwnerReference) : Bool :=
  a.apiVersion = b.apiVersion && a.kind = b.kind && a.uid = b.uid && a.name = b.name

/-- A reference to an object that an event is about. -/
structure ObjectReference where
  apiVersion : Option String := none
  fieldPath : Option String := none
  kind : Option String := none
  name : Option String := none
  ns : Option String := none
  resourceVersion : Option String := none
  uid : Option String := none
deriving DecidableEq, Repr

/-- The metadata of an object; `ns` is its namespace. -/
structure Metadata where
  name : Option String := none
  ns : Option String := none
  uid : Option String := none
  resourceVersion : Option String := none
  generation : Option Int := none
  labels : Option (Fields String) := none
  annotations : Option (Fields String) := none
  owners : Option (List OwnerReference) := none
deriving DecidableEq, Repr

namespace Metadata

/-- Whether any owner is recorded. -/
def hasOwner (m : Metadata) : Bool := (m.owners.getD []) ≠ []

/-- Whether one of the recorded owners is the given one. -/
def isOwnedBy (m : Metadata) (owner : OwnerReference) : Bool :=
  (m.owners.getD []).any fun recorded => recorded.agrees owner

def label? (m : Metadata) (name : String) : Option String :=
  m.labels.bind (Fields.get? name)

end Metadata

/-- What tells the secrets of a cluster apart: namespace and name. -/
structure ObjectKey where
  ns : String
  name : String
deriving DecidableEq, Repr

/-- The key in one text, as events and messages show it. -/
def ObjectKey.text (key : ObjectKey) : String := key.ns ++ "/" ++ key.name

/-- Keys are ordered by namespace, then by name. -/
def ObjectKey.before (a b : ObjectKey) : Bool :=
  a.ns < b.ns || (a.ns = b.ns && a.name < b.name)

end RoleSecrets
