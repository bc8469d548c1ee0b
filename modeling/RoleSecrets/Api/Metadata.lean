import RoleSecrets.Json.Members
import RoleSecrets.Metadata
import RoleSecrets.Time.Rfc3339

/-! # Metadata and references as JSON

Members that are unset are left out when writing. Reading ignores members it does not know, and
takes the missing parts of a reference as empty.
-/

namespace RoleSecrets

open Json

namespace OwnerReference

def toJson (o : OwnerReference) : Json :=
  ofMembers [("apiVersion", some (.str o.apiVersion)),
    ("blockOwnerDeletion", o.blockOwnerDeletion.map .bool),
    ("controller", o.controller.map .bool), ("kind", some (.str o.kind)),
    ("name", some (.str o.name)), ("uid", some (.str o.uid))]

def ofJson? (value : Json) : Option OwnerReference := do
  let members ← value.members?
  return {
    apiVersion := ← members.getD? "apiVersion" str? ""
    kind := ← members.getD? "kind" str? ""
    name := ← members.getD? "name" str? ""
    uid := ← members.getD? "uid" str? ""
    controller := ← members.optional? "controller" bool?
    blockOwnerDeletion := ← members.optional? "blockOwnerDeletion" bool? }

end OwnerReference

namespace ObjectReference

def toJson (o : ObjectReference) : Json :=
  ofMembers [("apiVersion", o.apiVersion.map .str), ("fieldPath", o.fieldPath.map .str),
    ("kind", o.kind.map .str), ("name", o.name.map .str), ("namespace", o.ns.map .str),
    ("resourceVersion", o.resourceVersion.map .str), ("uid", o.uid.map .str)]

def ofJson? (value : Json) : Option ObjectReference := do
  let members ← value.members?
  return {
    apiVersion := ← members.optional? "apiVersion" str?
    fieldPath := ← members.optional? "fieldPath" str?
    kind := ← members.optional? "kind" str?
    name := ← members.optional? "name" str?
    ns := ← members.optional? "namespace" str?
    resourceVersion := ← members.optional? "resourceVersion" str?
    uid := ← members.optional? "uid" str? }

end ObjectReference

namespace Metadata

def toJson (m : Metadata) : Json :=
  ofMembers [("annotations", m.annotations.map (ofFields .str)),
    ("generation", m.generation.map .int), ("labels", m.labels.map (ofFields .str)),
    ("name", m.name.map .str), ("namespace", m.ns.map .str),
    ("ownerReferences", m.owners.map fun owners => .arr (owners.map OwnerReference.toJson)),
    ("resourceVersion", m.resourceVersion.map .str), ("uid", m.uid.map .str)]

/-- The instant a value stands for. -/
def time? (value : Json) : Option Timestamp := value.str?.bind Rfc3339.parse?

/-- Whether the members that are of no further use have the types they must have. -/
def wellTyped (members : Members) : Bool :=
  ["generateName", "selfLink"].all (fun name => members.allows name str?) &&
    ["creationTimestamp", "deletionTimestamp"].all (fun name => members.allows name time?) &&
    members.allows "finalizers" (list? str?) &&
    members.allows "managedFields" (list? members?) &&
    members.allows "deletionGracePeriodSeconds" int64?

def ofJson? (value : Json) : Option Metadata := do
  let members ← value.members?
  if !wellTyped members then none else
  return {
    name := ← members.optional? "name" str?
    ns := ← members.optional? "namespace" str?
    uid := ← members.optional? "uid" str?
    resourceVersion := ← members.optional? "resourceVersion" str?
    generation := ← members.optional? "generation" int64?
    labels := ← members.optional? "labels" (fields? str?)
    annotations := ← members.optional? "annotations" (fields? str?)
    owners := ← members.optional? "ownerReferences" (list? OwnerReference.ofJson?) }

end Metadata

/-- Whether the members of an object name the given version and kind, or neither. -/
def hasKind (members : Members) (apiVersion kind : String) : Bool :=
  members.presentD? "apiVersion" str? apiVersion = some apiVersion &&
    members.presentD? "kind" str? kind = some kind

end RoleSecrets
