import RoleSecrets.Api.Metadata
import RoleSecrets.RoleResource
import RoleSecrets.Time.Relaxed

/-! # Role resources as JSON

A resource needs a version, a kind, metadata and the name of its role. Its spec and its status are
records: a name may come up only once, and they may be given as arrays.
-/

namespace RoleSecrets

open Json

namespace RoleSpec

/-- What a resource asks for, as JSON. -/
def toJson (spec : RoleSpec) : Json :=
  ofMembers [("roleReference", some (.str spec.role)),
    ("roleSessionDuration", spec.duration.map .int)]

/-- What a resource asks for. -/
def ofJson? (value : Json) : Option RoleSpec := do
  let members ← record? ["roleReference", "roleSessionDuration"] value
  return {
    role := ← members.required? "roleReference" str?
    duration := ← members.optional? "roleSessionDuration" int64? }

end RoleSpec

namespace ResourceStatus

/-- A status as JSON; unset parts are left out. -/
def toJson (status : ResourceStatus) : Json :=
  ofMembers [("observedGeneration", status.generation.map .int),
    ("roleARN", status.roleArn.map .str),
    ("expiration", status.expiration.map fun t => .str (Rfc3339.formatExact t))]

def ofJson? (value : Json) : Option ResourceStatus := do
  let members ← record? ["observedGeneration", "roleARN", "expiration"] value
  return {
    generation := ← members.optional? "observedGeneration" int64?
    roleArn := ← members.optional? "roleARN" str?
    expiration := ← members.optional? "expiration" fun v => v.str?.bind Relaxed.parse? }

end ResourceStatus

def RoleResource.ofJson? (value : Json) : Option RoleResource := do
  let members ← record? ["apiVersion", "kind", "metadata", "spec", "status"] value
  let _ ← members.required? "apiVersion" str?
  let _ ← members.required? "kind" str?
  return {
    metadata := ← members.required? "metadata" Metadata.ofJson?
    spec := ← members.required? "spec" RoleSpec.ofJson?
    status := ← members.optional? "status" ResourceStatus.ofJson? }

end RoleSecrets
