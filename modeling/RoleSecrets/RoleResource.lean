import RoleSecrets.Declaration

/-! # Role resources

A role resource declares a role in the cluster itself. Its status says what has been delivered for
it, any part of which may be unset.
-/

namespace RoleSecrets

structure RoleSpec where
  role : String
  duration : Option Int := none
deriving DecidableEq, Repr

/-- The session duration a resource asks for, in seconds: the default unless it is positive. -/
def RoleSpec.sessionDuration (spec : RoleSpec) : Nat :=
  match spec.duration with
  | some seconds => if 0 < seconds then seconds.toNat else defaultSessionDuration
  | none => defaultSessionDuration

/-- What has been delivered for a resource. -/
structure ResourceStatus where
  generation : Option Int := none
  roleArn : Option String := none
  expiration : Option Timestamp := none
deriving DecidableEq

/-- The status with every part set. -/
def RoleStatus.toResource (status : RoleStatus) : ResourceStatus :=
  ⟨some status.generation, some status.roleArn, some status.expiration⟩

/-- The status a resource reports, where no part of it is unset. -/
def ResourceStatus.complete? (status : ResourceStatus) : Option RoleStatus := do
  return RoleStatus.of (← status.generation) (← status.roleArn) (← status.expiration)

structure RoleResource where
  metadata : Metadata
  spec : RoleSpec
  status : Option ResourceStatus := none
deriving DecidableEq

namespace RoleResource

def apiVersion : String := "zalando.org/v1"

def kind : String := "AWSIAMRole"

/-- The label all credential secrets carry, and its value. -/
def heritage : String × String := ("heritage", "kube-aws-iam-controller")

/-- The label the secrets of role resources carry besides, and its value. -/
def secretType : String × String := ("type", "awsiamrole")

/-- What a resource declares: a secret of its own name, with its labels and the fixed ones, owned
by the resource. A resource without name, namespace or identifier declares nothing. -/
def declaration? (r : RoleResource) : Option Declaration := do
  let name ← r.metadata.name
  let ns ← r.metadata.ns
  let uid ← r.metadata.uid
  return {
    ns
    secretName := name
    role := r.spec.role
    duration := r.spec.sessionDuration
    labels := (r.metadata.labels.getD []).putAll [heritage, secretType]
    generation := some (r.metadata.generation.getD 0)
    owner := some { apiVersion, kind, name, uid }
    status := r.status.bind ResourceStatus.complete? }

end RoleResource

end RoleSecrets
