import RoleSecrets.Secret

/-! # Declarations

A declaration says that credentials for a role are to be kept in a secret. One that stems from a
resource has the resource as owner and its generation, and its status is reported back.
-/

namespace RoleSecrets

/-- What is reported about a role: which generation of its resource was served, the role's ARN, and
when the credentials expire, in whole seconds. -/
structure RoleStatus where
  generation : Int
  roleArn : String
  expiration : Timestamp
  nanos_eq_zero : expiration.nanos = 0
deriving DecidableEq

/-- The status for credentials that expire at an instant. -/
def RoleStatus.of (generation : Int) (roleArn : String) (expiration : Timestamp) : RoleStatus :=
  ⟨generation, roleArn, expiration.wholeSeconds, rfl⟩

/-- Credentials that are to be kept in a secret; `duration` is the session's, in seconds. -/
structure Declaration where
  ns : String
  secretName : String
  role : String
  duration : Nat
  labels : Fields String := []
  generation : Option Int := none
  owner : Option OwnerReference := none
  status : Option RoleStatus := none
deriving DecidableEq

/-- The session duration where none is asked for, in seconds. -/
def defaultSessionDuration : Nat := 3600

namespace Declaration

def key (d : Declaration) : ObjectKey := ⟨d.ns, d.secretName⟩

/-- The object that events about a declaration refer to: its owner. -/
def subject? (d : Declaration) : Option ObjectReference :=
  d.owner.map fun owner => {
    apiVersion := some owner.apiVersion
    kind := some owner.kind
    name := some owner.name
    ns := some d.ns
    uid := some owner.uid }

/-- Whether a secret has the declared namespace and name. -/
def matchesSecret (d : Declaration) (s : Secret) : Bool :=
  s.metadata.ns = some d.ns && s.metadata.name = some d.secretName

/-- Whether a secret belongs to the declared owner, if there is one. -/
def accepts (d : Declaration) (s : Secret) : Bool :=
  match d.owner with
  | none => true
  | some owner => s.metadata.isOwnedBy owner

end Declaration

end RoleSecrets
