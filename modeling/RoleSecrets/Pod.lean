import RoleSecrets.Metadata
import RoleSecrets.Secret

/-! # Pods and the roles they ask for

A pod asks for a role by mounting a secret whose name is the role behind a fixed start. The first
volume with such a secret counts.
-/

namespace RoleSecrets

/-- A pod, with the name of the secret of each of its volumes that has one. -/
structure Pod where
  metadata : Metadata := {}
  volumeSecrets : List String := []
deriving DecidableEq, Repr

/-- The role named by the name of a secret. -/
def roleOfSecretName? (name : String) : Option String :=
  (Text.dropStart? Secret.nameStart.toList name.toList).map String.ofList

/-- The role a pod asks for. -/
def Pod.role? (pod : Pod) : Option String :=
  (pod.volumeSecrets.findSome? roleOfSecretName?).filter (· ≠ "")

/-- A use of a role by a pod; `ns` is the pod's namespace and `name` its name. -/
structure Consumer where
  role : String
  ns : String
  name : String
deriving DecidableEq, Repr

/-- The use of a role that a pod stands for. -/
def Pod.consumer? (pod : Pod) : Option Consumer := do
  return ⟨← pod.role?, ← pod.metadata.ns, ← pod.metadata.name⟩

end RoleSecrets
