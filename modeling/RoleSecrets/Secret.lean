import RoleSecrets.Metadata
import RoleSecrets.Time.Rfc3339

/-! # Secrets

A secret holds credentials under fixed keys of its data. `expiration?` and `generation?` read back
what was recorded with them, and are none wherever a key is absent or its value unreadable.
-/

namespace RoleSecrets

structure Secret where
  metadata : Metadata := {}
  data : Option (Fields ByteArray) := none
  type : Option String := none

namespace Secret

def roleArnKey : String := "role-arn"

def expireKey : String := "expire"

def fileKey : String := "credentials"

/-- The key of the file that tells clients to run a process for the credentials. -/
def processKey : String := "credentials.process"

/-- The key of the document such a process prints. -/
def documentKey : String := "credentials.json"

/-- The key of the generation of the resource the secret was written for. -/
def generationKey : String := "awsiamrole-generation"

/-- How the names of secrets that pods ask for start. -/
def nameStart : String := "aws-iam-"

/-- The text under a key of the data, where it is UTF-8. -/
def text? (s : Secret) (key : String) : Option String := do
  String.fromUTF8? (← (← s.data).get? key)

def expiration? (s : Secret) : Option Timestamp :=
  (s.text? expireKey).bind Rfc3339.parse?

def generation? (s : Secret) : Option Int :=
  (s.text? generationKey).bind fun text => Decimal.readInt64? text.toList

/-- The key a secret is found by; unset names count as empty. -/
def key (s : Secret) : ObjectKey :=
  ⟨s.metadata.ns.getD "", s.metadata.name.getD ""⟩

end Secret

end RoleSecrets
