import RoleSecrets.Json.Members
import RoleSecrets.Json.Reader
import RoleSecrets.RoleArn

/-! # The metadata of the instance

An instance can ask which profile it runs with. The base of role ARNs is found from the profile's
ARN.
-/

namespace RoleSecrets.InstanceMetadata

inductive Reply
  | unreachable
  | answered (body : String)

/-- Why the base of role ARNs cannot be found. -/
inductive Failure
  | query
  /-- The answer does not name a profile. -/
  | parse
  | profile (cause : ArnError)
deriving DecidableEq, Repr

/-- The ARN of the profile that an answer names. -/
def profileArn? (body : String) : Option String := do
  let members ← Json.record? ["InstanceProfileArn"] (← Json.parse? body)
  members.required? "InstanceProfileArn" Json.str?

def baseArn : Reply → Except Failure String
  | .unreachable => .error .query
  | .answered body =>
      match profileArn? body with
      | none => .error .parse
      | some arn => (RoleArn.baseOfProfile arn).mapError .profile

def Failure.message : Failure → String
  | .query => "Failed to query instance metadata"
  | .parse => "Failed to parse instance metadata IAM info"
  | .profile cause => cause.message

end RoleSecrets.InstanceMetadata
