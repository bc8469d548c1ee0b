import RoleSecrets.Credentials
import RoleSecrets.Log
import RoleSecrets.Program
import RoleSecrets.Time.Relaxed

/-! # The token service

Session keys are issued by the token service of a region, at an endpoint of its own; the regions of
China lie in another domain. Requests are signed with a key of one's own or, where a role is to be
assumed first, with a key that the service itself issues for that role. Without a region there is no
service to ask.
-/

namespace RoleSecrets

def Endpoint.regional (region : String) : String :=
  let domain :=
    if (Text.dropStart? "cn-".toList region.toList).isSome then "amazonaws.com.cn"
    else "amazonaws.com"
  "https://sts." ++ region ++ "." ++ domain

/-- A request to the token service: its form parameters, and the key it is signed with. -/
structure TokenRequest where
  url : String
  params : Fields String
  signedBy : String
deriving DecidableEq, Repr

/-- Session keys as the service sends them. -/
structure TokenGrant where
  accessKeyId : String
  secretAccessKey : String
  sessionToken : String
  expiration : String
deriving DecidableEq, Repr

inductive TokenReply
  | granted (grant : TokenGrant)
  /-- An answer without keys. -/
  | empty
  | refused (code : String)
deriving DecidableEq, Repr

abbrev TokenProgram := Program TokenRequest fun _ => TokenReply

structure TokenService where
  region : Option String
  /-- Whether the endpoint of the region is asked for by name. -/
  regional : Bool
  /-- The role that is assumed to sign requests. -/
  assumed : Option String := none
  /-- The key that signs requests otherwise. -/
  keyId : String

/-- The name the controller reports events and signs requests under. -/
def Identity.controllerName : String := "iamkeeper-controller"

namespace TokenService

/-- The name of the session that signs requests. -/
def signingSession : String := Identity.controllerName

/-- The longest duration that can be asked for, in seconds. -/
def maxDuration : Nat := 2147483647

/-- The domains of the regions that have one of their own, by how their names start. -/
def domains : List (String × String) :=
  [("cn-", "amazonaws.com.cn"), ("us-iso-", "c2s.ic.gov"), ("us-isob-", "sc2s.sgov.gov"),
    ("us-isof-", "csp.hci.ic.gov"), ("eu-isoe-", "cloud.adc-e.uk"), ("eusc-", "amazonaws.eu")]

/-- The endpoint of a region unless one is asked for by name. -/
def defaultEndpoint (region : String) : String :=
  if region = "aws-global" then "https://sts.amazonaws.com"
  else
    let own := domains.find? fun (start, _) =>
      (Text.dropStart? start.toList region.toList).isSome
    "https://sts." ++ region ++ "." ++ (own.map (·.2)).getD "amazonaws.com"

def url? (service : TokenService) : Option String :=
  service.region.map fun region =>
    (if service.regional then Endpoint.regional region else defaultEndpoint region) ++ "/"

/-- What is logged before the first request. -/
def notices (service : TokenService) : List LogRecord :=
  let signing := service.assumed.map fun role =>
    LogRecord.mk .info "Signing STS requests with an assumed role" [("role_arn", role)]
  let endpoint := (if service.regional then service.region else none).map fun region =>
    LogRecord.mk .info "Using regional STS endpoint" [("endpoint", Endpoint.regional region)]
  signing.toList ++ endpoint.toList

def params (roleArn sessionName : String) (duration : Option Nat) : Fields String :=
  [("Action", "AssumeRole"), ("Version", "2011-06-15"), ("RoleArn", roleArn),
    ("RoleSessionName", sessionName)] ++
    (duration.map fun seconds =>
      ("DurationSeconds", String.ofList (Decimal.digits (min seconds maxDuration)))).toList

def keys (roleArn : String) : TokenReply → Except CredentialsError SessionKeys
  | .empty => .error (.missing roleArn)
  | .refused code => .error (.refused roleArn code)
  | .granted grant =>
      match Rfc3339.parse? grant.expiration with
      | none => .error (.refused roleArn grant.expiration)
      | some expiration =>
          .ok ⟨grant.accessKeyId, grant.secretAccessKey, grant.sessionToken, expiration⟩

/-- The key that signs requests. -/
def signingKey (service : TokenService) (url : String) : TokenProgram (Except String String) :=
  match service.assumed with
  | none => pure (.ok service.keyId)
  | some role => do
      match keys role (← Program.request ⟨url, params role signingSession none, service.keyId⟩) with
      | .ok keys => pure (.ok keys.accessKeyId)
      | .error e => pure (.error e.message)

def assumeRole (service : TokenService) (roleArn sessionName : String) (duration : Nat) :
    TokenProgram (Except CredentialsError SessionKeys) :=
  match service.url? with
  | none => pure (.error (.refused roleArn "no region"))
  | some url => do
      match ← service.signingKey url with
      | .error detail => pure (.error (.refused roleArn detail))
      | .ok key =>
          let reply ← Program.request ⟨url, params roleArn sessionName (some duration), key⟩
          pure (keys roleArn reply)

end TokenService

end RoleSecrets
