import RoleSecrets.Api.Request
import RoleSecrets.Credentials
import RoleSecrets.Log
import RoleSecrets.Program

/-! # What a controller asks for

`Query` lists everything a controller does to the world around it and everything it learns from it;
`Reply` says what the answer to each question is. A `Controller` is a program over these. The first
one here gets credentials for a role: they are issued for the role's ARN under a session name
derived from it, and without a session name the issuer is not asked.
-/

namespace RoleSecrets

/-- Labels that secrets must have, with their values. -/
abbrev Selector := List (String × String)

def Selector.text (selector : Selector) : String :=
  ",".intercalate (selector.map fun (name, value) => name ++ "=" ++ value)

/-- Whether a secret has every label of a selector. -/
def Selector.selects (selector : Selector) (s : Secret) : Bool :=
  selector.all fun (name, value) => s.metadata.label? name = some value

/-- Why secrets could not be read or written. -/
inductive StoreError
  | list (selector : String) (cause : ApiError)
  | create (key : ObjectKey) (cause : ApiError)
  | update (key : ObjectKey) (cause : ApiError)
  | delete (key : ObjectKey) (cause : ApiError)
  /-- A secret lacks its name or its namespace. -/
  | incomplete (part : String)
deriving DecidableEq, Repr

def StoreError.message : StoreError → String
  | .list selector cause =>
      "Failed to list secrets matching " ++ selector ++ ", error: " ++ cause.message
  | .create key cause => failure "create" key cause
  | .update key cause => failure "update" key cause
  | .delete key cause => failure "delete" key cause
  | .incomplete part => "Secret is missing its " ++ part
where
  /-- The text of a failure to change a secret. -/
  failure (verb : String) (key : ObjectKey) (cause : ApiError) : String :=
    "Failed to " ++ verb ++ " secret " ++ key.name ++ " in namespace " ++ key.ns ++ ", error: " ++
      cause.message

/-- Why the declarations are not known, or a status could not be reported. -/
inductive SourceError
  | list (ns : Option String) (cause : ApiError)
  | updateStatus (key : ObjectKey) (cause : ApiError)
  /-- No listing of the pods has been complete so far. -/
  | notSynced
deriving DecidableEq, Repr

def SourceError.message : SourceError → String
  | .list ns cause =>
      "Failed to list AWSIAMRole resources in " ++ ns.getD "all namespaces" ++ ", error: " ++
        cause.message
  | .updateStatus key cause =>
      "Failed to update status of AWSIAMRole " ++ key.name ++ " in namespace " ++ key.ns ++
        ", error: " ++ cause.message
  | .notSynced => "Pod roles are not known yet, waiting for the first pod listing"

/-- Whether an event is a matter of course. -/
inductive EventType
  | normal
  | warning
deriving DecidableEq, Repr

def EventType.name : EventType → String
  | .normal => "Normal"
  | .warning => "Warning"

structure Event where
  subject : ObjectReference
  type : EventType
  reason : String
  note : String
deriving DecidableEq, Repr

inductive Query
  | listSecrets (selector : Selector)
  | createSecret (secret : Secret)
  | updateSecret (secret : Secret)
  | deleteSecret (key : ObjectKey)
  | assumeRole (roleArn sessionName : String) (duration : Nat)
  | recordEvent (event : Event)
  /-- Whether the registry comes from a complete listing. -/
  | registrySynced
  /-- The roles in use with their namespaces. -/
  | registryRoles
  | listDeclared
  | reportDeclared (declaration : Declaration) (status : RoleStatus)
  | api (request : ApiRequest)
  | log (record : LogRecord)

abbrev Reply : Query → Type
  | .listSecrets _ => Except StoreError (List Secret)
  | .createSecret _ | .updateSecret _ | .deleteSecret _ => Except StoreError Unit
  | .assumeRole .. => Except CredentialsError SessionKeys
  | .recordEvent _ | .log _ => Unit
  | .registrySynced => Bool
  | .registryRoles => List (String × String)
  | .listDeclared => Except SourceError (List Declaration)
  | .reportDeclared .. => Except SourceError Unit
  | .api _ => ApiReply

/-- A program that asks what controllers ask. -/
abbrev Controller := Program Query Reply

namespace Controller

def request (question : Query) : Controller (Reply question) := Program.request question

def log (level : LogLevel) (message : String) (fields : Fields String := []) : Controller Unit :=
  request (.log ⟨level, message, fields⟩)

end Controller

/-- Credentials for a role, valid for `duration` seconds. -/
def RoleNaming.fetch (naming : RoleNaming) (role : String) (duration : Nat) :
    Controller (Except CredentialsError Credentials) :=
  let roleArn := naming.resolve role
  match naming.sessionName roleArn with
  | .error cause => pure (.error (.sessionName roleArn cause))
  | .ok sessionName => do
      match ← Controller.request (.assumeRole roleArn sessionName duration) with
      | .error e => pure (.error e)
      | .ok keys => pure (.ok { keys with roleArn })

end RoleSecrets
