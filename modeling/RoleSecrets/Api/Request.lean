import RoleSecrets.Json.Members
import RoleSecrets.Json.Reader
import RoleSecrets.Json.Writer
import RoleSecrets.Text.Printable

/-! # Requests to the cluster's API

A request names a collection of objects, within a namespace or across all of them, and at times one
object of it. The API answers with a code and a body, or cannot be reached. Codes from 400 on are
errors, and their body says which.
-/

namespace RoleSecrets

open Json

/-- The collections of objects that are used. -/
inductive Collection
  | secrets
  | pods
  | roles
  | events
deriving DecidableEq, Repr

/-- The path of a version of the API, and the name of a collection in it. -/
def Collection.path : Collection → String × String
  | .secrets => ("/api/v1", "secrets")
  | .pods => ("/api/v1", "pods")
  | .roles => ("/apis/zalando.org/v1", "awsiamroles")
  | .events => ("/apis/events.k8s.io/v1", "events")

/-- What a request is about: a collection, in one namespace or in all, or the object of a name in
it, or the status of that object. -/
structure ApiPath where
  collection : Collection
  ns : Option String := none
  name : Option String := none
  ofStatus : Bool := false
deriving DecidableEq, Repr

def ApiPath.text (path : ApiPath) : String :=
  let (version, plural) := path.collection.path
  let ns := match path.ns with
    | some ns => "/namespaces/" ++ ns
    | none => ""
  let name := match path.name with
    | some name => "/" ++ name
    | none => ""
  version ++ ns ++ "/" ++ plural ++ name ++ (if path.ofStatus then "/status" else "")

/-- Whether a character can stand in a path. -/
def isPathChar (c : Char) : Bool :=
  let n := c.toNat
  n = 0x21 || (0x22 ≤ n && n ≤ 0x3B && n ≠ 0x23) || n = 0x3D || (0x40 ≤ n && n ≤ 0x5F) ||
    (0x61 ≤ n && n ≤ 0x7E) || 0x7F ≤ n

/-- Whether a request can be made for a path: a name is not empty, and all its characters are those
of a path. -/
def ApiPath.isValid (path : ApiPath) : Bool :=
  path.name ≠ some "" && path.text.toList.all isPathChar

inductive Method
  | get
  | post
  | put
  | patch
  | delete
deriving DecidableEq, Repr

def Method.name : Method → String
  | .get => "GET"
  | .post => "POST"
  | .put => "PUT"
  | .patch => "PATCH"
  | .delete => "DELETE"

def Method.contentType : Method → String
  | .get => ""
  | .patch => "application/merge-patch+json"
  | _ => "application/json"

structure ApiRequest where
  method : Method
  path : ApiPath
  query : List (String × String) := []
  body : Option Json := none

/-- The body of an answer: a JSON value, or a text that need not be one. -/
inductive ApiBody
  | json (value : Json)
  | text (content : String)

namespace ApiBody

def json? : ApiBody → Option Json
  | json value => some value
  | text content => Json.parse? content

def content : ApiBody → String
  | json value => value.write
  | text content => content

end ApiBody

/-- What comes back for a request. -/
inductive ApiReply
  /-- The API could not be reached. -/
  | failed (detail : String)
  | answered (code : Nat) (body : ApiBody)

/-- What the API says about an error, or about a request that has no other answer. -/
structure ApiStatus where
  success : Option Bool
  code : Nat
  message : String
  reason : String
  hasMetadata : Bool := false
deriving DecidableEq, Repr

namespace ApiStatus

/-- Whether a status is a success, as its summary says. -/
def success? : Json → Option Bool
  | .str "Success" => some true
  | .str "Failure" => some false
  | _ => none

def ofJson? (value : Json) : Option ApiStatus := do
  let members ← record? ["status", "code", "message", "metadata", "reason", "details"] value
  if !members.allows "details" members? then none
  else
    let metadata ← members.optional? "metadata" members?
    return {
      success := ← members.optional? "status" success?
      code := ← members.presentD? "code" (nat? 16) 0
      message := ← members.presentD? "message" str? ""
      reason := ← members.presentD? "reason" str? ""
      hasMetadata := metadata.isSome }

/-- The status of an answer with an error code; a body that is no status becomes the message. -/
def ofBody (code : Nat) (body : ApiBody) : ApiStatus :=
  match body.json?.bind ofJson? with
  | some status => status
  | none => ⟨some false, code, body.content, "Failed to parse error data", false⟩

/-- The text of the summary of a status. -/
def summaryText : Option Bool → String
  | none => "None"
  | some true => "Some(Success)"
  | some false => "Some(Failure)"

/-- The text of the metadata of a status, none of whose parts is ever set. -/
def metadataText (present : Bool) : String :=
  if present then
    "Some(ListMeta \x7b continue_: None, remaining_item_count: None, resource_version: None, " ++
      "self_link: None \x7d)"
  else "None"

/-- The text of a status: message and reason, then every part by its name. -/
def text (s : ApiStatus) : String :=
  s.message ++ ": " ++ s.reason ++ " (Status \x7b status: " ++ summaryText s.success ++
    ", code: " ++ toString s.code ++ ", message: " ++ Text.quoted s.message ++ ", metadata: " ++
    metadataText s.hasMetadata ++ ", reason: " ++ Text.quoted s.reason ++ ", details: None \x7d)"

end ApiStatus

/-- Why a request has no useful answer. -/
inductive ApiError
  /-- The API could not be reached. -/
  | transport (detail : String)
  /-- The API answered with an error. -/
  | status (status : ApiStatus)
  /-- The answer is not what was asked for. -/
  | undecodable
  /-- There is no such request. -/
  | noRequest
deriving DecidableEq, Repr

def ApiError.message : ApiError → String
  | .transport detail => "ServiceError: " ++ detail
  | .status s => "ApiError: " ++ s.text
  | .undecodable => "Error deserializing response"
  | .noRequest => "Failed to build request"

namespace ApiReply

/-- The body of an answer that is no error. -/
def body (reply : ApiReply) : Except ApiError ApiBody :=
  match reply with
  | .failed detail => .error (.transport detail)
  | .answered code body =>
      if 400 ≤ code ∧ code < 600 then .error (.status (ApiStatus.ofBody code body)) else .ok body

/-- The value of an answer that is no error. -/
def read {α : Type} (reply : ApiReply) (read? : Json → Option α) : Except ApiError α := do
  match (← reply.body).json?.bind read? with
  | some value => .ok value
  | none => .error .undecodable

end ApiReply

/-- The items of a list of objects. -/
def listItems? {α : Type} (read? : Json → Option α) (value : Json) : Option (List α) := do
  let members ← value.members?
  if !members.allows "metadata" members? then none
  else
    (members.required? "items" fun
      | .null => some []
      | items => list? read? items)

/-- The token of the next page of a list of objects. -/
def continueToken? (value : Json) : Option String := do
  let token ← (← value.get? "metadata").get? "continue"
  token.str?.filter (· ≠ "")

end RoleSecrets
