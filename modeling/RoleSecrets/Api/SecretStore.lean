import RoleSecrets.Api.Metadata
import RoleSecrets.Effect
import RoleSecrets.Text.Base64

/-! # Secrets in the cluster's API

A secret is written as JSON, with the values of its data in base 64. Secrets are listed in one
namespace or in all, and written in the namespace they name. A secret without namespace or name
cannot be written.
-/

namespace RoleSecrets

namespace Secret

open Json

def toJson (s : Secret) : Json :=
  ofMembers [("apiVersion", some (.str "v1")), ("kind", some (.str "Secret")),
    ("data", s.data.map (ofFields fun bytes => .str (Base64.write bytes))),
    ("metadata", some s.metadata.toJson), ("type", s.type.map .str)]

/-- The bytes a value in base 64 stands for. -/
def bytes? (value : Json) : Option ByteArray := value.str?.bind Base64.read?

def ofJson? (value : Json) : Option Secret := do
  let members ← value.members?
  if !hasKind members "v1" "Secret" || !members.allows "immutable" bool? ||
      !members.allows "stringData" (fields? str?) then none
  else
  return {
    metadata := ← members.getD? "metadata" Metadata.ofJson? {}
    data := ← members.optional? "data" (fields? bytes?)
    type := ← members.optional? "type" str? }

end Secret

namespace SecretStore

/-- Sends a request for a path and reads the answer; for a path that cannot be one nothing is sent. -/
def exchange {α : Type} (request : ApiRequest) (read : ApiReply → Except ApiError α) :
    Controller (Except ApiError α) :=
  if request.path.isValid then do
    let reply ← Controller.request (.api request)
    pure (read reply)
  else pure (.error .noRequest)

/-- The secrets of a namespace, or of all, that a selector in text form selects. -/
def list (ns : Option String) (selector : String) : Controller (Except StoreError (List Secret)) := do
  let request : ApiRequest :=
    { method := .get, path := { collection := .secrets, ns }, query := [("labelSelector", selector)] }
  let secrets ← exchange request fun reply => reply.read (listItems? Secret.ofJson?)
  pure (secrets.mapError (.list selector))

/-- The key of a secret that is to be written. -/
def identity (s : Secret) : Except StoreError ObjectKey :=
  match s.metadata.ns, s.metadata.name with
  | none, _ => .error (.incomplete "namespace")
  | some _, none => .error (.incomplete "name")
  | some ns, some name => .ok ⟨ns, name⟩

/-- Sends a secret; the answer must be a secret too. -/
def write (method : Method) (path : ApiPath) (s : Secret) : Controller (Except ApiError Unit) :=
  exchange { method, path, body := some s.toJson } fun reply =>
    (reply.read Secret.ofJson?).map fun _ => ()

def create (s : Secret) : Controller (Except StoreError Unit) :=
  match identity s with
  | .error e => pure (.error e)
  | .ok key => do
      let written ← write .post { collection := .secrets, ns := some key.ns } s
      pure (written.mapError (.create key))

/-- Writes a secret in the place of the one with its namespace and name. -/
def update (s : Secret) : Controller (Except StoreError Unit) :=
  match identity s with
  | .error e => pure (.error e)
  | .ok key => do
      let path : ApiPath := { collection := .secrets, ns := some key.ns, name := some key.name }
      let written ← write .put path s
      pure (written.mapError (.update key))

/-- Whether a value is an answer to a deletion: a status, or the secret as it was. -/
def deleted? (value : Json) : Option Unit :=
  match value.get? "kind" with
  | some (.str "Status") => (ApiStatus.ofJson? value).map fun _ => ()
  | _ => (Secret.ofJson? value).map fun _ => ()

def delete (key : ObjectKey) : Controller (Except StoreError Unit) := do
  let path : ApiPath := { collection := .secrets, ns := some key.ns, name := some key.name }
  let gone ← exchange { method := .delete, path, body := some (.obj []) } fun reply =>
    reply.read deleted?
  pure (gone.mapError (.delete key))

end SecretStore

end RoleSecrets
