import RoleSecrets.Effect
import RoleSecrets.Json.Basic
import RoleSecrets.Registry

/-! # A cluster in memory

`World` holds everything a controller can ask about: secrets, declarations, role resources, the
registry, an issuer of credentials and a clock in milliseconds. `World.serve` answers a question and
says what the world is afterwards. Every kind of question can be made to fail, and changes from
outside can be scheduled; one is made as soon as the clock has reached its time.
-/

namespace RoleSecrets

/-- Which questions fail, with the text of the failure. Writes fail by the key of the secret, and
the issuer by the ARN of the role. -/
structure Faults where
  list : Option String := none
  declarations : Option String := none
  create : Fields String := []
  update : Fields String := []
  delete : Fields String := []
  report : Fields String := []
  issue : Fields String := []

inductive Change
  | faults (faults : Faults)
  | expiration (expiration : Timestamp)
  | declarations (declarations : List Declaration)
  | resources (resources : List Json)
  | putSecret (secret : Secret)
  | removeSecret (key : ObjectKey)
  | registry (change : RegistryChange)

/-- The state of a cluster and of everything around it. -/
structure World where
  secrets : List Secret := []
  declarations : List Declaration := []
  resources : List Json := []
  registry : Registry := {}
  faults : Faults := {}
  /-- When credentials expire that are issued now. -/
  expiration : Timestamp
  /-- How many credentials have been issued. -/
  issued : Nat := 0
  /-- How long the next requests to the issuer take, in milliseconds; later ones take no time. -/
  delays : List Nat := []
  clock : Nat := 0
  /-- The changes still to come, each with its time. -/
  schedule : List (Nat × Change) := []

/-- Whether two secrets have the same namespace and name, set or not. -/
def Secret.sameKey (a b : Secret) : Bool :=
  a.metadata.ns = b.metadata.ns && a.metadata.name = b.metadata.name

/-- Whether a secret has a namespace and a name, and they are those of a key. -/
def Secret.hasKey (key : ObjectKey) (s : Secret) : Bool :=
  s.metadata.ns = some key.ns && s.metadata.name = some key.name

/-- Puts a secret in the place of the first with the same namespace and name, or at the end. -/
def putSecret (s : Secret) : List Secret → List Secret
  | [] => [s]
  | other :: rest => if other.sameKey s then s :: rest else other :: putSecret s rest

/-- The secrets without those of a key. -/
def removeSecret (key : ObjectKey) (secrets : List Secret) : List Secret :=
  secrets.filter fun s => !s.hasKey key

/-- Why secrets cannot be read or written, given the text of the fault. -/
def StoreError.ofFault (failure : ApiError → StoreError) (text : String) : StoreError :=
  if text = "incomplete:namespace" then .incomplete "namespace"
  else if text = "incomplete:name" then .incomplete "name"
  else failure (.transport text)

/-- A namespace of the metadata of an object. -/
def resourceNs? (resource : Json) : Option String := do
  (← (← resource.get? "metadata").get? "namespace").str?

/-- The key of an object that has a namespace and a name. -/
def resourceKey? (resource : Json) : Option ObjectKey := do
  return ⟨← resourceNs? resource, ← (← (← resource.get? "metadata").get? "name").str?⟩

/-- An object with the status of a patch merged into it. -/
def patchStatus (patch resource : Json) : Json :=
  match patch.get? "status" with
  | some status => resource.merge (.obj [("status", status)])
  | none => resource

namespace World

def apply (w : World) : Change → World
  | .faults faults => { w with faults }
  | .expiration expiration => { w with expiration }
  | .declarations declarations => { w with declarations }
  | .resources resources => { w with resources }
  | .putSecret s => { w with secrets := RoleSecrets.putSecret s w.secrets }
  | .removeSecret key => { w with secrets := RoleSecrets.removeSecret key w.secrets }
  | .registry change => { w with registry := w.registry.apply change }

/-- Makes the scheduled changes whose time has come, in their order. -/
def applyDue (w : World) : List (Nat × Change) → World
  | [] => { w with schedule := [] }
  | (time, change) :: later =>
      if time ≤ w.clock then applyDue (w.apply change) later
      else { w with schedule := (time, change) :: later }

/-- Lets the clock go on to a time, if that is still to come. -/
def advance (w : World) (time : Nat) : World :=
  let w := { w with clock := max w.clock time }
  w.applyDue w.schedule

/-- Answers a request of the API for role resources. -/
def serveApi (w : World) (request : ApiRequest) : ApiReply × World :=
  match request.method, request.path.name with
  | .get, none =>
      match w.faults.declarations with
      | some detail => (.failed detail, w)
      | none =>
          let items := match request.path.ns with
            | some ns => w.resources.filter fun resource => resourceNs? resource = some ns
            | none => w.resources
          (.answered 200 (.json (.obj [("apiVersion", .str "zalando.org/v1"),
            ("kind", .str "AWSIAMRoleList"), ("metadata", .obj []), ("items", .arr items)])), w)
  | .patch, some name =>
      let key : ObjectKey := ⟨request.path.ns.getD "", name⟩
      match w.faults.report.get? key.text with
      | some detail => (.failed detail, w)
      | none =>
          match w.resources.find? fun resource => resourceKey? resource = some key with
          | none => (.failed "no such resource", w)
          | some resource =>
              let patch := request.body.getD .null
              let resources := w.resources.map fun other =>
                if resourceKey? other = some key then patchStatus patch other else other
              (.answered 200 (.json (patchStatus patch resource)), { w with resources })
  | _, _ => (.failed "no such path", w)

/-- Issues credentials, once the time that takes has passed. -/
def serveIssuer (w : World) (roleArn sessionName : String) :
    Except CredentialsError SessionKeys × World :=
  let w := { w with delays := w.delays.tail }.advance (w.clock + w.delays.headD 0)
  match w.faults.issue.get? roleArn with
  | some text =>
      (.error (if text = "InvalidExpiration" then .badExpiration roleArn else .missing roleArn), w)
  | none =>
      let count := w.issued + 1
      (.ok ⟨"AKIA-" ++ sessionName, "secret-" ++ toString count, "token-" ++ toString count,
        w.expiration⟩, { w with issued := count })

/-- Answers a write of a secret: it fails if a fault says so. -/
def serveWrite (w : World) (faults : Fields String) (failure : ObjectKey → ApiError → StoreError)
    (key : ObjectKey) (after : List Secret) : Except StoreError Unit × World :=
  match faults.get? key.text with
  | some text => (.error (.ofFault (failure key) text), w)
  | none => (.ok (), { w with secrets := after })

/-- The declarations with a status on those of a key. -/
def setStatus (key : ObjectKey) (status : RoleStatus) (declarations : List Declaration) :
    List Declaration :=
  declarations.map fun d => if d.key = key then { d with status := some status } else d

def serve : (question : Query) → World → Reply question × World
  | .listSecrets selector, w =>
      match w.faults.list with
      | some text => (.error (.ofFault (.list selector.text) text), w)
      | none => (.ok (w.secrets.filter selector.selects), w)
  | .createSecret s, w =>
      w.serveWrite w.faults.create .create s.key (RoleSecrets.putSecret s w.secrets)
  | .updateSecret s, w =>
      w.serveWrite w.faults.update .update s.key (RoleSecrets.putSecret s w.secrets)
  | .deleteSecret key, w =>
      w.serveWrite w.faults.delete .delete key (RoleSecrets.removeSecret key w.secrets)
  | .assumeRole roleArn sessionName _, w => w.serveIssuer roleArn sessionName
  | .recordEvent _, w => ((), w)
  | .registrySynced, w => (w.registry.synced, w)
  | .registryRoles, w => (w.registry.snapshot, w)
  | .listDeclared, w =>
      match w.faults.declarations with
      | some detail => (.error (.list none (.transport detail)), w)
      | none => (.ok w.declarations, w)
  | .reportDeclared d status, w =>
      match w.faults.report.get? d.key.text with
      | some detail => (.error (.updateStatus d.key (.transport detail)), w)
      | none => (.ok (), { w with declarations := setStatus d.key status w.declarations })
  | .api request, w => w.serveApi request
  | .log _, w => ((), w)

abbrev Outcome := Program.Outcome Query Reply World

def run {α : Type} (w : World) (controller : Controller α) : Outcome α :=
  Program.run serve controller w

abbrev Step := Program.Step Query Reply World

def logs (steps : List Step) : List LogRecord :=
  steps.filterMap fun step => match step.question with
    | .log record => some record
    | _ => none

end World

end RoleSecrets
