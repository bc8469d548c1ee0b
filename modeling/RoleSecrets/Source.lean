import RoleSecrets.Effect
import RoleSecrets.Registry
import RoleSecrets.Api.RoleResource

/-! # Sources of declarations

A source says which secrets it looks after and what is declared, and takes back what was delivered.
`ofPods` declares a secret for every role and namespace of the registry, `ofResources` one for every
role resource of the cluster, and `declared` has its declarations from a plain list.
-/

namespace RoleSecrets

structure Source where
  name : String
  /-- The labels of the secrets of this source. -/
  selector : Selector
  /-- Which of the selected secrets may be touched. -/
  manages : Secret → Bool
  declarations : Controller (Except SourceError (List Declaration))
  report : Declaration → RoleStatus → Controller (Except SourceError Unit)

namespace Source

def podDeclaration (role ns : String) : Declaration where
  ns
  secretName := Secret.nameStart ++ role
  role
  duration := defaultSessionDuration
  labels := [RoleResource.heritage]

/-- The declarations for the roles in use, once these are known. -/
def podDeclarations : Controller (Except SourceError (List Declaration)) := do
  if ← Controller.request .registrySynced then
    let roles ← Controller.request .registryRoles
    pure (.ok (roles.map fun (role, ns) => podDeclaration role ns))
  else pure (.error .notSynced)

/-- The source of the secrets that pods ask for. Secrets with an owner are left alone. -/
def ofPods : Source where
  name := "secrets"
  selector := [RoleResource.heritage]
  manages s := !s.metadata.hasOwner
  declarations := podDeclarations
  report _ _ := pure (.ok ())

/-- The declaration of a resource, if it has one; a resource without one is noted in the log. -/
def declare (r : RoleResource) : Controller (Option Declaration) := do
  let declaration := r.declaration?
  if declaration.isNone then
    Controller.log .warn "Skipping AWSIAMRole without name, namespace or UID"
      ((r.metadata.name.map fun name => ("name", name)).toList)
  pure declaration

/-- The declarations of the resources in a namespace, or in all. -/
def resourceDeclarations (ns : Option String) :
    Controller (Except SourceError (List Declaration)) := do
  let path : ApiPath := { collection := .roles, ns }
  if !path.isValid then pure (.error (.list ns .noRequest))
  else
    let reply ← Controller.request (.api { method := .get, path })
    match reply.read (listItems? RoleResource.ofJson?) with
    | .error cause => pure (.error (.list ns cause))
    | .ok resources => do
        let declared ← resources.mapM declare
        pure (.ok (declared.filterMap id))

def statusPatch (status : RoleStatus) : Json := .obj [("status", status.toResource.toJson)]

/-- Reports a status to the resource a declaration stems from. -/
def reportToResource (d : Declaration) (status : RoleStatus) :
    Controller (Except SourceError Unit) := do
  let path : ApiPath :=
    { collection := .roles, ns := some d.ns, name := some d.secretName, ofStatus := true }
  if !path.isValid then pure (.error (.updateStatus d.key .noRequest))
  else
    let reply ← Controller.request
      (.api { method := .patch, path, body := some (statusPatch status) })
    match reply.read RoleResource.ofJson? with
    | .error cause => pure (.error (.updateStatus d.key cause))
    | .ok _ => do
        Controller.log .debug "Updated AWSIAMRole status"
          [("namespace", d.ns), ("name", d.secretName),
            ("observed_generation", String.ofList (Decimal.ofInt status.generation))]
        pure (.ok ())

/-- The source of the secrets of role resources. -/
def ofResources (ns : Option String) : Source where
  name := "awsiamrole"
  selector := [RoleResource.heritage, RoleResource.secretType]
  manages _ := true
  declarations := resourceDeclarations ns
  report := reportToResource

/-- The source of the secrets of a plain list of declarations. -/
def declared : Source where
  name := "declared"
  selector := [RoleResource.heritage, RoleResource.secretType]
  manages _ := true
  declarations := Controller.request .listDeclared
  report d status := Controller.request (.reportDeclared d status)

end Source

end RoleSecrets
