import RoleSecrets.Drift
import RoleSecrets.Source

/-! # One tick of the reconciler

A tick lists the secrets and the declarations of a source, deletes the orphans, looks after the
managed secrets and creates the missing ones, in this order. A failure with one item is counted and
logged, and the tick goes on with the next. Credentials issued for a role and duration are used
again within the tick.
-/

namespace RoleSecrets

/-- What a tick has done. -/
structure Summary where
  created : Nat := 0
  updated : Nat := 0
  deleted : Nat := 0
  reported : Nat := 0
  failed : Nat := 0
deriving DecidableEq, Repr

namespace Summary

def writes (s : Summary) : Nat := s.created + s.updated + s.deleted + s.reported

def text (s : Summary) : String :=
  "TickSummary \x7b created: " ++ toString s.created ++ ", updated: " ++ toString s.updated ++
    ", deleted: " ++ toString s.deleted ++ ", reported: " ++ toString s.reported ++
    ", failed: " ++ toString s.failed ++ " \x7d"

def fail (s : Summary) : Summary := { s with failed := s.failed + 1 }

end Summary

/-- Why a tick did nothing. -/
inductive TickError
  | secrets (cause : StoreError)
  | declarations (cause : SourceError)
deriving DecidableEq, Repr

def TickError.message : TickError → String
  | .secrets cause => cause.message
  | .declarations cause => cause.message

/-- What a reconciler works with; `refreshLimit` is in seconds. -/
structure Reconciler where
  naming : RoleNaming
  source : Source
  refreshLimit : Nat

namespace Tick

/-- How far a tick has got: what it has done, and the credentials issued for each role and duration. -/
structure Progress where
  summary : Summary := {}
  issued : List ((String × Nat) × Credentials) := []

namespace Progress

def fail (p : Progress) : Progress := { p with summary := p.summary.fail }

/-- Credentials already issued for what a declaration asks. -/
def issued? (p : Progress) (d : Declaration) : Option Credentials :=
  p.issued.lookup (d.role, d.duration)

end Progress

/-- Records an event about the owner of a declaration, if it has one. -/
def record (d : Declaration) (type : EventType) (reason note : String) : Controller Unit :=
  match d.subject? with
  | some subject => Controller.request (.recordEvent ⟨subject, type, reason, note⟩)
  | none => pure ()

/-- Deletes a secret that nothing declares. -/
def deleteOrphan (p : Progress) (s : Secret) : Controller Progress :=
  match s.metadata.ns, s.metadata.name with
  | some ns, some name => do
      match ← Controller.request (.deleteSecret ⟨ns, name⟩) with
      | .error e => do
          Controller.log .error e.message
          pure p.fail
      | .ok () => do
          Controller.log .info "Removing unused credentials"
            ([("action", "delete")] ++
              ((s.text? Secret.roleArnKey).map fun arn => ("role_arn", arn)).toList ++
              [("secret", name), ("namespace", ns)])
          pure { p with summary := { p.summary with deleted := p.summary.deleted + 1 } }
  | _, _ => do
      Controller.log .warn "Skipping secret without namespace or name"
      pure p

/-- The credentials a declaration asks for: those of this tick, or newly issued ones. -/
def fetch (naming : RoleNaming) (p : Progress) (d : Declaration) :
    Controller (Except CredentialsError Credentials × Progress) :=
  match p.issued? d with
  | some credentials => pure (.ok credentials, p)
  | none => do
      match ← naming.fetch d.role d.duration with
      | .error e => pure (.error e, p)
      | .ok credentials =>
          pure (.ok credentials, { p with issued := ((d.role, d.duration), credentials) :: p.issued })

/-- The credentials a declaration asks for, where there are any; else the failure is made known. -/
def issue (naming : RoleNaming) (p : Progress) (d : Declaration) :
    Controller (Option Credentials × Progress) := do
  match ← fetch naming p d with
  | (.ok credentials, p) => pure (some credentials, p)
  | (.error e, p) => do
      Controller.log .error ("Failed to get credentials, error: " ++ e.message)
        [("role", d.role), ("secret", d.secretName), ("namespace", d.ns)]
      record d .warning "GetCredentialsFailed"
        ("Failed to get credentials for role '" ++ d.role ++ "': " ++ e.message)
      pure (none, p.fail)

/-- Reports what was delivered for a declaration, unless that has been reported before. -/
def report (source : Source) (p : Progress) (d : Declaration) (roleArn : String)
    (expiration : Timestamp) : Controller Progress :=
  match d.generation with
  | none => pure p
  | some generation =>
      let status := RoleStatus.of generation roleArn expiration
      if d.status = some status then pure p
      else do
        match ← source.report d status with
        | .ok () => pure { p with summary := { p.summary with reported := p.summary.reported + 1 } }
        | .error e => do
            Controller.log .error e.message
            pure p.fail

/-- Reports what a healthy secret holds. -/
def reportHealthy (r : Reconciler) (p : Progress) (d : Declaration) (s : Secret) :
    Controller Progress :=
  match s.expiration? with
  | none => pure p
  | some expiration =>
      report r.source p d ((s.text? Secret.roleArnKey).getD (r.naming.resolve d.role)) expiration

/-- The two ways in which credentials are put into a secret. -/
inductive Write
  | create
  /-- Into a secret that had drifted so far. -/
  | update (drift : Drift)
deriving DecidableEq, Repr

namespace Write

def verb : Write → String
  | create => "create"
  | update _ => "update"

def failedReason : Write → String
  | create => "CreateSecretFailed"
  | update _ => "UpdateSecretFailed"

def reason : Write → String
  | create => "CreateCredentials"
  | update _ => "UpdateCredentials"

def done : Write → String
  | create => "Created"
  | update _ => "Updated"

def message : Write → String
  | create => "Created credentials"
  | update _ => "Refreshed credentials"

def ask (w : Write) (s : Secret) : Controller (Except StoreError Unit) :=
  match w with
  | create => Controller.request (.createSecret s)
  | update _ => Controller.request (.updateSecret s)

/-- The drift a write makes up for. -/
def driftField : Write → Fields String
  | create => []
  | update drift => [("drift", drift.name)]

def count (w : Write) (s : Summary) : Summary :=
  match w with
  | create => { s with created := s.created + 1 }
  | update _ => { s with updated := s.updated + 1 }

end Write

/-- Writes the secret of a declaration and makes the outcome known. -/
def deliver (r : Reconciler) (w : Write) (p : Progress) (d : Declaration) (c : Credentials)
    (s : Secret) : Controller Progress := do
  match ← w.ask s with
  | .error e => do
      Controller.log .error e.message
      record d .warning w.failedReason
        ("Failed to " ++ w.verb ++ " secret " ++ d.key.text ++ " with credentials: " ++ e.message)
      pure p.fail
  | .ok () => do
      let expire := Rfc3339.format c.expiration
      Controller.log .info w.message
        ([("action", w.verb), ("role_arn", c.roleArn), ("secret", d.secretName),
          ("namespace", d.ns), ("expire", expire)] ++ w.driftField)
      record d .normal w.reason
        (w.done ++ " credentials for role '" ++ c.roleArn ++ "', expiry time: " ++ expire)
      report r.source { p with summary := w.count p.summary } d c.roleArn c.expiration

/-- The secret that is created for a declaration. -/
def newSecret (d : Declaration) (c : Credentials) : Secret where
  metadata := {
    name := some d.secretName
    ns := some d.ns
    labels := some d.labels
    owners := d.owner.map fun owner => [owner] }
  data := some (d.secretData c)

/-- A managed secret with new credentials: only its labels and its data change. -/
def refreshed (s : Secret) (d : Declaration) (c : Credentials) : Secret :=
  { s with metadata := { s.metadata with labels := some d.labels }, data := some (d.secretData c) }

/-- Looks after a managed secret. -/
def syncManaged (r : Reconciler) (p : Progress) (m : Drift.Managed) : Controller Progress :=
  if m.drift.needsCredentials then do
    match ← issue r.naming p m.declaration with
    | (none, p) => pure p
    | (some c, p) => deliver r (.update m.drift) p m.declaration c (refreshed m.secret m.declaration c)
  else reportHealthy r p m.declaration m.secret

def createMissing (r : Reconciler) (p : Progress) (d : Declaration) : Controller Progress := do
  match ← issue r.naming p d with
  | (none, p) => pure p
  | (some c, p) => deliver r .create p d c (newSecret d c)

def carryOut (r : Reconciler) (plan : Drift.Plan) : Controller Summary := do
  let p ← plan.orphans.foldlM deleteOrphan {}
  let p ← plan.managed.foldlM (syncManaged r) p
  let p ← plan.missing.foldlM (createMissing r) p
  pure p.summary

end Tick

def Reconciler.tick (r : Reconciler) (now : Timestamp) :
    Controller (Except TickError Summary) := do
  match ← Controller.request (.listSecrets r.source.selector) with
  | .error e => pure (.error (.secrets e))
  | .ok listed => do
      let secrets := listed.filter r.source.manages
      match ← r.source.declarations with
      | .error e => pure (.error (.declarations e))
      | .ok declarations => do
          let summary ← Tick.carryOut r (Drift.detect declarations secrets r.refreshLimit now)
          pure (.ok summary)

end RoleSecrets
