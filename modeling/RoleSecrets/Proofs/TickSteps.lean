import RoleSecrets.Proofs.SourceLaws

/-! # What each part of a tick does

For every part of a tick there is a relation whose cases are the ways it can go: how credentials are
come by, how they are put into a secret, how a status is reported, how an orphan is deleted. Each
case gives the whole outcome, with the steps in their order. What holds of ticks is read off these.
-/

namespace RoleSecrets.Tick

open World

/-- The event about the owner of a declaration, if it has one, as a step. -/
def eventSteps (w : World) (d : Declaration) (type : EventType) (reason note : String) :
    List World.Step :=
  match d.subject? with
  | some subject => [⟨w, .recordEvent ⟨subject, type, reason, note⟩, ()⟩]
  | none => []

theorem run_record (w : World) (d : Declaration) (type : EventType) (reason note : String) :
    w.run (record d type reason note) = ⟨(), w, eventSteps w d type reason note⟩ := by
  unfold record eventSteps
  cases d.subject? <;> rfl

def unissuedRecord (d : Declaration) (e : CredentialsError) : LogRecord :=
  ⟨.error, "Failed to get credentials, error: " ++ e.message,
    [("role", d.role), ("secret", d.secretName), ("namespace", d.ns)]⟩

/-- The steps that make a failure to come by credentials known. -/
def unissuedSteps (w : World) (d : Declaration) (e : CredentialsError) : List World.Step :=
  ⟨w, .log (unissuedRecord d e), ()⟩ ::
    eventSteps w d .warning "GetCredentialsFailed"
      ("Failed to get credentials for role '" ++ d.role ++ "': " ++ e.message)

/-- Progress with credentials that have been issued for a declaration. -/
def Progress.remember (p : Progress) (d : Declaration) (c : Credentials) : Progress :=
  { p with issued := ((d.role, d.duration), c) :: p.issued }

/-- What is remembered is either new or was remembered before. -/
theorem Progress.lookup_remember {p : Progress} {d : Declaration} {c found : Credentials}
    {asked : String × Nat} (kept : (p.remember d c).issued.lookup asked = some found) :
    asked = (d.role, d.duration) ∧ found = c ∨ p.issued.lookup asked = some found := by
  rw [remember, List.lookup_cons] at kept
  split at kept
  · rename_i same
    exact .inl ⟨eq_of_beq same, (Option.some.inj kept).symm⟩
  · exact .inr kept

inductive Issuance (naming : RoleNaming) (p : Progress) (d : Declaration) (w : World) :
    World.Outcome (Option Credentials × Progress) → Prop
  /-- They were issued before in this tick. -/
  | reused {c : Credentials} (kept : p.issued? d = some c) : Issuance naming p d w ⟨(some c, p), w, []⟩
  /-- The role has no session name. -/
  | unnamed {cause : ArnError} (fresh : p.issued? d = none)
      (nameless : naming.sessionName (naming.resolve d.role) = .error cause) :
      Issuance naming p d w
        ⟨(none, p.fail), w, unissuedSteps w d (.sessionName (naming.resolve d.role) cause)⟩
  | refused {session : String} {e : CredentialsError} {after : World} (fresh : p.issued? d = none)
      (named : naming.sessionName (naming.resolve d.role) = .ok session)
      (served : serve (.assumeRole (naming.resolve d.role) session d.duration) w = (.error e, after)) :
      Issuance naming p d w ⟨(none, p.fail), after,
        ⟨w, .assumeRole (naming.resolve d.role) session d.duration, .error e⟩ ::
          unissuedSteps after d e⟩
  | issued {session : String} {keys : SessionKeys} {after : World} (fresh : p.issued? d = none)
      (named : naming.sessionName (naming.resolve d.role) = .ok session)
      (served : serve (.assumeRole (naming.resolve d.role) session d.duration) w = (.ok keys, after)) :
      Issuance naming p d w
        ⟨(some { keys with roleArn := naming.resolve d.role },
            p.remember d { keys with roleArn := naming.resolve d.role }), after,
          [⟨w, .assumeRole (naming.resolve d.role) session d.duration, .ok keys⟩]⟩

theorem run_issue (naming : RoleNaming) (p : Progress) (d : Declaration) (w : World) :
    Issuance naming p d w (w.run (issue naming p d)) := by
  cases kept : p.issued? d with
  | some c =>
    have fetched : w.run (fetch naming p d) = ⟨(.ok c, p), w, []⟩ := by
      simp only [fetch, kept]
      rfl
    rw [issue, run_bind_of_eq fetched]
    exact .reused kept
  | none =>
    cases named : naming.sessionName (naming.resolve d.role) with
    | error cause =>
      have fetched : w.run (fetch naming p d) =
          ⟨(.error (.sessionName (naming.resolve d.role) cause), p), w, []⟩ := by
        simp only [fetch, kept, RoleNaming.fetch, named]
        rfl
      rw [issue, run_bind_of_eq fetched]
      simp only [run_bind_of_eq (run_log ..), run_bind_of_eq (run_record ..), run_pure]
      simp only [Program.Outcome.after_mk, List.append_nil]
      exact .unnamed kept named
    | ok session =>
      rcases served : serve (.assumeRole (naming.resolve d.role) session d.duration) w with
        ⟨answer, after⟩
      have asked := run_request_of_eq served
      cases answer with
      | error e =>
        have fetched : w.run (fetch naming p d) = ⟨(.error e, p), after,
            [⟨w, .assumeRole (naming.resolve d.role) session d.duration, .error e⟩]⟩ := by
          simp only [fetch, kept, RoleNaming.fetch, named]
          rw [bind_assoc, run_bind_of_eq asked]
          rfl
        rw [issue, run_bind_of_eq fetched]
        simp only [run_bind_of_eq (run_log ..), run_bind_of_eq (run_record ..), run_pure]
        simp only [Program.Outcome.after_mk, List.append_nil]
        exact .refused kept named served
      | ok keys =>
        have fetched : w.run (fetch naming p d) =
            ⟨(.ok { keys with roleArn := naming.resolve d.role },
              p.remember d { keys with roleArn := naming.resolve d.role }), after,
              [⟨w, .assumeRole (naming.resolve d.role) session d.duration, .ok keys⟩]⟩ := by
          simp only [fetch, kept, RoleNaming.fetch, named]
          rw [bind_assoc, run_bind_of_eq asked]
          rfl
        rw [issue, run_bind_of_eq fetched]
        exact .issued kept named served

inductive Reporting (source : Source) (p : Progress) (d : Declaration) (roleArn : String)
    (expiration : Timestamp) (w : World) : World.Outcome Progress → Prop
  | ungenerated (none : d.generation = none) :
      Reporting source p d roleArn expiration w ⟨p, w, []⟩
  /-- It has been reported before. -/
  | known {generation : Int} (some : d.generation = some generation)
      (same : d.status = .some (RoleStatus.of generation roleArn expiration)) :
      Reporting source p d roleArn expiration w ⟨p, w, []⟩
  | told {generation : Int} {after : World} {steps : List World.Step}
      (some : d.generation = some generation)
      (differs : d.status ≠ .some (RoleStatus.of generation roleArn expiration))
      (asked : w.run (source.report d (RoleStatus.of generation roleArn expiration)) =
        ⟨.ok (), after, steps⟩) :
      Reporting source p d roleArn expiration w
        ⟨{ p with summary := { p.summary with reported := p.summary.reported + 1 } }, after, steps⟩
  | refused {generation : Int} {e : SourceError} {after : World} {steps : List World.Step}
      (some : d.generation = some generation)
      (differs : d.status ≠ .some (RoleStatus.of generation roleArn expiration))
      (asked : w.run (source.report d (RoleStatus.of generation roleArn expiration)) =
        ⟨.error e, after, steps⟩) :
      Reporting source p d roleArn expiration w
        ⟨p.fail, after, steps ++ [⟨after, .log ⟨.error, e.message, []⟩, ()⟩]⟩

theorem run_report (source : Source) (p : Progress) (d : Declaration) (roleArn : String)
    (expiration : Timestamp) (w : World) :
    Reporting source p d roleArn expiration w (w.run (report source p d roleArn expiration)) := by
  unfold report
  cases generated : d.generation with
  | none => exact .ungenerated generated
  | some generation =>
    dsimp only
    by_cases same : d.status = some (RoleStatus.of generation roleArn expiration)
    · rw [if_pos same]
      exact .known generated same
    · rw [if_neg same]
      rcases asked : w.run (source.report d (RoleStatus.of generation roleArn expiration)) with
        ⟨answer, after, steps⟩
      rw [run_bind_of_eq asked]
      cases answer with
      | ok _ =>
        have told := Reporting.told (p := p) generated same asked
        simpa using told
      | error e => exact .refused generated same asked

def Write.step (write : Write) (w : World) (s : Secret) (answer : Except StoreError Unit) :
    World.Step :=
  match write with
  | .create => ⟨w, .createSecret s, answer⟩
  | .update _ => ⟨w, .updateSecret s, answer⟩

/-- A write is refused, or done. -/
theorem run_ask (write : Write) (w : World) (s : Secret) :
    (∃ e, w.run (write.ask s) = ⟨.error e, w, [write.step w s (.error e)]⟩) ∨
      w.run (write.ask s) =
        ⟨.ok (), { w with secrets := putSecret s w.secrets }, [write.step w s (.ok ())]⟩ := by
  cases write with
  | create =>
    rcases createSecret_cases w s with ⟨e, served⟩ | served
    · exact .inl ⟨e, run_request_of_eq served⟩
    · exact .inr (run_request_of_eq served)
  | update drift =>
    rcases updateSecret_cases w s with ⟨e, served⟩ | served
    · exact .inl ⟨e, run_request_of_eq served⟩
    · exact .inr (run_request_of_eq served)

def rejectedSteps (write : Write) (w : World) (d : Declaration) (e : StoreError) : List World.Step :=
  ⟨w, .log ⟨.error, e.message, []⟩, ()⟩ ::
    eventSteps w d .warning write.failedReason
      ("Failed to " ++ write.verb ++ " secret " ++ d.key.text ++ " with credentials: " ++ e.message)

def writtenSteps (write : Write) (w : World) (d : Declaration) (c : Credentials) : List World.Step :=
  ⟨w, .log ⟨.info, write.message,
    [("action", write.verb), ("role_arn", c.roleArn), ("secret", d.secretName),
      ("namespace", d.ns), ("expire", Rfc3339.format c.expiration)] ++ write.driftField⟩, ()⟩ ::
    eventSteps w d .normal write.reason
      (write.done ++ " credentials for role '" ++ c.roleArn ++ "', expiry time: " ++
        Rfc3339.format c.expiration)

inductive Delivery (r : Reconciler) (write : Write) (p : Progress) (d : Declaration)
    (c : Credentials) (s : Secret) (w : World) : World.Outcome Progress → Prop
  | rejected {e : StoreError}
      (asked : w.run (write.ask s) = ⟨.error e, w, [write.step w s (.error e)]⟩) :
      Delivery r write p d c s w ⟨p.fail, w, write.step w s (.error e) :: rejectedSteps write w d e⟩
  | written {after : World} {o : World.Outcome Progress}
      (put : after = { w with secrets := putSecret s w.secrets })
      (reporting : Reporting r.source { p with summary := write.count p.summary } d c.roleArn
        c.expiration after o) :
      Delivery r write p d c s w
        (o.after (write.step w s (.ok ()) :: writtenSteps write after d c))

theorem run_deliver (r : Reconciler) (write : Write) (p : Progress) (d : Declaration)
    (c : Credentials) (s : Secret) (w : World) :
    Delivery r write p d c s w (w.run (deliver r write p d c s)) := by
  unfold deliver
  rcases run_ask write w s with ⟨e, asked⟩ | asked
  · rw [run_bind_of_eq asked]
    simp only [run_bind_of_eq (run_log ..), run_bind_of_eq (run_record ..), run_pure]
    simp only [Program.Outcome.after_mk, List.append_nil, List.cons_append, List.nil_append]
    exact .rejected asked
  · rw [run_bind_of_eq asked]
    simp only [run_bind_of_eq (run_log ..), run_bind_of_eq (run_record ..)]
    simp only [Program.Outcome.after_after]
    exact .written rfl (run_report ..)

/-- How a secret that nothing declares is deleted. -/
inductive Deletion (p : Progress) (s : Secret) (w : World) : World.Outcome Progress → Prop
  | refused {e : StoreError} (served : serve (.deleteSecret s.key) w = (.error e, w)) :
      Deletion p s w ⟨p.fail, w,
        [⟨w, .deleteSecret s.key, .error e⟩, ⟨w, .log ⟨.error, e.message, []⟩, ()⟩]⟩
  | deleted {after : World} {record : LogRecord}
      (removed : after = { w with secrets := removeSecret s.key w.secrets })
      (plain : record.level = .info) :
      Deletion p s w ⟨{ p with summary := { p.summary with deleted := p.summary.deleted + 1 } },
        after, [⟨w, .deleteSecret s.key, .ok ()⟩, ⟨after, .log record, ()⟩]⟩

theorem run_deleteOrphan (p : Progress) {s : Secret} (named : s.IsNamed) (w : World) :
    Deletion p s w (w.run (deleteOrphan p s)) := by
  obtain ⟨ns, hasNs⟩ := Option.isSome_iff_exists.mp named.1
  obtain ⟨name, hasName⟩ := Option.isSome_iff_exists.mp named.2
  have key : s.key = ⟨ns, name⟩ := by simp [Secret.key, hasNs, hasName]
  simp only [deleteOrphan, hasNs, hasName]
  rw [← key]
  rcases deleteSecret_cases w s.key with ⟨e, served⟩ | served
  · rw [run_bind_of_eq (run_request_of_eq served)]
    exact .refused served
  · rw [run_bind_of_eq (run_request_of_eq served)]
    exact .deleted rfl rfl

/-- Gets credentials for a declaration and delivers the secret made of them. This is what is done
for a missing declaration, and for a managed secret that has drifted. -/
def supply (r : Reconciler) (write : Write) (make : Credentials → Secret) (p : Progress)
    (d : Declaration) : Controller Progress := do
  match ← issue r.naming p d with
  | (none, p) => pure p
  | (some c, p) => deliver r write p d c (make c)

theorem syncManaged_drifted {m : Drift.Managed} (drifted : m.drift ≠ .healthy) (r : Reconciler)
    (p : Progress) :
    syncManaged r p m =
      supply r (.update m.drift) (refreshed m.secret m.declaration) p m.declaration := by
  rw [syncManaged, if_pos (by simpa [Drift.needsCredentials] using drifted)]
  rfl

theorem syncManaged_healthy {m : Drift.Managed} (healthy : m.drift = .healthy) (r : Reconciler)
    (p : Progress) : syncManaged r p m = reportHealthy r p m.declaration m.secret := by
  rw [syncManaged, healthy]
  rfl

inductive Supply (r : Reconciler) (write : Write) (make : Credentials → Secret) (p : Progress)
    (d : Declaration) (w : World) : World.Outcome Progress → Prop
  | unissued {after : World} {q : Progress} {steps : List World.Step}
      (issuance : Issuance r.naming p d w ⟨(none, q), after, steps⟩) :
      Supply r write make p d w ⟨q, after, steps⟩
  | issued {c : Credentials} {after : World} {q : Progress} {steps : List World.Step}
      {o : World.Outcome Progress} (issuance : Issuance r.naming p d w ⟨(some c, q), after, steps⟩)
      (delivery : Delivery r write q d c (make c) after o) :
      Supply r write make p d w (o.after steps)

theorem run_supply (r : Reconciler) (write : Write) (make : Credentials → Secret) (p : Progress)
    (d : Declaration) (w : World) : Supply r write make p d w (w.run (supply r write make p d)) := by
  have issuance := run_issue r.naming p d w
  rcases asked : w.run (issue r.naming p d) with ⟨⟨credentials, q⟩, after, steps⟩
  rw [asked] at issuance
  rw [supply, run_bind_of_eq asked]
  cases credentials with
  | none =>
    rw [run_pure, Program.Outcome.after_mk, List.append_nil]
    exact .unissued issuance
  | some c => exact .issued issuance (run_deliver ..)

end RoleSecrets.Tick
