import RoleSecrets.Proofs.FailedTicks

/-! # Every item is accounted for

A tick does one course of deeds for each item of its plan: it deletes, gets credentials, writes and
reports, and tells of all this in events and log records. What a tick counts are its deeds and what
came of them, and it logs one error for each that failed.
-/

namespace RoleSecrets

open World

/-- Whether a question logs an error. -/
def Query.isAlarm : Query → Bool
  | .log record => record.level = .error
  | _ => false

theorem Query.isAlarm_of_isLookup {question : Query} (lookup : question.isLookup = true) :
    question.isAlarm = false := by
  cases question with
  | log record => simpa [isLookup, isRemark, isAlarm] using lookup
  | _ => rfl

theorem Query.isAlarm_of_isRemark {question : Query} (remark : question.isRemark = true) :
    question.isAlarm = false := by
  cases question with
  | log record => simpa [isRemark, isAlarm] using remark
  | _ => rfl

/-- How many errors are logged in some steps. -/
def errors (steps : List World.Step) : Nat := (logs steps).countP (·.level = .error)

theorem errors_eq (steps : List World.Step) : errors steps = steps.countP (·.question.isAlarm) := by
  rw [errors, logs, List.countP_filterMap]
  refine List.countP_congr fun step _ => ?_
  cases step.question <;> rfl

theorem errors_append (first second : List World.Step) :
    errors (first ++ second) = errors first + errors second := by
  simp only [errors_eq, List.countP_append]

/-- A program that logs no errors has none in its steps. -/
theorem errors_run {α : Type} {p : Controller α} (calm : p.Asks (Query.isAlarm · = false))
    (w : World) : errors (w.run p).steps = 0 := by
  rw [errors_eq, List.countP_eq_zero]
  intro step member
  rw [asked_of_mem_run calm w step member]
  exact Bool.false_ne_true

namespace Tick

/-- One thing a tick does for an item. -/
inductive Deed
  | delete (key : ObjectKey)
  /-- Gets credentials, those of this tick or newly issued ones. -/
  | obtain (d : Declaration)
  | write (write : Write) (s : Secret)
  | report (d : Declaration) (status : RoleStatus)
  | event (event : Event)
  | log (record : LogRecord)

namespace Deed

/-- What can come of a deed. -/
abbrev Answer : Deed → Type
  | delete _ | write .. => Except StoreError Unit
  | obtain _ => Except CredentialsError Credentials
  | report .. => Except SourceError Unit
  | event _ | log _ => Unit

def isCreate : Deed → Bool
  | write .create _ => true
  | _ => false

def isUpdate : Deed → Bool
  | write (.update _) _ => true
  | _ => false

def isDelete : Deed → Bool
  | delete _ => true
  | _ => false

def isReport : Deed → Bool
  | report .. => true
  | _ => false

/-- Whether a deed logs an error. -/
def isError : Deed → Bool
  | log record => record.level = .error
  | _ => false

def event? : Deed → Option Event
  | event e => some e
  | _ => none

/-- What credentials are to be obtained for. -/
def obtained? : Deed → Option Declaration
  | obtain d => some d
  | _ => none

end Deed

/-- A deed with what came of it. -/
structure Done where
  deed : Deed
  answer : deed.Answer

/-- Whether a deed came to what it was done for. -/
def Done.succeeded : Done → Bool
  | ⟨.delete _, answer⟩ | ⟨.write _ _, answer⟩ => Except.isOk answer
  | ⟨.obtain _, answer⟩ => Except.isOk answer
  | ⟨.report _ _, answer⟩ => Except.isOk answer
  | ⟨.event _, _⟩ | ⟨.log _, _⟩ => true

/-- How many deeds of each kind succeeded, and how many failed. -/
def tally (dones : List Done) : Summary where
  created := dones.countP fun done => done.deed.isCreate && done.succeeded
  updated := dones.countP fun done => done.deed.isUpdate && done.succeeded
  deleted := dones.countP fun done => done.deed.isDelete && done.succeeded
  reported := dones.countP fun done => done.deed.isReport && done.succeeded
  failed := dones.countP fun done => !done.succeeded

/-- Credentials that have been issued, by role and duration. -/
abbrev Issued := List ((String × Nat) × Credentials)

/-- Does a deed, with the credentials that have been issued so far. -/
def Deed.perform (r : Reconciler) (issued : Issued) :
    (deed : Deed) → Controller (deed.Answer × Issued)
  | .delete key => do return (← Controller.request (.deleteSecret key), issued)
  | .obtain d => do
      let (answer, p) ← fetch r.naming { issued } d
      return (answer, p.issued)
  | .write put s => do return (← put.ask s, issued)
  | .report d status => do return (← r.source.report d status, issued)
  | .event e => do return (← Controller.request (.recordEvent e), issued)
  | .log record => do return (← Controller.request (.log record), issued)

/-- What comes of some deeds, done one after the other. -/
inductive Performed (r : Reconciler) : Issued → World → List Done → World.Outcome Issued → Prop
  | nil {issued : Issued} {w : World} : Performed r issued w [] ⟨issued, w, []⟩
  | cons {issued issued' : Issued} {w after : World} {deed : Deed} {answer : deed.Answer}
      {steps : List World.Step} {later : List Done} {o : World.Outcome Issued}
      (first : w.run (deed.perform r issued) = ⟨(answer, issued'), after, steps⟩)
      (rest : Performed r issued' after later o) :
      Performed r issued w (⟨deed, answer⟩ :: later) (o.after steps)

/-- The event about the owner of a declaration, if it has one. -/
def announce (d : Declaration) (type : EventType) (reason note : String) : List Done :=
  (d.subject?.map fun subject => ⟨.event ⟨subject, type, reason, note⟩, ()⟩).toList

/-- The deeds by which a status is reported, if there is something new to report. -/
inductive Reported (d : Declaration) (roleArn : String) (expiration : Timestamp) : List Done → Prop
  | spared (nothing : ∀ generation, d.generation = some generation →
      d.status = some (RoleStatus.of generation roleArn expiration)) :
      Reported d roleArn expiration []
  | told {generation : Int} (generated : d.generation = some generation)
      (differs : d.status ≠ some (RoleStatus.of generation roleArn expiration)) :
      Reported d roleArn expiration
        [⟨.report d (RoleStatus.of generation roleArn expiration), .ok ()⟩]
  | refused {generation : Int} {e : SourceError} (generated : d.generation = some generation)
      (differs : d.status ≠ some (RoleStatus.of generation roleArn expiration)) :
      Reported d roleArn expiration
        [⟨.report d (RoleStatus.of generation roleArn expiration), .error e⟩,
          ⟨.log ⟨.error, e.message, []⟩, ()⟩]

/-- The deeds by which a secret with credentials is delivered. -/
inductive Delivered (write : Write) (d : Declaration) (c : Credentials) (s : Secret) :
    List Done → Prop
  | rejected {e : StoreError} {note : String} :
      Delivered write d c s (⟨.write write s, .error e⟩ ::
        ⟨.log ⟨.error, e.message, []⟩, ()⟩ :: announce d .warning write.failedReason note)
  | written {record : LogRecord} {note : String} {later : List Done} (info : record.level = .info)
      (reported : Reported d c.roleArn c.expiration later) :
      Delivered write d c s (⟨.write write s, .ok ()⟩ ::
        (⟨.log record, ()⟩ :: announce d .normal write.reason note) ++ later)

/-- The deeds by which a declaration gets a secret with credentials. -/
inductive Provided (write : Write) (make : Credentials → Secret) (d : Declaration) :
    List Done → Prop
  | unissued {e : CredentialsError} {record : LogRecord} {note : String}
      (error : record.level = .error) :
      Provided write make d (⟨.obtain d, .error e⟩ :: ⟨.log record, ()⟩ ::
        announce d .warning "GetCredentialsFailed" note)
  | obtained {c : Credentials} {dones : List Done} (delivered : Delivered write d c (make c) dones) :
      Provided write make d (⟨.obtain d, .ok c⟩ :: dones)

/-- The deeds for an item. -/
inductive Course (r : Reconciler) : Item → List Done → Prop
  | skipped {s : Secret} {record : LogRecord} (unnamed : ¬ s.IsNamed) (warn : record.level = .warn) :
      Course r (.orphan s) [⟨.log record, ()⟩]
  | kept {s : Secret} {e : StoreError} (named : s.IsNamed) :
      Course r (.orphan s) [⟨.delete s.key, .error e⟩, ⟨.log ⟨.error, e.message, []⟩, ()⟩]
  | deleted {s : Secret} {record : LogRecord} (named : s.IsNamed) (info : record.level = .info) :
      Course r (.orphan s) [⟨.delete s.key, .ok ()⟩, ⟨.log record, ()⟩]
  | unreadable {m : Drift.Managed} (healthy : m.drift = .healthy)
      (nothing : m.secret.expiration? = none) : Course r (.managed m) []
  | healthy {m : Drift.Managed} {expiration : Timestamp} {dones : List Done}
      (healthy : m.drift = .healthy) (readable : m.secret.expiration? = some expiration)
      (reported : Reported m.declaration
        ((m.secret.text? Secret.roleArnKey).getD (r.naming.resolve m.declaration.role)) expiration
        dones) :
      Course r (.managed m) dones
  | renewed {m : Drift.Managed} {dones : List Done} (drifted : m.drift ≠ .healthy)
      (provided : Provided (.update m.drift) (refreshed m.secret m.declaration) m.declaration
        dones) :
      Course r (.managed m) dones
  | created {d : Declaration} {dones : List Done} (provided : Provided .create (newSecret d) d dones) :
      Course r (.missing d) dones

section Tally

theorem tally_append (first second : List Done) :
    tally (first ++ second) = tally first + tally second := by
  simp only [tally, List.countP_append]
  rfl

end Tally

/-- What a program gives: some deeds, and their numbers on top of what was counted before. -/
structure Gives (r : Reconciler) (p : Progress) (w : World) (dones : List Done)
    (o : World.Outcome Progress) : Prop where
  performed : Performed r p.issued w dones ⟨o.value.issued, o.state, o.steps⟩
  counted : o.value.summary = p.summary + tally dones

section Performed

variable {r : Reconciler} {issued issued' : Issued} {w after : World}

theorem Performed.append {first second : List Done} {steps : List World.Step}
    {o : World.Outcome Issued} (one : Performed r issued w first ⟨issued', after, steps⟩)
    (two : Performed r issued' after second o) :
    Performed r issued w (first ++ second) (o.after steps) := by
  generalize start : (⟨issued', after, steps⟩ : World.Outcome Issued) = middle at one
  induction one generalizing steps with
  | nil => cases start; exact two
  | cons step rest ih =>
    rename_i o'
    rcases o' with ⟨_, _, _⟩
    cases start
    rw [← Program.Outcome.after_after]
    exact .cons step (ih rfl)

/-- A deed that keeps the credentials as they are is done by what it asks. -/
theorem Performed.ask (deed : Deed) {answer : deed.Answer} {steps : List World.Step}
    {ask : Controller deed.Answer} {later : List Done} {o : World.Outcome Issued}
    (same : deed.perform r issued = do return (← ask, issued))
    (ran : w.run ask = ⟨answer, after, steps⟩) (rest : Performed r issued after later o) :
    Performed r issued w (⟨deed, answer⟩ :: later) (o.after steps) := by
  refine .cons ?_ rest
  rw [same, run_bind_of_eq ran, run_pure, Program.Outcome.after_mk, List.append_nil]

theorem performed_log (record : LogRecord) :
    Performed r issued w [⟨.log record, ()⟩] ⟨issued, w, [⟨w, .log record, ()⟩]⟩ :=
  .cons rfl .nil

end Performed

section Gives

variable {r : Reconciler} {p : Progress} {d : Declaration} {w : World}

theorem Reporting.gives {roleArn : String} {expiration : Timestamp} {o : World.Outcome Progress}
    (reporting : Reporting r.source p d roleArn expiration w o) :
    ∃ dones, Reported d roleArn expiration dones ∧ Gives r p w dones o := by
  cases reporting with
  | ungenerated none =>
    refine ⟨[], .spared ?_, .nil, rfl⟩
    simp [none]
  | known generated same =>
    refine ⟨[], .spared fun generation other => ?_, .nil, rfl⟩
    obtain rfl := Option.some.inj (generated.symm.trans other)
    exact same
  | told generated differs asked =>
    have performed : Performed r p.issued w _ _ := .ask (.report d _) rfl asked .nil
    rw [Program.Outcome.after_mk, List.append_nil] at performed
    exact ⟨_, .told generated differs, performed, rfl⟩
  | refused generated differs asked =>
    exact ⟨_, .refused generated differs, .ask _ rfl asked (performed_log _), rfl⟩

theorem Gives.trans {first second : List Done} {one two : World.Outcome Progress}
    (gives : Gives r p w first one) (next : Gives r one.value one.state second two) :
    Gives r p w (first ++ second) (two.after one.steps) := by
  refine ⟨gives.performed.append next.performed, next.counted.trans ?_⟩
  rw [gives.counted, tally_append]
  exact Summary.add_assoc ..

end Gives

section Events

/-- The declaration that credentials are to be got for on behalf of an item, if any are. -/
def Item.attempt? : Item → Option Declaration
  | orphan _ => none
  | managed m => if m.drift = .healthy then none else some m.declaration
  | missing d => some d

theorem events_announce (d : Declaration) (type : EventType) (reason note : String) :
    ((announce d type reason note).filterMap (·.deed.event?)).map (·.subject) =
      d.subject?.toList := by
  unfold announce
  cases d.subject? <;> rfl

theorem attempts_announce (d : Declaration) (type : EventType) (reason note : String) :
    (announce d type reason note).filterMap (·.deed.obtained?) = [] := by
  unfold announce
  cases d.subject? <;> rfl

theorem Reported.quiet {d : Declaration} {roleArn : String} {expiration : Timestamp}
    {dones : List Done} (reported : Reported d roleArn expiration dones) :
    dones.filterMap (·.deed.obtained?) = [] ∧ dones.filterMap (·.deed.event?) = [] := by
  cases reported <;> exact ⟨rfl, rfl⟩

/-- One attempt is made to get credentials, and one event tells the owner what came of it. -/
theorem Provided.once {write : Write} {make : Credentials → Secret} {d : Declaration}
    {dones : List Done} (provided : Provided write make d dones) :
    dones.filterMap (·.deed.obtained?) = [d] ∧
      (dones.filterMap (·.deed.event?)).map (·.subject) = d.subject?.toList := by
  cases provided with
  | unissued error =>
    exact ⟨congrArg (d :: ·) (attempts_announce ..), events_announce ..⟩
  | obtained delivered =>
    cases delivered with
    | rejected => exact ⟨congrArg (d :: ·) (attempts_announce ..), events_announce ..⟩
    | written info reported =>
      obtain ⟨attempts, events⟩ := reported.quiet
      constructor
      · rw [List.cons_append, List.cons_append, List.filterMap_cons, List.filterMap_cons,
          List.filterMap_cons, List.filterMap_append, attempts_announce, attempts]
        rfl
      · rw [List.cons_append, List.cons_append, List.filterMap_cons, List.filterMap_cons,
          List.filterMap_cons, List.filterMap_append, events, List.append_nil]
        exact events_announce ..

theorem Course.once {r : Reconciler} {item : Item} {dones : List Done} (course : Course r item dones) :
    dones.filterMap (·.deed.obtained?) = item.attempt?.toList ∧
      (dones.filterMap (·.deed.event?)).map (·.subject) =
        (item.attempt?.bind Declaration.subject?).toList := by
  cases course with
  | skipped | kept | deleted => exact ⟨rfl, rfl⟩
  | unreadable healthy => simp [Item.attempt?, healthy]
  | healthy healthy readable reported =>
    obtain ⟨attempts, events⟩ := reported.quiet
    simp [Item.attempt?, healthy, attempts, events]
  | renewed drifted provided =>
    obtain ⟨attempts, events⟩ := provided.once
    simp [Item.attempt?, drifted, attempts, events]
  | created provided => exact provided.once

end Events

section Errors

/-- Whether as many errors are logged as deeds fail. -/
def Balanced (dones : List Done) : Prop :=
  dones.countP (·.deed.isError) = (tally dones).failed

theorem Balanced.append {first second : List Done} (one : Balanced first) (two : Balanced second) :
    Balanced (first ++ second) := by
  rw [Balanced, List.countP_append, tally_append, one, two]
  rfl

theorem Balanced.cons {done : Done} {later : List Done} (one : Balanced [done])
    (two : Balanced later) : Balanced (done :: later) := one.append two

theorem balanced_nil : Balanced [] := rfl

theorem balanced_of_succeeded {done : Done} (succeeded : done.succeeded = true)
    (quiet : done.deed.isError = false) : Balanced [done] := by
  simp [Balanced, tally, succeeded, quiet]

theorem balanced_log {record : LogRecord} (calm : record.level ≠ .error) :
    Balanced [⟨.log record, ()⟩] :=
  balanced_of_succeeded rfl (by simp [Deed.isError, calm])

/-- A failure is told by one error. -/
theorem balanced_of_failed {done : Done} {record : LogRecord} (failed : done.succeeded = false)
    (quiet : done.deed.isError = false) (error : record.level = .error) :
    Balanced [done, ⟨.log record, ()⟩] := by
  have logged : (Deed.log record).isError = true := by simp [Deed.isError, error]
  have told : Done.succeeded ⟨.log record, ()⟩ = true := rfl
  simp [Balanced, tally, failed, quiet, logged, told]

theorem balanced_announce (d : Declaration) (type : EventType) (reason note : String) :
    Balanced (announce d type reason note) := by
  unfold announce
  cases d.subject? <;> rfl

theorem Reported.balanced {d : Declaration} {roleArn : String} {expiration : Timestamp}
    {dones : List Done} (reported : Reported d roleArn expiration dones) : Balanced dones := by
  cases reported with
  | spared nothing => exact balanced_nil
  | told => exact balanced_of_succeeded rfl rfl
  | refused => exact balanced_of_failed rfl rfl rfl

theorem Provided.balanced {write : Write} {make : Credentials → Secret} {d : Declaration}
    {dones : List Done} (provided : Provided write make d dones) : Balanced dones := by
  cases provided with
  | unissued error => exact (balanced_of_failed rfl rfl error).append (balanced_announce ..)
  | obtained delivered =>
    refine .cons (balanced_of_succeeded rfl rfl) ?_
    cases delivered with
    | rejected => exact (balanced_of_failed rfl rfl rfl).append (balanced_announce ..)
    | written info reported =>
      have quiet := balanced_log fun error => LogLevel.noConfusion (info.symm.trans error)
      refine .append (.cons (balanced_of_succeeded rfl rfl) ?_) reported.balanced
      exact quiet.cons (balanced_announce ..)

theorem Course.balanced {r : Reconciler} {item : Item} {dones : List Done}
    (course : Course r item dones) : Balanced dones := by
  cases course with
  | skipped unnamed warn => exact balanced_log (by simp [warn])
  | kept named => exact balanced_of_failed rfl rfl rfl
  | deleted named info =>
    exact (balanced_of_succeeded rfl rfl).append (balanced_log (by simp [info]))
  | unreadable => exact balanced_nil
  | healthy healthy readable reported => exact reported.balanced
  | renewed drifted provided => exact provided.balanced
  | created provided => exact provided.balanced

end Errors

section Alarms

variable {r : Reconciler}

/-- Only a deed that logs an error logs errors. -/
theorem errors_perform (plain : r.source.Plain) (issued : Issued) (deed : Deed) (w : World) :
    errors (w.run (deed.perform r issued)).steps = if deed.isError then 1 else 0 := by
  cases deed with
  | log record =>
    rw [errors_eq]
    exact List.countP_singleton
  | delete key => exact errors_run (.bind (.request rfl) fun _ => .pure _) w
  | obtain d =>
    refine errors_run (.bind ((asks_fetch ..).mono ?_) fun _ => .pure _) w
    rintro question ⟨session, rfl⟩
    rfl
  | write put s =>
    refine errors_run (.bind ?_ fun _ => .pure _) w
    cases put <;> exact .request rfl
  | report d status =>
    refine errors_run (.bind ((plain.report d status).mono ?_) fun _ => .pure _) w
    rintro question (reports | remark)
    · cases question <;> first | rfl | cases reports
    · exact Query.isAlarm_of_isRemark remark
  | event e => exact errors_run (.bind (.request rfl) fun _ => .pure _) w

theorem Performed.errors (plain : r.source.Plain) {issued : Issued} {w : World}
    {dones : List Done} {o : World.Outcome Issued} (performed : Performed r issued w dones o) :
    RoleSecrets.errors o.steps = dones.countP (·.deed.isError) := by
  induction performed with
  | nil => rfl
  | cons first rest ih =>
    rename_i issued _ w _ deed answer steps later o
    have here := errors_perform plain issued deed w
    rw [first] at here
    rw [Program.Outcome.after, errors_append, here, ih, List.countP_cons, Nat.add_comm]

end Alarms

/-- Whether a deed changes something: a secret, or a status. -/
def Deed.changes (deed : Deed) : Bool :=
  deed.isCreate || deed.isUpdate || deed.isDelete || deed.isReport

end Tick

end RoleSecrets
