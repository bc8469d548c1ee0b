import RoleSecrets.Proofs.DriftPlan
import RoleSecrets.Proofs.Turns

/-! # What stands behind a report

A status may be reported for a declaration once a secret backs it: one that is found by the
declaration, belongs to its owner and holds what the status says. `Tells` says of the steps of a
turn that every report among them is backed at that very step, and that none is made in a turn in
which credentials or the secret could not be come by.
-/

namespace RoleSecrets.Tick

open World

/-- Whether all credentials issued in some steps have a property. -/
def AllIssued (P : SessionKeys → Prop) (steps : List World.Step) : Prop :=
  ∀ before arn session duration keys,
    (⟨before, .assumeRole arn session duration, .ok keys⟩ : World.Step) ∈ steps → P keys

/-- Whether all credentials issued in some steps expire in the years 0 to 9999. -/
def IssuedInYears (steps : List World.Step) : Prop :=
  AllIssued (fun keys => keys.expiration.HasFourDigitYear) steps

/-- Whether a secret holds what a status for a declaration says. A secret which is healthy at the
deadline need not tell the role's ARN, which is then the one of the declared role. -/
structure Backs (naming : RoleNaming) (deadline : Option Timestamp) (d : Declaration)
    (status : RoleStatus) (s : Secret) : Prop where
  found : d.matchesSecret s = true
  owned : d.accepts s = true
  generation : s.generation? = some status.generation
  expiration : ∃ recorded, s.expiration? = some recorded ∧
    recorded.wholeSeconds = status.expiration
  roleArn : s.text? Secret.roleArnKey = some status.roleArn ∨
    (s.text? Secret.roleArnKey = none ∧ Drift.classify d s deadline = .healthy ∧
      status.roleArn = naming.resolve d.role)

/-- Whether a step reports news about a declaration, backed by a secret of the world it is made in,
so long as what is written can be read back. -/
def BackedReport (naming : RoleNaming) (deadline : Option Timestamp) (d : Declaration)
    (all : List World.Step) (step : World.Step) : Prop :=
  ∃ status, step.question.Reports d status ∧ d.generation = some status.generation ∧
    d.status ≠ some status ∧ (IssuedInYears all → d.HasWordGeneration →
      ∃ s ∈ step.before.secrets, Backs naming deadline d status s)

/-- What holds of the steps of a turn for a declaration, all steps so far being given besides. -/
structure Tells (naming : RoleNaming) (deadline : Option Timestamp) (d : Declaration)
    (chunk all : List World.Step) : Prop where
  failures : ∀ step ∈ chunk, ∀ key, failedKey? step = some key → key = d.key
  reports : ∀ step ∈ chunk, step.question.isReport = true →
    (∀ other ∈ chunk, failedKey? other = none) ∧ BackedReport naming deadline d all step

variable {naming : RoleNaming} {r : Reconciler} {deadline : Option Timestamp} {p : Progress}
  {d : Declaration} {c : Credentials} {s : Secret} {w : World} {chunk all past : List World.Step}

theorem IssuedInYears.of_append {more : List World.Step} (inYears : IssuedInYears (all ++ more)) :
    IssuedInYears all :=
  fun before arn session duration keys member =>
    inYears before arn session duration keys (List.mem_append_left _ member)

theorem IssuedFor.of_all {P : SessionKeys → Prop} (issued : IssuedFor naming d c all)
    (every : AllIssued P all) : P c.toSessionKeys := by
  obtain ⟨-, before, session, member⟩ := issued
  exact every _ _ _ _ _ member

/-- An issuer that is not changed from outside issues what expires when the world says. -/
theorem allIssued_of_unscheduled {α : Type} (controller : Controller α)
    (unscheduled : w.schedule = []) {P : Timestamp → Prop} (holds : P w.expiration) :
    AllIssued (fun keys => P keys.expiration) (w.run controller).steps := by
  intro before arn session duration keys member
  have asks : controller.Asks fun _ => True := .of_forall (fun _ => trivial) _
  have keeps : ∀ question state, True → state.schedule = [] ∧ state.expiration = w.expiration →
      (serve question state).2.schedule = [] ∧
        (serve question state).2.expiration = w.expiration := by
    intro question state _ kept
    obtain ⟨schedule, expiration⟩ := expiration_serve question kept.1
    exact ⟨schedule, expiration.trans kept.2⟩
  obtain ⟨-, schedule, expiration⟩ :=
    (Program.Asks.run serve _ keeps asks ⟨unscheduled, rfl⟩).2 _ member
  have issued := Program.answer_of_mem_run serve member
  rw [expiration_of_issued schedule issued.symm, expiration]
  exact holds

/-- Later steps take nothing away from what has been told. -/
theorem Tells.more (tells : Tells naming deadline d chunk all) (more : List World.Step) :
    Tells naming deadline d chunk (all ++ more) := by
  refine ⟨tells.failures, fun step member reports => ?_⟩
  obtain ⟨noFailure, status, asked, generation, news, backed⟩ := tells.reports step member reports
  exact ⟨noFailure, status, asked, generation, news, fun inYears => backed inYears.of_append⟩

/-- Where no step fails, it is enough that every report is backed. -/
theorem Tells.of_each (each : ∀ step ∈ chunk, failedKey? step = none ∧
    (step.question.isReport = true → BackedReport naming deadline d all step)) :
    Tells naming deadline d chunk all := by
  constructor
  · intro step member key failed
    rw [(each step member).1] at failed
    cases failed
  · intro step member reports
    exact ⟨fun other inside => (each other inside).1, (each step member).2 reports⟩

theorem Silent.each {step : World.Step} (silent : Silent step) : failedKey? step = none ∧
    (step.question.isReport = true → BackedReport naming deadline d all step) := by
  refine ⟨silent.2, fun reports => ?_⟩
  rw [silent.1] at reports
  cases reports

theorem Tells.of_silent (silent : ∀ step ∈ chunk, Silent step) : Tells naming deadline d chunk all :=
  .of_each fun step member => (silent step member).each

/-- Silent steps before a turn's own change nothing. -/
theorem Tells.after_silent {early : List World.Step} (silent : ∀ step ∈ early, Silent step)
    (tells : Tells naming deadline d chunk all) : Tells naming deadline d (early ++ chunk) all := by
  constructor
  · intro step member key failed
    rcases List.mem_append.mp member with first | second
    · rw [(silent step first).2] at failed
      cases failed
    · exact tells.failures step second key failed
  · intro step member reports
    rcases List.mem_append.mp member with first | second
    · rw [(silent step first).1] at reports
      cases reports
    · obtain ⟨noFailure, backed⟩ := tells.reports step second reports
      refine ⟨fun other inside => ?_, backed⟩
      rcases List.mem_append.mp inside with before | same
      · exact (silent other before).2
      · exact noFailure other same

/-- A secret written for a declaration with credentials of the tick backs their status. -/
theorem backs_written (found : d.matchesSecret s = true) (owned : d.accepts s = true)
    (written : s.data = some (d.secretData c)) {generation : Int}
    (generated : d.generation = some generation) (inYears : c.expiration.HasFourDigitYear)
    (word : d.HasWordGeneration) :
    Backs naming deadline d (.of generation c.roleArn c.expiration) s where
  found := found
  owned := owned
  generation := (Secret.generation?_written written word).trans generated
  expiration := ⟨_, Secret.expiration?_written written inYears,
    Timestamp.wholeSeconds_startOfSecond _⟩
  roleArn := .inl (Secret.text?_roleArn written)

/-- A healthy secret backs what is reported from it. -/
theorem backs_healthy (found : d.matchesSecret s = true) (owned : d.accepts s = true)
    (healthy : Drift.classify d s deadline = .healthy) {generation : Int}
    (generated : d.generation = some generation) {recorded : Timestamp}
    (expires : s.expiration? = some recorded) :
    Backs naming deadline d
      (.of generation ((s.text? Secret.roleArnKey).getD (naming.resolve d.role)) recorded) s where
  found := found
  owned := owned
  generation :=
    Drift.generation?_of_isCurrent (Drift.classify_eq_healthy_iff.mp healthy).1 generated
  expiration := ⟨recorded, expires, rfl⟩
  roleArn := by
    cases told : s.text? Secret.roleArnKey with
    | some arn => exact .inl rfl
    | none => exact .inr ⟨rfl, healthy, rfl⟩

/-- Reporting asks for one status only, and the store is still the one it started from. -/
theorem Reporting.tells (plain : r.source.Plain) {roleArn : String} {expiration : Timestamp}
    {o : World.Outcome Progress} (reporting : Reporting r.source p d roleArn expiration w o)
    (undisturbed : w.Undisturbed)
    (backed : ∀ generation, d.generation = some generation → IssuedInYears all →
      d.HasWordGeneration → ∃ s ∈ w.secrets,
        Backs naming deadline d (.of generation roleArn expiration) s) :
    Tells naming deadline d o.steps all := by
  have asked : ∀ generation, d.generation = some generation →
      d.status ≠ some (.of generation roleArn expiration) → ∀ {answer after steps},
        w.run (r.source.report d (.of generation roleArn expiration)) = ⟨answer, after, steps⟩ →
          ∀ step ∈ steps, failedKey? step = none ∧
            (step.question.isReport = true → BackedReport naming deadline d all step) := by
    intro generation generated news answer after steps same step member
    obtain ⟨-, -, spec⟩ := plain.run_report d (.of generation roleArn expiration) undisturbed
    rw [same] at spec
    obtain ⟨reports | remark, secrets⟩ := spec step member
    · refine ⟨failedKey?_of_reports reports, fun _ => ⟨_, reports, generated, news, ?_⟩⟩
      rw [secrets]
      exact backed generation generated
    · refine ⟨failedKey?_of_isRemark remark, fun isReport => ?_⟩
      rw [Query.isReport_of_isRemark remark] at isReport
      cases isReport
  cases reporting with
  | ungenerated _ => exact .of_silent fun _ member => absurd member List.not_mem_nil
  | known _ _ => exact .of_silent fun _ member => absurd member List.not_mem_nil
  | told generated news same => exact .of_each (asked _ generated news same)
  | refused generated news same =>
    refine .of_each fun step member => ?_
    rcases List.mem_append.mp member with reporting | logged
    · exact asked _ generated news same step reporting
    · rw [List.mem_singleton.mp logged]
      exact Silent.each ⟨rfl, rfl⟩

/-- Making a refused write known reports nothing. -/
theorem silent_rejectedSteps (write : Write) (w : World) (d : Declaration) (e : StoreError) :
    ∀ step ∈ rejectedSteps write w d e, Silent step := by
  intro step member
  rcases List.mem_cons.mp member with rfl | later
  · exact ⟨rfl, rfl⟩
  · exact silent_eventSteps _ _ _ _ _ step later

theorem silent_writtenSteps (write : Write) (w after : World) (d : Declaration) (c : Credentials) :
    ∀ step ∈ write.step w s (.ok ()) :: writtenSteps write after d c, Silent step := by
  intro step member
  rcases List.mem_cons.mp member with rfl | later
  · cases write <;> exact ⟨rfl, rfl⟩
  · rcases List.mem_cons.mp later with rfl | last
    · exact ⟨rfl, rfl⟩
    · exact silent_eventSteps _ _ _ _ _ step last

/-- What is reported after a delivery is backed by the delivered secret. -/
theorem Delivery.tells (plain : r.source.Plain) {write : Write} {o : World.Outcome Progress}
    (delivery : Delivery r write p d c s w o) (going : Going naming p w past)
    (found : d.matchesSecret s = true) (owned : d.accepts s = true)
    (written : s.data = some (d.secretData c))
    (inYears : IssuedInYears all → c.expiration.HasFourDigitYear) :
    Tells naming deadline d o.steps all := by
  have named : s.IsNamed := Declaration.isNamed_of_matchesSecret found
  have key : s.key = d.key := Declaration.key_of_matchesSecret found
  cases delivery with
  | rejected asked =>
    constructor
    · intro step member key' failed
      rcases List.mem_cons.mp member with rfl | later
      · have same : some s.key = some key' := by cases write <;> exact failed
        exact (Option.some.inj same).symm.trans key
      · rw [(silent_rejectedSteps _ _ _ _ step later).2] at failed
        cases failed
    · intro step member reports
      rcases List.mem_cons.mp member with rfl | later
      · cases write <;> cases reports
      · rw [(silent_rejectedSteps _ _ _ _ step later).1] at reports
        cases reports
  | written put reporting =>
    subst put
    refine .after_silent (silent_writtenSteps _ _ _ _ _) (reporting.tells plain going.undisturbed ?_)
    intro generation generated years word
    refine ⟨s, (mem_putSecret going.keyed named s).mpr (.inl rfl), ?_⟩
    exact backs_written found owned written generated (inYears years) word

/-- What is reported of a declaration that was supplied is backed by the secret made for it. -/
theorem Supply.tells (plain : r.source.Plain) {write : Write} {make : Credentials → Secret}
    {o : World.Outcome Progress} (supply : Supply r write make p d w o)
    (made : ∀ c, d.matchesSecret (make c) = true ∧ d.accepts (make c) = true ∧
      (make c).data = some (d.secretData c)) (going : Going r.naming p w past) :
    Tells r.naming deadline d o.steps (past ++ o.steps) := by
  cases supply with
  | unissued issuance =>
    have spec := issuance.of_none.2
    refine ⟨fun step member => (spec step member).2, fun step member reports => ?_⟩
    rw [(spec step member).1] at reports
    cases reports
  | issued issuance delivery =>
    obtain ⟨-, issued, silent⟩ := issuance.of_some going
    obtain ⟨found, owned, written⟩ := made _
    refine .after_silent silent (delivery.tells plain (issuance.going going).1 found owned written ?_)
    intro years
    rw [Program.Outcome.after, ← List.append_assoc] at years
    exact issued.of_all years.of_append

/-- What is reported of a healthy secret is backed by it. -/
theorem tells_reportHealthy (plain : r.source.Plain) (undisturbed : w.Undisturbed)
    (member : s ∈ w.secrets) (found : d.matchesSecret s = true) (owned : d.accepts s = true)
    (healthy : Drift.classify d s deadline = .healthy) :
    Tells r.naming deadline d (w.run (reportHealthy r p d s)).steps all := by
  unfold reportHealthy
  cases expires : s.expiration? with
  | none => exact .of_silent fun _ absent => absurd absent List.not_mem_nil
  | some recorded =>
    refine (run_report ..).tells plain undisturbed fun generation generated _ _ => ?_
    exact ⟨s, member, backs_healthy found owned healthy generated expires⟩

theorem Deletion.silent {o : World.Outcome Progress} (deletion : Deletion p s w o) :
    ∀ step ∈ o.steps, Silent step := by
  intro step member
  cases deletion with
  | refused served =>
    rcases List.mem_cons.mp member with rfl | later
    · exact ⟨rfl, rfl⟩
    · rw [List.mem_singleton.mp later]
      exact ⟨rfl, rfl⟩
  | deleted removed plain =>
    rcases List.mem_cons.mp member with rfl | later
    · exact ⟨rfl, rfl⟩
    · rw [List.mem_singleton.mp later]
      refine ⟨rfl, failedKey?_of_isRemark ?_⟩
      simp [Query.isRemark, plain]

/-- Turns fail for the keys of their own declarations only. -/
theorem mem_keys_of_failedKey? {declarations : List Declaration} {chunks : List (List World.Step)}
    (each : List.Forall₂ (fun d chunk => Tells naming deadline d chunk all) declarations chunks) :
    ∀ step ∈ chunks.flatten, ∀ key, failedKey? step = some key →
      key ∈ declarations.map Declaration.key := by
  intro step member key failed
  induction each with
  | nil => exact absurd member List.not_mem_nil
  | cons first rest ih =>
    rw [List.flatten_cons, List.mem_append] at member
    rw [List.map_cons, List.mem_cons]
    rcases member with here | later
    · exact .inl (first.failures step here key failed)
    · exact .inr (ih later)

/-- Over all turns for declarations with keys of their own, a report is made for none that failed. -/
theorem Tells.flatten {declarations : List Declaration} {chunks : List (List World.Step)}
    (each : List.Forall₂ (fun d chunk => Tells naming deadline d chunk all) declarations chunks)
    (distinct : (declarations.map Declaration.key).Nodup) :
    ∀ step ∈ chunks.flatten, step.question.isReport = true →
      ∃ d ∈ declarations, BackedReport naming deadline d all step ∧
        ∀ other ∈ chunks.flatten, failedKey? other ≠ some d.key := by
  intro step member reports
  induction each with
  | nil => exact absurd member List.not_mem_nil
  | cons first rest ih =>
    rename_i d chunk declarations chunks
    obtain ⟨apart, restDistinct⟩ := List.nodup_cons.mp distinct
    rw [List.flatten_cons, List.mem_append] at member
    rcases member with here | later
    · obtain ⟨noFailure, backed⟩ := first.reports step here reports
      refine ⟨d, List.mem_cons_self .., backed, fun other inside failed => ?_⟩
      rcases List.mem_append.mp inside with same | elsewhere
      · rw [noFailure other same] at failed
        cases failed
      · exact apart (mem_keys_of_failedKey? rest other elsewhere _ failed)
    · obtain ⟨declaration, declared, backed, noFailure⟩ := ih restDistinct later
      refine ⟨declaration, List.mem_cons_of_mem _ declared, backed, fun other inside failed => ?_⟩
      rcases List.mem_append.mp inside with same | elsewhere
      · have key := first.failures other same _ failed
        exact apart (key ▸ List.mem_map_of_mem declared)
      · exact noFailure other elsewhere failed

/-- The same is so when silent steps have gone before. -/
theorem Tells.flatten_after {declarations : List Declaration} {early : List World.Step}
    {chunks : List (List World.Step)} (quiet : ∀ step ∈ early, Silent step)
    (each : List.Forall₂ (fun d chunk => Tells naming deadline d chunk all) declarations chunks)
    (distinct : (declarations.map Declaration.key).Nodup) :
    ∀ step ∈ early ++ chunks.flatten, step.question.isReport = true →
      ∃ d ∈ declarations, BackedReport naming deadline d all step ∧
        ∀ other ∈ early ++ chunks.flatten, failedKey? other ≠ some d.key := by
  intro step member reports
  rcases List.mem_append.mp member with before | later
  · rw [(quiet step before).1] at reports
    cases reports
  · obtain ⟨d, declared, backed, noFailure⟩ := Tells.flatten each distinct step later reports
    refine ⟨d, declared, backed, fun other inside => ?_⟩
    rcases List.mem_append.mp inside with before | elsewhere
    · rw [(quiet other before).2]
      exact fun same => by cases same
    · exact noFailure other elsewhere

end RoleSecrets.Tick
