import RoleSecrets.Proofs.Phases
import RoleSecrets.Proofs.SecretData

/-! # What a turn does to the store

Between turns the store is keyed, nothing disturbs it, and remembered credentials are those that
were issued. A turn touches the secret of its own item only; where it counts no failure, that secret
is deleted, kept, or written with credentials issued in the tick.
-/

namespace RoleSecrets.Tick

open World

/-- Whether credentials were issued for what a declaration asks, in some steps. -/
def IssuedFor (naming : RoleNaming) (d : Declaration) (c : Credentials) (steps : List World.Step) :
    Prop :=
  c.roleArn = naming.resolve d.role ∧ ∃ before session,
    (⟨before, .assumeRole c.roleArn session d.duration, .ok c.toSessionKeys⟩ : World.Step) ∈ steps

theorem IssuedFor.more {naming : RoleNaming} {d : Declaration} {c : Credentials}
    {steps : List World.Step} (issued : IssuedFor naming d c steps) (more : List World.Step) :
    IssuedFor naming d c (steps ++ more) := by
  obtain ⟨arn, before, session, member⟩ := issued
  exact ⟨arn, before, session, List.mem_append_left _ member⟩

/-- What holds between turns, given the steps so far. -/
structure Going (naming : RoleNaming) (p : Progress) (w : World) (past : List World.Step) :
    Prop where
  keyed : Keyed w.secrets
  undisturbed : w.Undisturbed
  issued : ∀ d c, p.issued? d = some c → IssuedFor naming d c past

/-- The key of the secret that a step failed to write or to get credentials for. That there are no
credentials is known from the error logged about it. -/
def failedKey? : World.Step → Option ObjectKey
  | ⟨_, .createSecret s, .error _⟩ => some s.key
  | ⟨_, .updateSecret s, .error _⟩ => some s.key
  | ⟨_, .log ⟨.error, _, fields⟩, _⟩ =>
      (fields.get? "namespace").bind fun ns => (fields.get? "secret").map fun name => ⟨ns, name⟩
  | _ => none

theorem failedKey?_of_reports {step : World.Step} {d : Declaration} {status : RoleStatus}
    (reports : step.question.Reports d status) : failedKey? step = none := by
  obtain ⟨before, question, answer⟩ := step
  cases question <;> first | rfl | cases reports

theorem failedKey?_of_isRemark {step : World.Step} (remark : step.question.isRemark = true) :
    failedKey? step = none := by
  obtain ⟨before, question, answer⟩ := step
  cases question with
  | log record =>
    obtain ⟨level, message, fields⟩ := record
    cases level <;> first | rfl | cases remark
  | _ => cases remark

/-- Whether a step neither reports a status nor fails for a secret. -/
def Silent (step : World.Step) : Prop :=
  step.question.isReport = false ∧ failedKey? step = none

variable {naming : RoleNaming} {r : Reconciler} {p q : Progress} {d : Declaration} {w : World}
  {past : List World.Step}

theorem Going.more (going : Going naming p w past) (more : List World.Step) :
    Going naming p w (past ++ more) :=
  ⟨going.keyed, going.undisturbed, fun d c kept => (going.issued d c kept).more more⟩

/-- What is counted does not matter between turns. -/
theorem Going.count (going : Going naming p w past) (same : q.issued = p.issued) :
    Going naming q w past := by
  refine ⟨going.keyed, going.undisturbed, fun d c kept => going.issued d c ?_⟩
  rwa [Progress.issued?, same] at kept

theorem Going.remember (going : Going naming p w past) {c : Credentials}
    (issued : IssuedFor naming d c past) : Going naming (p.remember d c) w past := by
  refine ⟨going.keyed, going.undisturbed, fun other found kept => ?_⟩
  rcases Progress.lookup_remember kept with ⟨same, rfl⟩ | before
  · obtain ⟨role, duration⟩ := Prod.mk.inj same
    rw [IssuedFor, role, duration]
    exact issued
  · exact going.issued other found before

/-- Whatever is asked, so long as it is no write. -/
theorem Going.served (going : Going naming p w past) {question : Query} {answer : Reply question}
    {after : World} (noWrite : question.isWrite = false) (served : serve question w = (answer, after))
    (more : List World.Step) :
    Going naming p after (past ++ more) ∧ after.secrets = w.secrets := by
  have kept := secrets_serve noWrite going.undisturbed
  rw [served] at kept
  exact ⟨⟨kept.1 ▸ going.keyed, kept.2, (going.more more).issued⟩, kept.1⟩

theorem silent_eventSteps (w : World) (d : Declaration) (type : EventType) (reason note : String) :
    ∀ step ∈ eventSteps w d type reason note, Silent step := by
  intro step member
  unfold eventSteps at member
  cases subject : d.subject? with
  | none =>
    rw [subject] at member
    exact absurd member List.not_mem_nil
  | some _ =>
    rw [subject] at member
    rw [List.mem_singleton.mp member]
    exact ⟨rfl, rfl⟩

/-- What is told of missing credentials names the secret they are missing for. -/
theorem failedKey?_unissuedSteps (w : World) (d : Declaration) (e : CredentialsError) :
    ∀ step ∈ unissuedSteps w d e, step.question.isReport = false ∧
      ∀ key, failedKey? step = some key → key = d.key := by
  intro step member
  rcases List.mem_cons.mp member with rfl | later
  · refine ⟨rfl, fun key failed => ?_⟩
    have same : some d.key = some key := failed
    exact (Option.some.inj same).symm
  · obtain ⟨noReport, noFailure⟩ := silent_eventSteps _ _ _ _ _ step later
    rw [noFailure]
    exact ⟨noReport, fun key failed => by cases failed⟩

namespace Issuance

variable {o : World.Outcome (Option Credentials × Progress)}

theorem going (issuance : Issuance naming p d w o) (start : Going naming p w past) :
    Going naming o.value.2 o.state (past ++ o.steps) ∧ o.state.secrets = w.secrets := by
  cases issuance with
  | reused kept => exact ⟨start.more [], rfl⟩
  | unnamed fresh nameless => exact ⟨(start.more _).count rfl, rfl⟩
  | refused fresh named served =>
    obtain ⟨goes, same⟩ := start.served rfl served _
    exact ⟨goes.count rfl, same⟩
  | issued fresh named served =>
    obtain ⟨goes, same⟩ := start.served rfl served _
    exact ⟨goes.remember ⟨rfl, w, _, List.mem_append_right _ (List.mem_singleton_self _)⟩, same⟩

theorem of_some {c : Credentials} {after : World} {steps : List World.Step}
    (issuance : Issuance naming p d w ⟨(some c, q), after, steps⟩) (start : Going naming p w past) :
    q.summary = p.summary ∧ IssuedFor naming d c (past ++ steps) ∧ ∀ step ∈ steps, Silent step := by
  cases issuance with
  | reused kept =>
    refine ⟨rfl, (start.issued d c kept).more _, fun step member => ?_⟩
    exact absurd member List.not_mem_nil
  | issued fresh named served =>
    refine ⟨rfl, ⟨rfl, w, _, List.mem_append_right _ (List.mem_singleton_self _)⟩, ?_⟩
    intro step member
    rw [List.mem_singleton.mp member]
    exact ⟨rfl, rfl⟩

theorem of_none {after : World} {steps : List World.Step}
    (issuance : Issuance naming p d w ⟨(none, q), after, steps⟩) :
    q.summary = p.summary.fail ∧ ∀ step ∈ steps, step.question.isReport = false ∧
      ∀ key, failedKey? step = some key → key = d.key := by
  cases issuance with
  | unnamed fresh nameless => exact ⟨rfl, failedKey?_unissuedSteps _ _ _⟩
  | refused fresh named served =>
    refine ⟨rfl, fun step member => ?_⟩
    rcases List.mem_cons.mp member with rfl | later
    · exact ⟨rfl, fun key failed => by cases failed⟩
    · exact failedKey?_unissuedSteps _ _ _ step later

end Issuance

/-- Reporting touches no secret; at most it counts a failure. -/
theorem Reporting.keeps (plain : r.source.Plain) {roleArn : String} {expiration : Timestamp}
    {o : World.Outcome Progress} (reporting : Reporting r.source p d roleArn expiration w o)
    (going : Going naming p w past) :
    Going naming o.value o.state (past ++ o.steps) ∧ o.state.secrets = w.secrets ∧
      p.summary.failed ≤ o.value.summary.failed := by
  have asked : ∀ status {answer after steps},
      w.run (r.source.report d status) = ⟨answer, after, steps⟩ →
        ∀ more, Going naming p after (past ++ more) ∧ after.secrets = w.secrets := by
    intro status answer after steps same more
    obtain ⟨secrets, undisturbed, -⟩ := plain.run_report d status going.undisturbed
    rw [same] at secrets undisturbed
    exact ⟨⟨secrets ▸ going.keyed, undisturbed, (going.more more).issued⟩, secrets⟩
  cases reporting with
  | ungenerated _ => exact ⟨going.more [], rfl, Nat.le_refl _⟩
  | known _ _ => exact ⟨going.more [], rfl, Nat.le_refl _⟩
  | told _ _ same =>
    obtain ⟨goes, secrets⟩ := asked _ same _
    exact ⟨goes.count rfl, secrets, Nat.le_refl _⟩
  | refused _ _ same =>
    obtain ⟨goes, secrets⟩ := asked _ same _
    exact ⟨goes.count rfl, secrets, Nat.le_succ _⟩

theorem keeps_reportHealthy (plain : r.source.Plain) (s : Secret) (going : Going naming p w past) :
    Going naming (w.run (reportHealthy r p d s)).value (w.run (reportHealthy r p d s)).state
        (past ++ (w.run (reportHealthy r p d s)).steps) ∧
      (w.run (reportHealthy r p d s)).state.secrets = w.secrets ∧
      p.summary.failed ≤ (w.run (reportHealthy r p d s)).value.summary.failed := by
  unfold reportHealthy
  cases s.expiration? with
  | none => exact ⟨going.more [], rfl, Nat.le_refl _⟩
  | some recorded => exact (run_report ..).keeps plain going

/-- A delivery that counts no failure has put the secret into the store. -/
theorem Delivery.keeps (plain : r.source.Plain) {write : Write} {c : Credentials} {s : Secret}
    {o : World.Outcome Progress} (delivery : Delivery r write p d c s w o) (named : s.IsNamed)
    (going : Going naming p w past) :
    Going naming o.value o.state (past ++ o.steps) ∧
      SameOutside [s.key] w.secrets o.state.secrets ∧
      p.summary.failed ≤ o.value.summary.failed ∧
      (o.value.summary.failed = p.summary.failed → s ∈ o.state.secrets) := by
  cases delivery with
  | rejected asked =>
    refine ⟨(going.more _).count rfl, .refl _ _, Nat.le_succ _, fun noFailure => ?_⟩
    exact absurd noFailure (Nat.succ_ne_self _)
  | written put reporting =>
    have counted : (write.count p.summary).failed = p.summary.failed := by cases write <;> rfl
    have goes : Going naming { p with summary := write.count p.summary }
        { w with secrets := putSecret s w.secrets } past :=
      Going.count ⟨going.keyed.put named, going.undisturbed, going.issued⟩ rfl
    subst put
    obtain ⟨last, secrets, failed⟩ := reporting.keeps plain (goes.more (write.step w s (.ok ()) ::
      writtenSteps write { w with secrets := putSecret s w.secrets } d c))
    rw [List.append_assoc] at last
    refine ⟨last, ?_, counted ▸ failed, fun _ => ?_⟩
    · exact secrets ▸ SameOutside.put going.keyed named
    · exact secrets ▸ (mem_putSecret going.keyed named s).mpr (.inl rfl)

/-- A declaration that is supplied without a failure has its secret, with credentials of the tick. -/
theorem Supply.keeps (plain : r.source.Plain) {write : Write} {make : Credentials → Secret}
    {o : World.Outcome Progress} (supply : Supply r write make p d w o)
    (made : ∀ c, (make c).IsNamed ∧ (make c).key = d.key) (going : Going r.naming p w past) :
    Going r.naming o.value o.state (past ++ o.steps) ∧
      SameOutside [d.key] w.secrets o.state.secrets ∧
      p.summary.failed ≤ o.value.summary.failed ∧
      (o.value.summary.failed = p.summary.failed →
        ∃ c, IssuedFor r.naming d c (past ++ o.steps) ∧ make c ∈ o.state.secrets) := by
  cases supply with
  | unissued issuance =>
    obtain ⟨goes, secrets⟩ := issuance.going going
    have summary := issuance.of_none.1
    dsimp only at goes secrets ⊢
    rw [summary, secrets]
    refine ⟨goes, .refl _ _, Nat.le_succ _, fun noFailure => ?_⟩
    exact absurd noFailure (Nat.succ_ne_self _)
  | issued issuance delivery =>
    rename_i c _ _ _ _
    obtain ⟨goes, secrets⟩ := issuance.going going
    obtain ⟨summary, issued, -⟩ := issuance.of_some going
    dsimp only at goes secrets
    obtain ⟨last, outside, failed, done⟩ := delivery.keeps plain (made c).1 goes
    rw [List.append_assoc] at last
    rw [(made c).2, secrets] at outside
    rw [summary] at failed done
    refine ⟨last, outside, failed, fun noFailure => ⟨c, ?_, done noFailure⟩⟩
    exact (List.append_assoc past _ _) ▸ issued.more _

/-- An orphan that is deleted without a failure leaves no secret under its key. -/
theorem Deletion.keeps {s : Secret} {o : World.Outcome Progress} (deletion : Deletion p s w o)
    (going : Going naming p w past) :
    Going naming o.value o.state (past ++ o.steps) ∧
      SameOutside [s.key] w.secrets o.state.secrets ∧
      p.summary.failed ≤ o.value.summary.failed ∧
      (o.value.summary.failed = p.summary.failed → ∀ t ∈ o.state.secrets, t.key ≠ s.key) := by
  cases deletion with
  | refused served =>
    refine ⟨(going.more _).count rfl, .refl _ _, Nat.le_succ _, fun noFailure => ?_⟩
    exact absurd noFailure (Nat.succ_ne_self _)
  | deleted removed plain =>
    subst removed
    have goes : Going naming p { w with secrets := removeSecret s.key w.secrets } past :=
      ⟨going.keyed.remove _, going.undisturbed, going.issued⟩
    refine ⟨(goes.more _).count rfl, .remove going.keyed _, Nat.le_refl _, fun _ t member => ?_⟩
    exact ((mem_removeSecret going.keyed _ t).mp member).2

end RoleSecrets.Tick
