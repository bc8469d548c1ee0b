import RoleSecrets.History
import RoleSecrets.Proofs.StatusReports

/-! # Credentials are renewed before they expire

Over a history of ticks and of changes from outside which leave the secrets alone, every declaration
of a tick is served until the next: its secret is there, and does not expire before that tick, as
long as ticks follow each other within the refresh limit and the issuer's credentials last as long.
Of which worlds it is so that a tick goes through is said in `FaultFree`.
-/

namespace RoleSecrets

open Tick

/-- Whether an instant is recorded, in whole seconds, with a year of four digits and not before a
deadline. -/
def Timestamp.Outlasts (expiration deadline : Timestamp) : Prop :=
  expiration.HasFourDigitYear ∧ deadline ≤ expiration.wholeSeconds

namespace Reconciler

/-- A history goes on from the world its first part has left. -/
theorem live_append (r : Reconciler) (w : World) (first second : List Act) :
    (r.live w (first ++ second)).2 = (r.live (r.live w first).2 second).2 := by
  induction first generalizing w with
  | nil => rfl
  | cons act rest ih => exact ih (r.act w act).2

/-- Whether a tick goes through: nothing fails, the source takes what it declares, and credentials
issued in the tick last until the refresh limit is over. -/
structure Smooth (r : Reconciler) (now : Timestamp) (w : World) : Prop where
  faultless : ∃ summary, (w.run (r.tick now)).value = .ok summary ∧ summary.failed = 0
  declared : ∀ declarations, (w.run r.source.declarations).value = .ok declarations →
    ∀ d ∈ Drift.counting declarations, r.source.Takes d ∧ d.HasWordGeneration
  lasting : ∃ deadline, now.add? r.refreshLimit = some deadline ∧
    AllIssued (·.expiration.Outlasts deadline) (w.run (r.tick now)).steps

/-- Whether all ticks of a history go through, and no change from outside touches the secrets. -/
def Steady (r : Reconciler) : World → List Act → Prop
  | _, [] => True
  | w, .tick now :: later => r.Smooth now w ∧ r.Steady (w.run (r.tick now)).state later
  | w, .change change :: later => change.keepsSecrets = true ∧ r.Steady (w.apply change) later

variable {r : Reconciler}

theorem Steady.append {first second : List Act} {w : World} (steady : r.Steady w (first ++ second)) :
    r.Steady w first ∧ r.Steady (r.live w first).2 second := by
  induction first generalizing w with
  | nil => exact ⟨trivial, steady⟩
  | cons act rest ih =>
    cases act with
    | tick now =>
      obtain ⟨smooth, later⟩ := steady
      obtain ⟨one, two⟩ := ih later
      exact ⟨⟨smooth, one⟩, two⟩
    | change change =>
      obtain ⟨keeps, later⟩ := steady
      obtain ⟨one, two⟩ := ih later
      exact ⟨⟨keeps, one⟩, two⟩

/-- All through such a history the store stays keyed and undisturbed. -/
theorem Steady.keyed {acts : List Act} {w : World} (steady : r.Steady w acts)
    (plain : r.source.Plain) (keyed : Keyed w.secrets) (undisturbed : w.Undisturbed) :
    Keyed (r.live w acts).2.secrets ∧ (r.live w acts).2.Undisturbed := by
  induction acts generalizing w with
  | nil => exact ⟨keyed, undisturbed⟩
  | cons act rest ih =>
    cases act with
    | tick now =>
      obtain ⟨one, two⟩ := (run_tick r now w).keeps plain keyed undisturbed
      exact ih steady.2 one two
    | change change =>
      refine ih steady.2 ?_ ?_
      · rw [World.secrets_apply steady.1]
        exact keyed
      · rw [World.Undisturbed, World.schedule_apply]
        exact undisturbed

/-- Between ticks the secrets stay as they are. -/
theorem Steady.secrets_of_changes {acts : List Act} {w : World} (steady : r.Steady w acts)
    (changes : ∀ act ∈ acts, ∃ change, act = .change change) :
    (r.live w acts).2.secrets = w.secrets := by
  induction acts generalizing w with
  | nil => rfl
  | cons act rest ih =>
    obtain ⟨change, rfl⟩ := changes act (List.mem_cons_self ..)
    have later := ih steady.2 fun act member => changes act (List.mem_cons_of_mem _ member)
    exact later.trans (World.secrets_apply steady.1 w)

end Reconciler

/-- What a tick leaves for a declaration does not expire before the deadline of the tick. -/
theorem Tick.Origin.outlasts {naming : RoleNaming} {deadline : Timestamp} {d : Declaration}
    {listed : List Secret} {steps : List World.Step} {s : Secret}
    (origin : Origin naming (some deadline) d listed steps s)
    (lasting : AllIssued (·.expiration.Outlasts deadline) steps) :
    ∃ expiration, s.expiration? = some expiration ∧ deadline ≤ expiration := by
  have written : ∀ {t : Secret} {c : Credentials}, t.data = some (d.secretData c) →
      IssuedFor naming d c steps →
        ∃ expiration, t.expiration? = some expiration ∧ deadline ≤ expiration := by
    intro t c data issued
    obtain ⟨inYears, lasts⟩ := issued.of_all lasting
    refine ⟨_, Secret.expiration?_written data inYears, Timestamp.le_trans lasts ?_⟩
    exact Timestamp.wholeSeconds_le_startOfSecond _
  cases origin with
  | kept held healthy =>
    obtain ⟨expiration, limit, expires, same, lasts⟩ :=
      Drift.outlasts_eq_true_iff.mp (Drift.classify_eq_healthy_iff.mp healthy).2
    obtain rfl := Option.some.inj same
    exact ⟨expiration, expires, lasts⟩
  | renewed held drifted issued => exact written rfl issued
  | created issued => exact written rfl issued

/-- In a history whose ticks go through, whatever is declared at a tick has a secret at the start of
the next one, with the declared owner and generation. It does not expire before that tick, if that
comes within the refresh limit. -/
theorem Reconciler.rotates (r : Reconciler) (plain : r.source.Plain) (w : World)
    (keyed : Keyed w.secrets) (undisturbed : w.Undisturbed) (acts : List Act)
    (steady : r.Steady w acts) (earlier between later : List Act) (now next : Timestamp)
    (split : acts = earlier ++ .tick now :: (between ++ .tick next :: later))
    (changes : ∀ act ∈ between, ∃ change, act = .change change)
    (soon : ∃ deadline, now.add? r.refreshLimit = some deadline ∧ next ≤ deadline)
    (declarations : List Declaration)
    (told : ((r.live w earlier).2.run r.source.declarations).value = .ok declarations) :
    ∀ d ∈ Drift.counting declarations,
      ∃ s ∈ (r.live w (earlier ++ .tick now :: between)).2.secrets, d.matchesSecret s = true ∧
        (∀ owner, d.owner = some owner →
          ∃ recorded ∈ s.metadata.owners.getD [], recorded.agrees owner = true) ∧
        (∀ generation, d.generation = some generation → s.generation? = some generation) ∧
        ∃ expiration, s.expiration? = some expiration ∧ next ≤ expiration := by
  subst split
  obtain ⟨before, smooth, after⟩ := steady.append
  obtain ⟨inBetween, -⟩ := after.append
  obtain ⟨keyedThere, undisturbedThere⟩ := before.keyed plain keyed undisturbed
  have secrets : (r.live w (earlier ++ .tick now :: between)).2.secrets =
      ((r.live w earlier).2.run (r.tick now)).state.secrets := by
    rw [Reconciler.live_append]
    exact inBetween.secrets_of_changes changes
  rw [secrets]
  generalize (r.live w earlier).2 = world at *
  obtain ⟨summary, finished, noFailure⟩ := smooth.faultless
  obtain ⟨deadline, limit, lasting⟩ := smooth.lasting
  obtain ⟨deadline', limit', inTime⟩ := soon
  obtain rfl : deadline = deadline' := Option.some.inj (limit.symm.trans limit')
  have accepted := smooth.declared declarations told
  have converged := (run_tick r now world).converged plain keyedThere undisturbedThere told
    (fun d counts => (accepted d counts).1) finished noFailure
  intro d counts
  obtain ⟨s, held, supplied⟩ := converged.supplied d counts
  have origin := supplied.origin
  refine ⟨s, held, supplied.found, ?_, ?_, ?_⟩
  · exact fun owner owns => Declaration.recorded_of_accepts supplied.accepted owns
  · exact fun generation => origin.generation? (accepted d counts).2
  · rw [limit] at origin
    obtain ⟨expiration, expires, lasts⟩ := origin.outlasts lasting
    exact ⟨expiration, expires, Timestamp.le_trans inTime lasts⟩

/-- A minute after the start of 1970. -/
private def minute : Timestamp := (Timestamp.epoch.add? 60).getD .epoch

theorem Reconciler.rotates_sample :
    Reconciler.sample.Steady .sample
        [.tick .epoch, .change (.declarations []), .tick minute] ∧
      ∀ d ∈ Drift.counting World.sample.declarations,
        ∃ s ∈ (Reconciler.sample.live .sample [.tick .epoch, .change (.declarations [])]).2.secrets,
          d.matchesSecret s = true ∧
            ∃ expiration, s.expiration? = some expiration ∧ minute ≤ expiration := by
  have first : Reconciler.sample.Smooth .epoch .sample := by
    refine ⟨⟨_, rfl, rfl⟩, fun declarations told d counts => ?_, minute, by decide, ?_⟩
    · obtain rfl : World.sample.declarations = declarations := Except.ok.inj told
      have member := Drift.mem_of_mem_counting counts
      exact ⟨Source.takes_sample d member, Declaration.hasWordGeneration_sample d member⟩
    · exact allIssued_of_unscheduled _ rfl (P := (·.Outlasts minute)) ⟨by decide, by decide⟩
  have second : Reconciler.sample.Smooth minute
      ((World.sample.run (Reconciler.sample.tick .epoch)).state.apply (.declarations [])) := by
    refine ⟨⟨{ deleted := 2 }, rfl, rfl⟩, fun declarations told d counts => ?_, _, rfl, ?_⟩
    · obtain rfl : [] = declarations := Except.ok.inj told
      exact absurd counts List.not_mem_nil
    · exact allIssued_of_unscheduled _ rfl (P := (·.Outlasts _)) ⟨by decide, by decide⟩
  have steady : Reconciler.sample.Steady .sample
      [.tick .epoch, .change (.declarations []), .tick minute] := ⟨first, rfl, second, trivial⟩
  refine ⟨steady, fun d counts => ?_⟩
  obtain ⟨s, held, found, -, -, lasts⟩ := Reconciler.rotates .sample Source.plain_declared .sample
    World.keyed_sample World.undisturbed_sample _ steady [] [.change (.declarations [])] [] .epoch
    minute rfl (by simp) ⟨minute, by decide, by decide⟩ _ rfl d counts
  exact ⟨s, held, found, lasts⟩

end RoleSecrets
