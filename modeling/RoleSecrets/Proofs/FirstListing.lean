import RoleSecrets.PodHistory
import RoleSecrets.Proofs.Quiescence

/-! # Nothing is touched before the first listing

A registry is synced from the first complete listing on. Until then the source of pods declares
nothing, not even that there is nothing, so that a tick does no more than to look; from then on no
tick waits for a listing again.
-/

namespace RoleSecrets

open Tick

/-- Of all changes, a complete listing alone makes a registry synced, and none undoes it. -/
theorem Registry.synced_apply (registry : Registry) (change : RegistryChange) :
    (registry.apply change).synced = (registry.synced || change.isReplace) := by
  cases change <;> simp [apply, add, remove, replace, swap, markSynced, RegistryChange.isReplace]

namespace World

theorem synced_apply {change : Change} {w : World} (synced : w.registry.synced = true) :
    (w.apply change).registry.synced = true := by
  cases change with
  | registry change => exact (Registry.synced_apply ..).trans (by rw [synced, Bool.true_or])
  | _ => exact synced

theorem synced_applyDue {schedule : List (Nat × Change)} {w : World}
    (synced : w.registry.synced = true) : (w.applyDue schedule).registry.synced = true :=
  (applyDue_induction (P := fun _ => True) (I := fun after => after.registry.synced = true)
    (fun _ _ _ kept => synced_apply kept) (fun _ _ kept => kept) (fun _ _ => trivial) synced).1

/-- Whatever is asked, a synced registry stays synced. -/
theorem synced_serve (question : Query) {w : World} (synced : w.registry.synced = true) :
    (serve question w).2.registry.synced = true := by
  rcases serve_state question w with ⟨_, _, _, same⟩ | ⟨-, _, same⟩ <;> rw [same]
  · exact synced
  · exact synced_applyDue synced

theorem synced_run {α : Type} (p : Controller α) {w : World} (synced : w.registry.synced = true) :
    (w.run p).state.registry.synced = true := by
  have keeps : ∀ question before, before.registry.synced = true →
      (serve question before).2.registry.synced = true := fun question _ => synced_serve question
  exact (run_keeps keeps p synced).1

end World

/-- Whether a tick went no further than to find out that no listing was complete, or failed before. -/
structure Tick.Waited (w : World) (o : World.Outcome (Except TickError Summary)) : Prop where
  failed : (∃ e, o.value = .error (.secrets e)) ∨ o.value = .error (.declarations .notSynced)
  looked : ∀ step ∈ o.steps, step.question.isAction = false
  unchanged : o.state = w

namespace Reconciler

variable {r : Reconciler} (pods : r.source = .ofPods) (now : Timestamp) {w : World}

include pods

/-- As long as the registry is not synced, a tick of the source of pods only looks. -/
theorem waited_tick (unsynced : w.registry.synced = false) : Waited w (w.run (r.tick now)) := by
  have plain : r.source.Plain := pods ▸ Source.plain_ofPods
  have looks := World.asked_of_mem_run plain.declarations w
  obtain ⟨steps, asked⟩ := Source.run_ofPods w
  rw [← pods, Source.podsTold, unsynced] at asked
  rw [asked] at looks
  have ticking := run_tick r now w
  generalize w.run (r.tick now) = o at ticking
  cases ticking with
  | unlisted served =>
    refine ⟨.inl ⟨_, rfl⟩, fun step member => ?_, rfl⟩
    rw [List.mem_singleton.mp member]
    rfl
  | undeclared failed =>
    rw [asked] at failed
    obtain ⟨-, rfl, rfl⟩ := Program.Outcome.mk.inj failed
    refine ⟨.inr ?_, fun step member => ?_, rfl⟩
    · cases failed
      rfl
    · rcases List.mem_cons.mp member with rfl | later
      · rfl
      · exact Query.isAction_of_isLookup (looks step later)
  | carried told ran =>
    rw [asked] at told
    cases told

/-- Once it is synced, no tick finds that it is not. -/
theorem not_waited_tick (synced : w.registry.synced = true) :
    (w.run (r.tick now)).value ≠ .error (.declarations .notSynced) := by
  obtain ⟨steps, asked⟩ := Source.run_ofPods w
  rw [← pods, Source.podsTold, synced] at asked
  have ticking := run_tick r now w
  generalize w.run (r.tick now) = o at ticking
  cases ticking with
  | unlisted served => exact fun failed => by cases failed
  | undeclared failed =>
    rw [asked] at failed
    cases failed
  | carried told ran => exact fun failed => by cases failed

/-- A tick does not tell whether there has been a complete listing. -/
theorem synced_tick : (w.run (r.tick now)).state.registry.synced = w.registry.synced := by
  cases synced : w.registry.synced with
  | true => exact World.synced_run _ synced
  | false => rw [(waited_tick pods now synced).unchanged, synced]

end Reconciler

/-- Whether an act neither closes a listing nor brings a complete one from elsewhere. -/
def PodAct.IsPartial : PodAct → Prop
  | .observe event => event ≠ .listingDone
  | .take => True
  | .act ordinary => ∀ consumers, ordinary ≠ .change (.registry (.replace consumers))

namespace PodScene

section Synced

variable {r : Reconciler} (pods : r.source = .ofPods)

include pods

/-- The registry is synced after an act if it was before, or if the act brings a listing. -/
theorem synced_step (s : PodScene) (act : PodAct) :
    (s.step r act).world.registry.synced = (s.world.registry.synced || s.relists act) := by
  cases act with
  | observe event => exact (Bool.or_false _).symm
  | take =>
    rw [step, relists]
    cases s.waiting with
    | nil => exact (Bool.or_false _).symm
    | cons event waiting => exact Registry.synced_apply ..
  | act act =>
    cases act with
    | tick now => exact (Reconciler.synced_tick pods now).trans (Bool.or_false _).symm
    | change change =>
      cases change with
      | registry change => exact Registry.synced_apply ..
      | _ => exact (Bool.or_false _).symm

theorem synced_after (s : PodScene) (acts : List PodAct) :
    (s.after r acts).world.registry.synced =
      (s.world.registry.synced || s.hasRelisted r acts) := by
  induction acts generalizing s with
  | nil => exact (Bool.or_false _).symm
  | cons act acts ih =>
    change ((s.step r act).after r acts).world.registry.synced = _
    rw [ih, synced_step pods, Bool.or_assoc]
    rfl

end Synced

/-- A complete listing among the first acts is one among all. -/
theorem hasRelisted_append (r : Reconciler) (s : PodScene) (first second : List PodAct) :
    s.hasRelisted r (first ++ second) =
      (s.hasRelisted r first || (s.after r first).hasRelisted r second) := by
  induction first generalizing s with
  | nil => rfl
  | cons act rest ih =>
    rw [List.cons_append, hasRelisted, hasRelisted, ih, Bool.or_assoc]
    rfl

/-- Only the end of a listing makes a complete one wait for the registry. -/
theorem waiting_step (r : Reconciler) {s : PodScene} {act : PodAct} (ongoing : act.IsPartial)
    (waiting : ∀ event ∈ s.waiting, event.change.isReplace = false) :
    s.relists act = false ∧ ∀ event ∈ (s.step r act).waiting, event.change.isReplace = false := by
  cases act with
  | observe event =>
    refine ⟨rfl, fun news member => ?_⟩
    rcases List.mem_append.mp member with before | new
    · exact waiting news before
    · cases event with
      | listingDone => exact absurd rfl ongoing
      | listingStarted => cases new
      | listed pod => cases new
      | applied pod =>
        obtain ⟨consumer, -, rfl⟩ := Option.map_eq_some_iff.mp (Option.mem_toList.mp new)
        rfl
      | deleted pod =>
        obtain ⟨consumer, -, rfl⟩ := Option.map_eq_some_iff.mp (Option.mem_toList.mp new)
        rfl
  | take =>
    obtain ⟨world, listed, queue⟩ := s
    cases queue with
    | nil => exact ⟨rfl, waiting⟩
    | cons event later =>
      exact ⟨waiting event (List.mem_cons_self ..),
        fun news member => waiting news (List.mem_cons_of_mem _ member)⟩
  | act act =>
    refine ⟨?_, waiting⟩
    cases act with
    | tick now => rfl
    | change change =>
      cases change with
      | registry change =>
        cases change with
        | replace consumers => exact absurd rfl (ongoing consumers)
        | _ => rfl
      | _ => rfl

theorem not_hasRelisted (r : Reconciler) {s : PodScene} {acts : List PodAct}
    (ongoing : ∀ act ∈ acts, act.IsPartial)
    (waiting : ∀ event ∈ s.waiting, event.change.isReplace = false) :
    s.hasRelisted r acts = false := by
  induction acts generalizing s with
  | nil => rfl
  | cons act acts ih =>
    obtain ⟨first, still⟩ := waiting_step r (ongoing act (List.mem_cons_self ..)) waiting
    rw [hasRelisted, first, Bool.false_or]
    exact ih (fun act member => ongoing act (List.mem_cons_of_mem _ member)) still

end PodScene

/-- As long as no complete listing has come to the registry, whatever else happens, every tick of
the source of pods fails without having touched anything. Once one has come, even an empty one, no
later tick fails for want of it. None comes without the end of a listing having been observed. -/
theorem Reconciler.waits_for_listing (r : Reconciler) (pods : r.source = .ofPods) (s : PodScene)
    (unsynced : s.world.registry.synced = false) (acts : List PodAct) :
    (s.hasRelisted r acts = false → ∀ now,
      Waited (s.after r acts).world ((s.after r acts).world.run (r.tick now))) ∧
    (s.hasRelisted r acts = true → ∀ later now,
      ((s.after r (acts ++ later)).world.run (r.tick now)).value ≠
        .error (.declarations .notSynced)) ∧
    ((∀ act ∈ acts, act.IsPartial) → (∀ event ∈ s.waiting, event.change.isReplace = false) →
      s.hasRelisted r acts = false) := by
  refine ⟨fun none now => ?_, fun relisted later now => ?_, PodScene.not_hasRelisted r⟩
  · refine waited_tick pods now ?_
    rw [PodScene.synced_after pods, unsynced, none, Bool.or_false]
  · refine not_waited_tick pods now ?_
    rw [PodScene.synced_after pods, PodScene.hasRelisted_append, relisted, Bool.true_or,
      Bool.or_true]

section Sample

/-- A reconciler for the roles that pods use. -/
def Reconciler.podSample : Reconciler where
  naming := ⟨"arn:aws:iam::1:role/", "arn:aws:iam::"⟩
  source := .ofPods
  refreshLimit := 60

/-- A cluster with a secret that is deleted where no pod uses its role. -/
def PodScene.sample : PodScene where
  world := {
    secrets := [{ metadata := {
      name := some "aws-iam-reader", ns := some "apps", labels := some [RoleResource.heritage] } }]
    expiration := (Timestamp.epoch.add? 3600).getD .epoch }

/-- A pod is seen before the listing of the pods has come to its end. -/
private def partialListing : List PodAct :=
  [.observe .listingStarted,
    .observe (.applied ⟨{ name := some "pod", ns := some "apps" }, ["aws-iam-writer"]⟩),
    .take, .act (.tick .epoch)]

theorem Reconciler.waits_for_listing_sample :
    Waited (PodScene.sample.after podSample partialListing).world
        ((PodScene.sample.after podSample partialListing).world.run (podSample.tick .epoch)) ∧
      ((PodScene.sample.after podSample
          (partialListing ++ [.observe .listingDone, .take] ++ [.act (.tick .epoch)])).world.run
        (podSample.tick .epoch)).value ≠ .error (.declarations .notSynced) := by
  have ongoing : ∀ act ∈ partialListing, act.IsPartial := by
    simp [partialListing, PodAct.IsPartial]
  constructor
  · obtain ⟨waits, -, early⟩ :=
      Reconciler.waits_for_listing podSample rfl .sample rfl partialListing
    exact waits (early ongoing (fun _ member => absurd member List.not_mem_nil)) .epoch
  · exact (Reconciler.waits_for_listing podSample rfl .sample rfl
      (partialListing ++ [.observe .listingDone, .take])).2.1 rfl [.act (.tick .epoch)] .epoch

end Sample

end RoleSecrets
