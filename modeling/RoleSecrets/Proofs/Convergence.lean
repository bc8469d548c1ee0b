import RoleSecrets.Proofs.WholeTick

/-! # A tick converges

Whatever the store holds, a tick that counts no failure leaves exactly the declared secrets of its
source, each owned and marked as declared, and each healthy or freshly written.
-/

namespace RoleSecrets

open Tick

/-- A secret that a tick leaves carries the declared generation. -/
theorem Tick.Origin.generation? {naming : RoleNaming} {deadline : Option Timestamp} {d : Declaration}
    {listed : List Secret} {steps : List World.Step} {s : Secret}
    (origin : Origin naming deadline d listed steps s) (word : d.HasWordGeneration)
    {generation : Int} (generated : d.generation = some generation) :
    s.generation? = some generation := by
  cases origin with
  | kept held healthy =>
    exact Drift.generation?_of_isCurrent (Drift.classify_eq_healthy_iff.mp healthy).1 generated
  | renewed held drifted issued => exact (Secret.generation?_written rfl word).trans generated
  | created issued => exact (Secret.generation?_written rfl word).trans generated

/-- A declaration with an owner accepts secrets that record it. -/
theorem Declaration.recorded_of_accepts {d : Declaration} {s : Secret} (accepted : d.accepts s = true)
    {owner : OwnerReference} (owns : d.owner = some owner) :
    ∃ recorded ∈ s.metadata.owners.getD [], recorded.agrees owner = true := by
  rw [accepts, owns] at accepted
  exact List.any_eq_true.mp accepted

/-- After a tick that counts no failure, the owned secrets are one to one with the declarations that
count. Each has the declared owner and generation, and was healthy and is kept as it was, or holds
credentials issued in the tick. The sources of pods and of resources are plain and take all that
they declare. -/
theorem Reconciler.tick_converges (r : Reconciler) (plain : r.source.Plain) (now : Timestamp)
    (w : World) (keyed : Keyed w.secrets) (undisturbed : w.Undisturbed)
    (declarations : List Declaration)
    (told : (w.run r.source.declarations).value = .ok declarations)
    (taken : ∀ d ∈ Drift.counting declarations, r.source.Takes d)
    (words : ∀ d ∈ declarations, d.HasWordGeneration) (summary : Summary)
    (finished : (w.run (r.tick now)).value = .ok summary) (noFailure : summary.failed = 0) :
    Keyed (w.run (r.tick now)).state.secrets ∧
    (((w.run (r.tick now)).state.secrets.filter r.source.owns).map Secret.key).Perm
      ((Drift.counting declarations).map Declaration.key) ∧
    (∀ s ∈ (w.run (r.tick now)).state.secrets.filter r.source.owns,
      ∃ d ∈ Drift.counting declarations, d.matchesSecret s = true ∧
        (∀ owner, d.owner = some owner →
          ∃ recorded ∈ s.metadata.owners.getD [], recorded.agrees owner = true) ∧
        (∀ generation, d.generation = some generation → s.generation? = some generation) ∧
        Origin r.naming (now.add? r.refreshLimit) d (w.secrets.filter r.source.owns)
          (w.run (r.tick now)).steps s) ∧
    (∀ s, r.source.owns s = false → s.key ∉ (Drift.counting declarations).map Declaration.key →
      (s ∈ (w.run (r.tick now)).state.secrets ↔ s ∈ w.secrets)) ∧
    (∀ source : Source, (source = .ofPods ∨ ∃ ns, source = .ofResources ns) → source.Plain ∧
      ∀ (world : World) (listing : List Declaration),
        (world.run source.declarations).value = .ok listing → ∀ d ∈ listing, source.Takes d) := by
  have converged :=
    (run_tick r now w).converged plain keyed undisturbed told taken finished noFailure
  generalize w.run (r.tick now) = o at converged
  -- an owned secret has the key of a declaration, and so is the one supplied for it
  have supplied : ∀ s ∈ o.state.secrets, r.source.owns s = true →
      ∃ d ∈ Drift.counting declarations, Supplied r now w o.steps d s := by
    intro s left owned
    obtain ⟨d, counts, key⟩ := List.mem_map.mp (converged.declared s left owned)
    obtain ⟨t, held, supplied⟩ := converged.supplied d counts
    have same : t.key = s.key := (Declaration.key_of_matchesSecret supplied.found).trans key
    obtain rfl := converged.keyed.eq_of_key held left same
    exact ⟨d, counts, supplied⟩
  refine ⟨converged.keyed, ?_, ?_, converged.frame, ?_⟩
  · refine (List.perm_ext_iff_of_nodup (converged.keyed.filter _).distinct
      (Drift.nodup_keys_counting declarations)).mpr fun key => ?_
    constructor
    · intro member
      obtain ⟨s, inside, rfl⟩ := List.mem_map.mp member
      obtain ⟨left, owned⟩ := List.mem_filter.mp inside
      exact converged.declared s left owned
    · intro member
      obtain ⟨d, counts, rfl⟩ := List.mem_map.mp member
      obtain ⟨s, held, supplied⟩ := converged.supplied d counts
      exact List.mem_map.mpr ⟨s, List.mem_filter.mpr ⟨held, supplied.owned⟩,
        Declaration.key_of_matchesSecret supplied.found⟩
  · intro s member
    obtain ⟨left, owned⟩ := List.mem_filter.mp member
    obtain ⟨d, counts, supplied⟩ := supplied s left owned
    have word := words d (Drift.mem_of_mem_counting counts)
    refine ⟨d, counts, supplied.found, ?_, ?_, supplied.origin⟩
    · exact fun owner owns => Declaration.recorded_of_accepts supplied.accepted owns
    · exact fun generation generated => supplied.origin.generation? word generated
  · rintro source (rfl | ⟨ns, rfl⟩)
    · exact ⟨Source.plain_ofPods, fun _ _ => Source.takes_ofPods⟩
    · exact ⟨Source.plain_ofResources ns, fun _ _ => Source.takes_ofResources⟩

section Sample

private def labels : Fields String := [RoleResource.heritage, RoleResource.secretType]

/-- A reconciler for plain declarations. -/
def Reconciler.sample : Reconciler where
  naming := ⟨"arn:aws:iam::1:role/", "arn:aws:iam::"⟩
  source := .declared
  refreshLimit := 60

/-- A store with a secret to delete, one to renew and one of another source, while a further one is
declared. -/
def World.sample : World where
  secrets := [
    { metadata := { name := some "unused", ns := some "apps", labels := some labels } },
    { metadata := { name := some "empty", ns := some "apps", labels := some labels } },
    { metadata := { name := some "other", ns := some "apps" } }]
  declarations := [
    { ns := "apps", secretName := "empty", role := "reader", duration := 900, labels },
    { ns := "apps", secretName := "missing", role := "writer", duration := 900, labels
      generation := some 3, owner := some ⟨"v1", "Role", "missing", "id", none, none⟩ }]
  expiration := (Timestamp.epoch.add? 3600).getD .epoch

theorem World.keyed_sample : Keyed World.sample.secrets := ⟨by decide, by decide⟩

theorem World.undisturbed_sample : World.sample.Undisturbed :=
  fun _ member => absurd member List.not_mem_nil

theorem Source.takes_sample : ∀ d ∈ World.sample.declarations, Source.declared.Takes d := by
  intro d member
  rcases List.mem_cons.mp member with rfl | later
  · exact fun _ => rfl
  · obtain rfl := List.mem_singleton.mp later
    exact fun _ => rfl

theorem Declaration.hasWordGeneration_sample :
    ∀ d ∈ World.sample.declarations, d.HasWordGeneration := by
  intro d member
  rcases List.mem_cons.mp member with rfl | later
  · exact fun _ generated => by cases generated
  · obtain rfl := List.mem_singleton.mp later
    intro generation generated
    cases generated
    decide

theorem Reconciler.tick_converges_sample :
    (World.sample.run (Reconciler.sample.tick .epoch)).value =
        .ok { created := 1, updated := 1, deleted := 1, reported := 1 } ∧
      (((World.sample.run (Reconciler.sample.tick .epoch)).state.secrets.filter
          Source.declared.owns).map Secret.key).Perm
        [⟨"apps", "empty"⟩, ⟨"apps", "missing"⟩] := by
  have finished : (World.sample.run (Reconciler.sample.tick .epoch)).value =
      .ok { created := 1, updated := 1, deleted := 1, reported := 1 } := rfl
  have taken : ∀ d ∈ Drift.counting World.sample.declarations, Source.declared.Takes d :=
    fun d counts => Source.takes_sample d (Drift.mem_of_mem_counting counts)
  have converged := Reconciler.tick_converges .sample Source.plain_declared .epoch .sample
    World.keyed_sample World.undisturbed_sample World.sample.declarations rfl taken
    Declaration.hasWordGeneration_sample _ finished rfl
  exact ⟨finished, converged.2.1⟩

end Sample

end RoleSecrets
