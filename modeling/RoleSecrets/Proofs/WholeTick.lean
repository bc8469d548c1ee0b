import RoleSecrets.Proofs.TickPhases

/-! # What a whole tick does

A tick fails before it has touched anything, or carries out its plan. A tick that counts no failure
leaves every counting declaration with a secret which the source owns: a healthy one that was kept,
or one with credentials issued in the tick. No other secret of the source is left.
-/

namespace RoleSecrets

open World

/-- What a tick sets out to do in a world with some declarations. -/
def Reconciler.plan (r : Reconciler) (now : Timestamp) (w : World)
    (declarations : List Declaration) : Drift.Plan :=
  Drift.detect declarations (w.secrets.filter r.source.owns) r.refreshLimit now

/-- The plan of a tick splits the owned secrets and the counting declarations. -/
theorem Reconciler.plan_fits (r : Reconciler) (now : Timestamp) {w : World}
    (declarations : List Declaration) (keyed : Keyed w.secrets) :
    (r.plan now w declarations).Fits (now.add? r.refreshLimit) (Drift.counting declarations)
      (w.secrets.filter r.source.owns) :=
  Drift.fits_detect _ _ _ (keyed.filter _).distinct

theorem Reconciler.perm_declaredKeys (r : Reconciler) (now : Timestamp) {w : World}
    (declarations : List Declaration) (keyed : Keyed w.secrets) :
    (Tick.declaredKeys (r.plan now w declarations)).Perm
      ((Drift.counting declarations).map Declaration.key) :=
  (r.plan_fits now declarations keyed).declarations_perm.map _

namespace Tick

inductive Ticking (r : Reconciler) (now : Timestamp) (w : World) :
    World.Outcome (Except TickError Summary) → Prop
  | unlisted {e : StoreError} (served : serve (.listSecrets r.source.selector) w = (.error e, w)) :
      Ticking r now w
        ⟨.error (.secrets e), w, [⟨w, .listSecrets r.source.selector, .error e⟩]⟩
  | undeclared {e : SourceError} {after : World} {steps : List World.Step}
      (asked : w.run r.source.declarations = ⟨.error e, after, steps⟩) :
      Ticking r now w ⟨.error (.declarations e), after,
        ⟨w, .listSecrets r.source.selector, .ok (w.secrets.filter r.source.selector.selects)⟩ ::
          steps⟩
  | carried {declarations : List Declaration} {before : World} {steps : List World.Step}
      {o : World.Outcome Summary}
      (asked : w.run r.source.declarations = ⟨.ok declarations, before, steps⟩)
      (ran : o = before.run (carryOut r (r.plan now w declarations))) :
      Ticking r now w ⟨.ok o.value, o.state,
        ⟨w, .listSecrets r.source.selector, .ok (w.secrets.filter r.source.selector.selects)⟩ ::
          (steps ++ o.steps)⟩

theorem run_tick (r : Reconciler) (now : Timestamp) (w : World) :
    Ticking r now w (w.run (r.tick now)) := by
  unfold Reconciler.tick
  rcases listSecrets_cases w r.source.selector with ⟨e, served⟩ | served
  · rw [run_bind_of_eq (run_request_of_eq served)]
    exact .unlisted served
  · rw [run_bind_of_eq (run_request_of_eq served)]
    rcases asked : w.run r.source.declarations with ⟨answer, before, steps⟩
    dsimp only
    rw [run_bind_of_eq asked]
    cases answer with
    | error e =>
      dsimp only
      rw [run_pure, Program.Outcome.after_mk, Program.Outcome.after_mk, List.append_nil]
      exact .undeclared asked
    | ok declarations =>
      have owned : (w.secrets.filter r.source.selector.selects).filter r.source.manages =
          w.secrets.filter r.source.owns := by
        rw [List.filter_filter]
        refine List.filter_congr fun s _ => ?_
        rw [Source.owns, Bool.and_comm]
      have ticking : Ticking r now w _ := .carried asked rfl
      dsimp only
      rw [owned, run_bind, run_pure, List.append_nil]
      exact ticking

variable {r : Reconciler} {now : Timestamp} {w before : World} {declarations : List Declaration}

/-- Managed secrets are ones of the store which the source owns. -/
theorem held_of_managed (keyed : Keyed w.secrets) {m : Drift.Managed}
    (member : m ∈ (r.plan now w declarations).managed) :
    m.secret ∈ w.secrets.filter r.source.owns :=
  (r.plan_fits now declarations keyed).secrets_perm.subset
    (List.mem_append_right _ (List.mem_map_of_mem member))

theorem paired_of_managed (keyed : Keyed w.secrets) (same : before.secrets = w.secrets)
    {m : Drift.Managed} (member : m ∈ (r.plan now w declarations).managed) :
    Paired (now.add? r.refreshLimit) m before := by
  obtain ⟨key, owned, drift⟩ := (r.plan_fits now declarations keyed).paired m member
  have held := List.mem_of_mem_filter (held_of_managed keyed member)
  have found := Declaration.matchesSecret_of_key (keyed.named _ held) key
  exact ⟨same ▸ held, found, owned, drift⟩

theorem feasible_plan (keyed : Keyed w.secrets) (same : before.secrets = w.secrets) :
    Feasible (now.add? r.refreshLimit) (r.plan now w declarations) before where
  named s member := by
    have listed := (r.plan_fits now declarations keyed).secrets_perm.subset
      (List.mem_append_left _ member)
    exact keyed.named s (List.mem_of_mem_filter listed)
  listed := ((r.plan_fits now declarations keyed).secrets_perm.map _).nodup_iff.mpr
    (keyed.filter _).distinct
  declared := (r.perm_declaredKeys now declarations keyed).nodup_iff.mpr
    (Drift.nodup_keys_counting declarations)
  paired m member := paired_of_managed keyed same member

/-- What is done once the declarations are known. -/
theorem carried_plan (plain : r.source.Plain) (keyed : Keyed w.secrets)
    (same : before.secrets = w.secrets) (undisturbed : before.Undisturbed) (now : Timestamp)
    (declarations : List Declaration) (past : List World.Step) :
    Carried r (now.add? r.refreshLimit) (r.plan now w declarations) before past
      (before.run (carryOut r (r.plan now w declarations))) :=
  carried plain past (same ▸ keyed) undisturbed (feasible_plan keyed same)

/-- Whatever comes of a tick, the store stays keyed. -/
theorem Ticking.keeps {o : World.Outcome (Except TickError Summary)} (ticking : Ticking r now w o)
    (plain : r.source.Plain) (keyed : Keyed w.secrets) (undisturbed : w.Undisturbed) :
    Keyed o.state.secrets ∧ o.state.Undisturbed := by
  cases ticking with
  | unlisted served => exact ⟨keyed, undisturbed⟩
  | undeclared asked =>
    obtain ⟨same, last, -⟩ := plain.run_declarations undisturbed
    rw [asked] at same last
    exact ⟨same ▸ keyed, last⟩
  | carried asked ran =>
    obtain ⟨same, last, -⟩ := plain.run_declarations undisturbed
    rw [asked] at same last
    rename_i found before steps inner
    subst ran
    have carried := carried_plan plain keyed same last now found []
    exact ⟨carried.keyed, carried.undisturbed⟩

/-- Where the secret of a declaration comes from, given the secrets listed before the tick and the
steps of the tick. -/
inductive Origin (naming : RoleNaming) (deadline : Option Timestamp) (d : Declaration)
    (listed : List Secret) (steps : List World.Step) : Secret → Prop
  | kept {s : Secret} (held : s ∈ listed) (healthy : Drift.classify d s deadline = .healthy) :
      Origin naming deadline d listed steps s
  | renewed {old : Secret} {c : Credentials} (held : old ∈ listed)
      (drifted : Drift.classify d old deadline ≠ .healthy) (issued : IssuedFor naming d c steps) :
      Origin naming deadline d listed steps (refreshed old d c)
  | created {c : Credentials} (issued : IssuedFor naming d c steps) :
      Origin naming deadline d listed steps (newSecret d c)

/-- Whether a secret is what a declaration asks for after a tick. -/
structure Supplied (r : Reconciler) (now : Timestamp) (w : World) (steps : List World.Step)
    (d : Declaration) (s : Secret) : Prop where
  found : d.matchesSecret s = true
  owned : r.source.owns s = true
  accepted : d.accepts s = true
  origin : Origin r.naming (now.add? r.refreshLimit) d (w.secrets.filter r.source.owns) steps s

/-- What is so after a tick that counts no failure. -/
structure Converged (r : Reconciler) (now : Timestamp) (w : World)
    (declarations : List Declaration) (o : World.Outcome (Except TickError Summary)) : Prop where
  keyed : Keyed o.state.secrets
  supplied : ∀ d ∈ Drift.counting declarations, ∃ s ∈ o.state.secrets, Supplied r now w o.steps d s
  declared : ∀ s ∈ o.state.secrets, r.source.owns s = true →
    s.key ∈ (Drift.counting declarations).map Declaration.key
  /-- What is not owned and not declared is left alone. -/
  frame : ∀ s, r.source.owns s = false →
    s.key ∉ (Drift.counting declarations).map Declaration.key → (s ∈ o.state.secrets ↔ s ∈ w.secrets)

/-- A managed secret that was looked after is what its declaration asks for. -/
theorem supplied_of_cared (plain : r.source.Plain) (keyed : Keyed w.secrets) {m : Drift.Managed}
    (member : m ∈ (r.plan now w declarations).managed) (takes : r.source.Takes m.declaration)
    {after : World} {steps : List World.Step} (cared : Cared r.naming m after steps) :
    ∃ s ∈ after.secrets, Supplied r now w steps m.declaration s := by
  have held := held_of_managed keyed member
  have owned := List.of_mem_filter held
  obtain ⟨-, accepted, drift⟩ := (r.plan_fits now declarations keyed).paired m member
  by_cases healthy : m.drift = .healthy
  · exact ⟨m.secret, cared.kept healthy, cared.found, owned, accepted,
      .kept held (drift.symm.trans healthy)⟩
  · obtain ⟨c, issued, written⟩ := cared.renewed healthy
    refine ⟨_, written, cared.found, plain.owns_refreshed takes owned c, accepted, ?_⟩
    exact .renewed held (drift ▸ healthy) issued

theorem supplied_of_created {d : Declaration} (takes : r.source.Takes d) {after : World}
    {steps : List World.Step}
    (created : ∃ c, IssuedFor r.naming d c steps ∧ newSecret d c ∈ after.secrets) :
    ∃ s ∈ after.secrets, Supplied r now w steps d s := by
  obtain ⟨c, issued, written⟩ := created
  exact ⟨_, written, matchesSecret_newSecret d c, takes c, accepts_newSecret d c, .created issued⟩

section Rest

variable {past : List World.Step} {o : World.Outcome Summary}
  (carried : Carried r (now.add? r.refreshLimit) (r.plan now w declarations) before past o)
  (keyed : Keyed w.secrets) {s : Secret}
  (undeclared : s.key ∉ (Drift.counting declarations).map Declaration.key)

include carried keyed undeclared

/-- A secret that is left under such a key has not the key of any that the source owned. -/
theorem Carried.apart_of_undeclared (noFailure : o.value.failed = 0)
    (left : s ∈ o.state.secrets) : ∀ t ∈ w.secrets.filter r.source.owns, t.key ≠ s.key := by
  intro t listed key
  have keys := r.perm_declaredKeys now declarations keyed
  have outside : t.key ∉ declaredKeys (r.plan now w declarations) :=
    fun inside => undeclared (key ▸ keys.subset inside)
  have split := (r.plan_fits now declarations keyed).secrets_perm.symm.subset listed
  rcases List.mem_append.mp split with orphan | managed
  · exact carried.deleted noFailure t orphan outside s left key.symm
  · obtain ⟨m, inPlan, rfl⟩ := List.mem_map.mp managed
    refine outside ?_
    rw [← ((r.plan_fits now declarations keyed).paired m inPlan).1]
    exact List.mem_map_of_mem (List.mem_append_left _ (List.mem_map_of_mem inPlan))

/-- Under a key that is not declared nothing else has changed. -/
theorem Carried.frame_of_undeclared (same : before.secrets = w.secrets)
    (apart : ∀ t ∈ w.secrets.filter r.source.owns, t.key ≠ s.key) :
    s ∈ o.state.secrets ↔ s ∈ w.secrets := by
  have keys := r.perm_declaredKeys now declarations keyed
  rw [← same]
  refine carried.frame s ?_
  rw [List.mem_append, not_or]
  refine ⟨fun inside => ?_, fun inside => undeclared (keys.subset inside)⟩
  obtain ⟨t, orphan, key⟩ := List.mem_map.mp inside
  refine apart t ?_ key
  exact (r.plan_fits now declarations keyed).secrets_perm.subset (List.mem_append_left _ orphan)

end Rest

theorem Ticking.converged {o : World.Outcome (Except TickError Summary)}
    (ticking : Ticking r now w o) (plain : r.source.Plain) (keyed : Keyed w.secrets)
    (undisturbed : w.Undisturbed) (told : (w.run r.source.declarations).value = .ok declarations)
    (taken : ∀ d ∈ Drift.counting declarations, r.source.Takes d) {summary : Summary}
    (finished : o.value = .ok summary) (noFailure : summary.failed = 0) :
    Converged r now w declarations o := by
  cases ticking with
  | unlisted served => cases finished
  | undeclared asked => cases finished
  | carried asked ran =>
    rename_i found before steps inner
    obtain ⟨same, last, -⟩ := plain.run_declarations undisturbed
    rw [asked] at same last told
    obtain rfl := Except.ok.inj told
    obtain rfl := Except.ok.inj finished
    subst ran
    have carried := carried_plan plain keyed same last now found
      (⟨w, .listSecrets r.source.selector, .ok (w.secrets.filter r.source.selector.selects)⟩ :: steps)
    refine ⟨carried.keyed, ?_, ?_, ?_⟩
    · intro d counts
      have planned := (r.plan_fits now _ keyed).declarations_perm.symm.subset counts
      rcases List.mem_append.mp planned with managed | missing
      · obtain ⟨m, member, rfl⟩ := List.mem_map.mp managed
        exact supplied_of_cared plain keyed member (taken _ counts) (carried.cared noFailure m member)
      · exact supplied_of_created (taken d counts) (carried.created noFailure d missing)
    · intro s left owned
      by_contra undeclared
      have apart := carried.apart_of_undeclared keyed undeclared noFailure left
      have held := (carried.frame_of_undeclared keyed undeclared same apart).mp left
      exact apart s (List.mem_filter.mpr ⟨held, owned⟩) rfl
    · intro s strange undeclared
      refine ⟨fun left => ?_, fun held => ?_⟩
      · have apart := carried.apart_of_undeclared keyed undeclared noFailure left
        exact (carried.frame_of_undeclared keyed undeclared same apart).mp left
      · refine (carried.frame_of_undeclared keyed undeclared same fun t listed key => ?_).mpr held
        have equal := keyed.eq_of_key (List.mem_of_mem_filter listed) held key
        rw [← equal, List.of_mem_filter listed] at strange
        cases strange

end Tick

end RoleSecrets
