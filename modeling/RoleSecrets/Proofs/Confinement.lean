import RoleSecrets.Proofs.Items
import RoleSecrets.Proofs.Quiescence

/-! # A tick writes only what it may

Every write of a tick is called for by the secrets it has listed and the declarations that count:
secrets that nothing declares are deleted, declared ones are given new credentials and are otherwise
left as they are, and where there is none for a declaration one is created. No fault changes that.
-/

namespace RoleSecrets

open World

namespace Tick

section May

variable {r : Reconciler} {item : Item}

theorem Item.May.of_delete {key : ObjectKey} (may : item.May r (.deleteSecret key)) :
    ∃ s, item = .orphan s ∧ s.IsNamed ∧ s.key = key := by
  cases may with
  | news of news =>
    obtain ⟨status, reports⟩ := news
    cases reports
  | obtain of obtains => cases obtains
  | delete named => exact ⟨_, rfl, named, rfl⟩

theorem Item.May.of_update {t : Secret} (may : item.May r (.updateSecret t)) :
    ∃ m c, item = .managed m ∧ t = refreshed m.secret m.declaration c := by
  cases may with
  | news of news =>
    obtain ⟨status, reports⟩ := news
    cases reports
  | obtain of obtains => cases obtains
  | update c => exact ⟨_, c, rfl, rfl⟩

theorem Item.May.of_create {t : Secret} (may : item.May r (.createSecret t)) :
    ∃ d c, item = .missing d ∧ t = newSecret d c := by
  cases may with
  | news of news =>
    obtain ⟨status, reports⟩ := news
    cases reports
  | obtain of obtains => cases obtains
  | create c => exact ⟨_, c, rfl, rfl⟩

end May

/-- Whether the secrets of a listing and the declarations that count call for a write. -/
def WriteDue (listed : List Secret) (counting : List Declaration) : Query → Prop
  | .deleteSecret key => ∃ s ∈ listed, s.IsNamed ∧ s.key = key ∧
      ∀ d ∈ counting, d.matchesSecret s = true → d.accepts s = false
  | .updateSecret t => ∃ s ∈ listed, ∃ d ∈ counting, d.matchesSecret s = true ∧
      d.accepts s = true ∧ ∃ c, t = { s with
        metadata := { s.metadata with labels := some d.labels }, data := some (d.secretData c) }
  | .createSecret t => ∃ d ∈ counting,
      (∀ s ∈ listed, d.matchesSecret s = true → d.accepts s = false) ∧ ∃ c, t = newSecret d c
  | _ => True

/-- Whether a question is asked on behalf of an item of the plan of a tick. -/
def OnBehalf (r : Reconciler) (now : Timestamp) (w : World) (question : Query) : Prop :=
  ∃ declarations, (w.run r.source.declarations).value = .ok declarations ∧
    ∃ item ∈ items (r.plan now w declarations), item.May r question

/-- The steps of a tick: it looks around, then it handles the orphans, and then all other items. -/
structure Ordered (r : Reconciler) (now : Timestamp) (w : World)
    (looks orphans others : List World.Step) : Prop where
  looks : ∀ step ∈ looks, step.question.isWrite = false
  orphans : ∀ step ∈ orphans, OnBehalf r now w step.question ∧ ∀ s, step.question ≠ .createSecret s
  others : ∀ step ∈ others, OnBehalf r now w step.question ∧
    ∀ key, step.question ≠ .deleteSecret key

theorem asks_loop {r : Reconciler} (plain : r.source.Plain) (items : List Item) (p : Progress) :
    (items.foldlM (Item.handle r) p).Asks fun question => ∃ item ∈ items, item.May r question :=
  Program.Asks.foldlM (fun item member p => (item.asks_handle plain p).mono
    fun _ may => ⟨item, member, may⟩) p

variable {r : Reconciler} {now : Timestamp} {w : World}

theorem Ticking.ordered {o : World.Outcome (Except TickError Summary)}
    (ticking : Ticking r now w o) (plain : r.source.Plain) :
    ∃ looks orphans others, o.steps = looks ++ (orphans ++ others) ∧
      Ordered r now w looks orphans others := by
  have lookups := asked_of_mem_run plain.declarations w
  -- the listing of the secrets and of the declarations are no writes
  have noWrites : ∀ {listing : World.Step} {steps : List World.Step},
      listing.question.isWrite = false → (∀ step ∈ steps, step.question.isLookup = true) →
        ∀ step ∈ listing :: steps, step.question.isWrite = false := by
    intro listing steps first lookups step member
    rcases List.mem_cons.mp member with rfl | later
    · exact first
    · exact Query.isWrite_of_isLookup (lookups step later)
  cases ticking with
  | unlisted served =>
    exact ⟨_, [], [], (List.append_nil _).symm, noWrites rfl (by simp), by simp, by simp⟩
  | undeclared asked =>
    rw [asked] at lookups
    exact ⟨_, [], [], (List.append_nil _).symm, noWrites rfl lookups, by simp, by simp⟩
  | carried asked ran =>
    rename_i declarations before steps o
    rw [asked] at lookups
    have told : (w.run r.source.declarations).value = .ok declarations := by rw [asked]
    set plan := r.plan now w declarations with planned
    have split : items plan =
        plan.orphans.map .orphan ++ (plan.managed.map .managed ++ plan.missing.map .missing) :=
      List.append_assoc ..
    rw [carryOut_eq, split, List.foldlM_append, run_bind, run_bind, run_pure, List.append_nil] at ran
    refine ⟨_, _, _, congrArg _ (congrArg _ (congrArg Program.Outcome.steps ran)),
      noWrites rfl lookups, fun step member => ?_, fun step member => ?_⟩
    · obtain ⟨item, inside, may⟩ := asked_of_mem_run (asks_loop plain _ _) _ step member
      refine ⟨⟨declarations, told, item, ?_, may⟩, fun s create => ?_⟩
      · exact split ▸ List.mem_append_left _ inside
      · obtain ⟨d, c, rfl, -⟩ := Item.May.of_create (create ▸ may)
        simp at inside
    · obtain ⟨item, inside, may⟩ := asked_of_mem_run (asks_loop plain _ _) _ step member
      refine ⟨⟨declarations, told, item, ?_, may⟩, fun key delete => ?_⟩
      · exact split ▸ List.mem_append_right _ inside
      · obtain ⟨s, rfl, -⟩ := Item.May.of_delete (delete ▸ may)
        simp at inside

/-- Each write on behalf of an item of the plan is called for. -/
theorem writeDue_of_may {declarations : List Declaration} (keyed : Keyed w.secrets) {item : Item}
    (planned : item ∈ items (r.plan now w declarations)) {question : Query}
    (may : item.May r question) :
    WriteDue (w.secrets.filter r.source.owns) (Drift.counting declarations) question := by
  have fits := r.plan_fits now declarations keyed
  cases question with
  | deleteSecret key =>
    obtain ⟨s, rfl, named, key⟩ := may.of_delete
    have orphan : s ∈ (r.plan now w declarations).orphans := by simpa [items] using planned
    refine ⟨s, fits.secrets_perm.subset (List.mem_append_left _ orphan), named, key, ?_⟩
    intro d counts found
    exact fits.orphaned s orphan d counts (Declaration.key_of_matchesSecret found).symm
  | updateSecret t =>
    obtain ⟨m, c, rfl, rfl⟩ := may.of_update
    have managed : m ∈ (r.plan now w declarations).managed := by simpa [items] using planned
    have listed := held_of_managed keyed managed
    obtain ⟨key, accepted, -⟩ := fits.paired m managed
    refine ⟨m.secret, listed, m.declaration, ?_, ?_, accepted, c, rfl⟩
    · exact fits.declarations_perm.subset (List.mem_append_left _ (List.mem_map_of_mem managed))
    · exact Declaration.matchesSecret_of_key (keyed.named _ (List.mem_of_mem_filter listed)) key
  | createSecret t =>
    obtain ⟨d, c, rfl, rfl⟩ := may.of_create
    have missing : d ∈ (r.plan now w declarations).missing := by simpa [items] using planned
    refine ⟨d, fits.declarations_perm.subset (List.mem_append_right _ missing), ?_, c, rfl⟩
    intro s listed found
    exact fits.refused_of_missing (Drift.nodup_keys_counting declarations) missing s listed
      (Declaration.key_of_matchesSecret found).symm
  | _ => trivial

section Ordered

variable {looks orphans others : List World.Step}

theorem Ordered.onBehalf (ordered : Ordered r now w looks orphans others) :
    ∀ step ∈ looks ++ (orphans ++ others), step.question.isWrite = true →
      OnBehalf r now w step.question := by
  intro step member writes
  rcases List.mem_append.mp member with look | handled
  · rw [ordered.looks step look] at writes
    cases writes
  · rcases List.mem_append.mp handled with orphan | other
    · exact (ordered.orphans step orphan).1
    · exact (ordered.others step other).1

/-- Nothing is deleted after something has been created. -/
theorem Ordered.pairwise (ordered : Ordered r now w looks orphans others) :
    (looks ++ (orphans ++ others)).Pairwise fun first second => ∀ t key,
      first.question = .createSecret t → second.question ≠ .deleteSecret key := by
  have noCreate : ∀ step ∈ looks ++ orphans, ∀ t, step.question ≠ .createSecret t := by
    intro step member t create
    rcases List.mem_append.mp member with look | orphan
    · have noWrite := ordered.looks step look
      rw [create] at noWrite
      cases noWrite
    · exact (ordered.orphans step orphan).2 t create
  rw [← List.append_assoc]
  refine List.pairwise_append.mpr ⟨?_, ?_, ?_⟩
  · exact List.pairwise_of_forall_mem_list fun first member _ _ t _ create =>
      absurd create (noCreate first member t)
  · exact List.pairwise_of_forall_mem_list fun _ _ second member _ key _ =>
      (ordered.others second member).2 key
  · exact fun first member _ _ t _ create => absurd create (noCreate first member t)

end Ordered

theorem OnBehalf.writeDue {question : Query} (asked : OnBehalf r now w question)
    (keyed : Keyed w.secrets) :
    ∃ declarations, (w.run r.source.declarations).value = .ok declarations ∧
      WriteDue (w.secrets.filter r.source.owns) (Drift.counting declarations) question := by
  obtain ⟨declarations, told, item, planned, may⟩ := asked
  exact ⟨declarations, told, writeDue_of_may keyed planned may⟩

/-- The secrets that are deleted and those that are updated have different keys. -/
theorem OnBehalf.key_ne {key : ObjectKey} {t : Secret} (deleted : OnBehalf r now w (.deleteSecret key))
    (updated : OnBehalf r now w (.updateSecret t)) (keyed : Keyed w.secrets) : t.key ≠ key := by
  obtain ⟨declarations, told, item, planned, may⟩ := deleted
  obtain ⟨declarations', told', item', planned', may'⟩ := updated
  obtain rfl := Except.ok.inj (told.symm.trans told')
  obtain ⟨s, rfl, -, rfl⟩ := may.of_delete
  obtain ⟨m, c, rfl, rfl⟩ := may'.of_update
  have orphan : s ∈ (r.plan now w declarations).orphans := by simpa [items] using planned
  have managed : m ∈ (r.plan now w declarations).managed := by simpa [items] using planned'
  have feasible : Feasible _ (r.plan now w declarations) w := feasible_plan keyed rfl
  have apart := feasible.nodup_listed.2.2 s orphan m managed
  rw [((r.plan_fits now declarations keyed).paired m managed).1] at apart
  exact Ne.symm apart

def LeavesAlone (key : ObjectKey) (steps : List World.Step) : Prop :=
  ∀ step ∈ steps, step.question ≠ .deleteSecret key ∧
    ∀ t, step.question = .updateSecret t → t.key ≠ key

/-- A secret that the source does not own is neither deleted nor updated. -/
theorem leavesAlone {steps : List World.Step} (keyed : Keyed w.secrets)
    (asked : ∀ step ∈ steps, step.question.isWrite = true → OnBehalf r now w step.question)
    {s : Secret} (held : s ∈ w.secrets) (strange : r.source.owns s = false) :
    LeavesAlone s.key steps := by
  have notListed : ∀ t ∈ w.secrets.filter r.source.owns, t.key ≠ s.key := by
    intro t listed same
    obtain rfl := keyed.eq_of_key (List.mem_of_mem_filter listed) held same
    rw [List.of_mem_filter listed] at strange
    cases strange
  refine fun step member => ⟨fun delete => ?_, fun t update same => ?_⟩
  · obtain ⟨-, -, t, listed, -, key, -⟩ :=
      (delete ▸ asked step member (by rw [delete]; rfl)).writeDue keyed
    exact notListed t listed key
  · obtain ⟨_, -, old, listed, d, -, -, -, c, rfl⟩ :=
      (update ▸ asked step member (by rw [update]; rfl)).writeDue keyed
    exact notListed old listed same

/-- The secrets that a tick creates are owned by its source, if that takes what it declares. -/
theorem OnBehalf.owns {t : Secret} (created : OnBehalf r now w (.createSecret t))
    (keyed : Keyed w.secrets) (takes : ∀ declarations,
      (w.run r.source.declarations).value = .ok declarations → ∀ d ∈ declarations, r.source.Takes d) :
    r.source.owns t = true := by
  obtain ⟨declarations, told, d, counts, -, c, rfl⟩ := created.writeDue keyed
  exact takes declarations told d (Drift.mem_of_mem_counting counts) c

end Tick

open Tick

/-- A tick deletes, updates and creates what the listed secrets and the counting declarations call
for, whatever fails. No secret is both deleted and updated, and what is created comes last. So
secrets with an owner are safe from the source of pods, and secrets without both its labels from that
of resources; either owns what it creates. -/
theorem Reconciler.writes_confined (r : Reconciler) (plain : r.source.Plain) (now : Timestamp)
    (w : World) (keyed : Keyed w.secrets) :
    (∀ step ∈ (w.run (r.tick now)).steps, step.question.isWrite = true →
      ∃ declarations, (w.run r.source.declarations).value = .ok declarations ∧
        WriteDue (w.secrets.filter r.source.owns) (Drift.counting declarations) step.question) ∧
    (∀ step ∈ (w.run (r.tick now)).steps, ∀ other ∈ (w.run (r.tick now)).steps, ∀ key t,
      step.question = .deleteSecret key → other.question = .updateSecret t → t.key ≠ key) ∧
    (w.run (r.tick now)).steps.Pairwise (fun first second => ∀ t key,
      first.question = .createSecret t → second.question ≠ .deleteSecret key) ∧
    (r.source = .ofPods → ∀ s ∈ w.secrets, s.metadata.hasOwner = true →
      LeavesAlone s.key (w.run (r.tick now)).steps) ∧
    (∀ ns, r.source = .ofResources ns → ∀ s ∈ w.secrets,
      (∃ label ∈ [RoleResource.heritage, RoleResource.secretType],
        s.metadata.label? label.1 ≠ some label.2) →
      LeavesAlone s.key (w.run (r.tick now)).steps) ∧
    ((r.source = .ofPods ∨ ∃ ns, r.source = .ofResources ns) →
      ∀ step ∈ (w.run (r.tick now)).steps, ∀ t, step.question = .createSecret t →
        r.source.owns t = true) := by
  obtain ⟨looks, orphans, others, steps, ordered⟩ := (run_tick r now w).ordered plain
  rw [steps]
  have asked := ordered.onBehalf
  refine ⟨fun step member writes => (asked step member writes).writeDue keyed, ?_,
    ordered.pairwise, ?_, ?_, ?_⟩
  · intro step member other member' key t delete update
    exact OnBehalf.key_ne (delete ▸ asked step member (by rw [delete]; rfl))
      (update ▸ asked other member' (by rw [update]; rfl)) keyed
  · intro pods s held owned
    refine leavesAlone keyed asked held ?_
    simp [pods, Source.owns, Source.ofPods, owned]
  · rintro ns resources s held ⟨label, needed, differs⟩
    refine leavesAlone keyed asked held ?_
    rw [resources, Source.owns, Bool.and_eq_false_iff]
    refine .inl (Bool.eq_false_iff.mpr fun selected => differs ?_)
    exact of_decide_eq_true (List.all_eq_true.mp selected label needed)
  · intro source step member t create
    refine OnBehalf.owns (create ▸ asked step member (by rw [create]; rfl)) keyed ?_
    intro declarations told
    rcases source with pods | ⟨ns, resources⟩
    · rw [pods] at told ⊢
      exact Source.takes_ofPods told
    · rw [resources] at told ⊢
      exact Source.takes_ofResources told

theorem Reconciler.writes_confined_sample :
    (World.sample.run (resourceSample.tick .epoch)).steps.any (·.question.isWrite) = true ∧
      (∀ step ∈ (World.sample.run (resourceSample.tick .epoch)).steps,
        step.question.isWrite = true → ∃ declarations,
          WriteDue (World.sample.secrets.filter resourceSample.source.owns)
            (Drift.counting declarations) step.question) ∧
      LeavesAlone ⟨"apps", "other"⟩ (World.sample.run (resourceSample.tick .epoch)).steps := by
  obtain ⟨due, -, -, -, labelled, -⟩ := Reconciler.writes_confined resourceSample
    (Source.plain_ofResources none) .epoch .sample World.keyed_sample
  refine ⟨by decide +kernel, fun step member writes => ?_, ?_⟩
  · obtain ⟨declarations, -, called⟩ := due step member writes
    exact ⟨declarations, called⟩
  · exact labelled none rfl { metadata := { name := some "other", ns := some "apps" } }
      (by simp [World.sample]) ⟨RoleResource.heritage, by simp, by decide⟩

end RoleSecrets
