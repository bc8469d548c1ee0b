import Mathlib.Data.Set.Insert
import RoleSecrets.Proofs.SharedListing
import RoleSecrets.Proofs.TextOrder

/-! # What a registry stands for

A registry stands for the set of uses that its changes come to when they are made to a plain set:
all that it tells can be told from that set. So where several writers have nothing to do with each
other's uses, it stands for what each of them has come to alone, however their steps follow one
another.
-/

namespace RoleSecrets

open Std

/-- Whether a change can put in or take out a use. -/
def RegistryChange.Touches (c : Consumer) : RegistryChange → Prop
  | .add consumer | .remove consumer => consumer = c
  | .replace _ => True

def RegistryStep.Touches (c : Consumer) : RegistryStep → Prop
  | .add consumer | .remove consumer => consumer = c
  | .swap _ => True
  | .markSynced => False

theorem RegistryChange.touches_of_mem_steps {change : RegistryChange} {step : RegistryStep}
    (member : step ∈ change.steps) {c : Consumer} (touches : step.Touches c) :
    change.Touches c := by
  cases change with
  | add _ | remove _ =>
    rw [List.mem_singleton.mp member] at touches
    exact touches
  | replace _ => trivial

namespace Registry

/-- The uses there are after a change. -/
def usesAfter (uses : Set Consumer) : RegistryChange → Set Consumer
  | .add c => insert c uses
  | .remove c => uses \ {c}
  | .replace consumers => {c | c ∈ consumers}

/-- Whether one use of a role comes before another: by the bytes of the role, then of the
namespace. -/
def Before (first second : String × String) : Prop :=
  Text.bytes first.1 < Text.bytes second.1 ∨
    first.1 = second.1 ∧ Text.bytes first.2 < Text.bytes second.2

/-- Whether all that a registry keeps and tells is what is known from a set of uses. -/
structure StandsFor (r : Registry) (held : Set Consumer) : Prop where
  /-- No role is kept without namespaces. -/
  namespaces : ∀ (role : String) (namespaces : Namespaces), r.roles[role]? = some namespaces →
    namespaces.isEmpty = false
  /-- No namespace is kept without names. -/
  names : ∀ (role ns : String) (namespaces : Namespaces) (names : TreeSet String),
    r.roles[role]? = some namespaces → namespaces[ns]? = some names → names.isEmpty = false
  stored : ∀ (role ns name : String), (∃ (namespaces : Namespaces) (names : TreeSet String),
    r.roles[role]? = some namespaces ∧ namespaces[ns]? = some names ∧ name ∈ names) ↔
      ⟨role, ns, name⟩ ∈ held
  uses : ∀ role ns, r.uses role ns = true ↔ ∃ name, ⟨role, ns, name⟩ ∈ held
  isEmpty : r.isEmpty = true ↔ held = ∅
  mem_snapshot : ∀ role ns, (role, ns) ∈ r.snapshot ↔ ∃ name, ⟨role, ns, name⟩ ∈ held
  snapshot_sorted : r.snapshot.Pairwise Before

variable {r : Registry} {c : Consumer}

theorem mem_iff_stored {role ns name : String} : (⟨role, ns, name⟩ : Consumer) ∈ r ↔
    ∃ (namespaces : Namespaces) (names : TreeSet String), r.roles[role]? = some namespaces ∧
      namespaces[ns]? = some names ∧ name ∈ names := by
  change name ∈ (r.roles.getD role ∅).getD ns ∅ ↔ _
  rw [TreeMap.getD_eq_getD_getElem?, TreeMap.getD_eq_getD_getElem?]
  cases r.roles[role]? with
  | none => simp
  | some namespaces => cases found : namespaces[ns]? <;> simp [found]

theorem uses_iff {role ns : String} : r.uses role ns = true ↔ ns ∈ r.roles.getD role ∅ := by
  rw [uses, TreeMap.getD_eq_getD_getElem?]
  cases r.roles[role]? <;> simp

/-- Roles are told in the order of their bytes, and so are the namespaces of each. -/
theorem sorted_snapshot (r : Registry) : r.snapshot.Pairwise Before := by
  have less : ∀ {a b : String}, compare a b = .lt → Text.bytes a < Text.bytes b := fun before =>
    Text.bytes_lt_bytes (compareOfLessAndEq_eq_lt.mp before)
  refine List.pairwise_flatMap.mpr ⟨fun entry _ => ?_, ?_⟩
  · exact List.pairwise_map.mpr (TreeMap.ordered_keys.imp fun before => .inr ⟨rfl, less before⟩)
  · refine TreeMap.ordered_keys_toList.imp fun {first second} before => ?_
    intro pair here pair' there
    obtain ⟨_, -, rfl⟩ := List.mem_map.mp here
    obtain ⟨_, -, rfl⟩ := List.mem_map.mp there
    exact .inl (less before)

/-- A registry without empty branches stands for the uses that it holds. -/
theorem Tight.standsFor (tight : r.Tight) : r.StandsFor {c | c ∈ r} where
  namespaces role namespaces kept := by
    obtain ⟨ns, member⟩ := tight.used role (TreeMap.mem_iff_isSome_getElem?.mpr (by rw [kept]; rfl))
    rw [TreeMap.getD_eq_getD_getElem?, kept] at member
    exact TreeMap.isEmpty_eq_false_iff_exists_mem.mpr ⟨ns, member⟩
  names role ns namespaces names kept found := by
    have branch : r.roles.getD role ∅ = namespaces := by
      rw [TreeMap.getD_eq_getD_getElem?, kept]
      rfl
    have inside : ns ∈ namespaces := TreeMap.mem_iff_isSome_getElem?.mpr (by rw [found]; rfl)
    obtain ⟨name, holds⟩ := tight.namespaces role ns (branch ▸ inside)
    rw [branch, Namespaces.Holds, TreeMap.getD_eq_getD_getElem?, found] at holds
    exact TreeSet.isEmpty_eq_false_iff_exists_mem.mpr ⟨name, holds⟩
  stored role ns name := mem_iff_stored.symm
  uses role ns := by
    rw [uses_iff]
    refine ⟨tight.namespaces role ns, ?_⟩
    rintro ⟨_, holds⟩
    exact Namespaces.mem_of_holds holds
  isEmpty := by
    rw [Registry.isEmpty, TreeMap.isEmpty_iff_forall_not_mem, Set.eq_empty_iff_forall_notMem]
    refine ⟨fun empty c holds => ?_, fun none role member => ?_⟩
    · obtain ⟨_, _, kept, -⟩ := mem_iff_stored.mp holds
      exact empty c.role (TreeMap.mem_iff_isSome_getElem?.mpr (by rw [kept]; rfl))
    · obtain ⟨ns, inside⟩ := tight.used role member
      obtain ⟨name, holds⟩ := tight.namespaces role ns inside
      exact none ⟨role, ns, name⟩ holds
  mem_snapshot role ns := tight.mem_snapshot
  snapshot_sorted := r.sorted_snapshot

theorem Before.asymm {first second : String × String} (before : Before first second) :
    ¬ Before second first := by
  rcases before with role | ⟨same, ns⟩ <;> rintro (role' | ⟨same', ns'⟩)
  · exact List.lt_asymm role role'
  · exact List.lt_irrefl _ (same' ▸ role)
  · exact List.lt_irrefl _ (same ▸ role')
  · exact List.lt_asymm ns ns'

/-- What is told of two registries that stand for one set of uses is the same. -/
theorem StandsFor.snapshot_eq {r' : Registry} {held : Set Consumer} (one : r.StandsFor held)
    (other : r'.StandsFor held) : r.snapshot = r'.snapshot := by
  have same : ∀ pair, pair ∈ r.snapshot ↔ pair ∈ r'.snapshot := fun (role, ns) =>
    (one.mem_snapshot role ns).trans (other.mem_snapshot role ns).symm
  refine List.Perm.eq_of_pairwise (fun _ _ _ _ before after => absurd after before.asymm)
    one.snapshot_sorted other.snapshot_sorted ?_
  exact (List.perm_ext_iff_of_nodup r.nodup_snapshot r'.nodup_snapshot).mpr same

section Changes

theorem mem_apply (change : RegistryChange) :
    c ∈ r.apply change ↔ c ∈ usesAfter {c | c ∈ r} change := by
  cases change with
  | add added => exact mem_add.trans (or_congr_left eq_comm)
  | remove removed => exact mem_remove.trans (and_comm.trans (and_congr_right' ne_comm))
  | replace consumers => exact mem_replace

theorem mem_foldl_apply (changes : List RegistryChange) :
    c ∈ changes.foldl Registry.apply r ↔ c ∈ changes.foldl usesAfter {c | c ∈ r} := by
  induction changes generalizing r with
  | nil => rfl
  | cons change changes ih =>
    have same : {c | c ∈ r.apply change} = usesAfter {c | c ∈ r} change :=
      Set.ext fun _ => mem_apply change
    rw [List.foldl_cons, List.foldl_cons, ih, same]

theorem uses_empty : {c | c ∈ ({} : Registry)} = ∅ :=
  Set.eq_empty_iff_forall_notMem.mpr fun _ => not_mem_empty

theorem not_mem_usesAfter {changes : List RegistryChange}
    (apart : ∀ change ∈ changes, ¬ change.Touches c) {held : Set Consumer} (absent : c ∉ held) :
    c ∉ changes.foldl usesAfter held := by
  induction changes generalizing held with
  | nil => exact absent
  | cons change changes ih =>
    have here := apart change (List.mem_cons_self ..)
    refine ih (fun other member => apart other (List.mem_cons_of_mem _ member)) ?_
    cases change with
    | add added => exact fun inside => inside.elim (fun same => here same.symm) absent
    | remove removed => exact fun inside => absent inside.1
    | replace consumers => exact absurd trivial here

theorem foldl_steps (changes : List RegistryChange) (r : Registry) :
    (changes.flatMap RegistryChange.steps).foldl applyStep r = changes.foldl apply r := by
  induction changes generalizing r with
  | nil => rfl
  | cons change changes ih =>
    rw [List.flatMap_cons, List.foldl_append, RegistryChange.foldl_steps, ih]
    rfl

theorem synced_applyStep (step : RegistryStep) :
    (r.applyStep step).synced = (r.synced || step = .markSynced) := by
  cases step <;> simp [applyStep, add, remove, swap, markSynced]

theorem synced_foldl_applyStep (steps : List RegistryStep) :
    (steps.foldl applyStep r).synced = true ↔ r.synced = true ∨ .markSynced ∈ steps := by
  induction steps generalizing r with
  | nil => exact (or_iff_left List.not_mem_nil).symm
  | cons step steps ih =>
    rw [List.foldl_cons, ih, synced_applyStep, Bool.or_eq_true, decide_eq_true_eq, or_assoc,
      List.mem_cons, eq_comm (a := step)]

theorem Tight.foldl_apply (tight : r.Tight) (changes : List RegistryChange) :
    (changes.foldl Registry.apply r).Tight := by
  induction changes generalizing r with
  | nil => exact tight
  | cons change changes ih => exact ih (tight.apply change)

theorem mem_applyStep_congr {r' : Registry} (step : RegistryStep) (same : c ∈ r ↔ c ∈ r') :
    c ∈ r.applyStep step ↔ c ∈ r'.applyStep step := by
  cases step with
  | add added => exact mem_add.trans ((or_congr_right same).trans mem_add.symm)
  | remove removed => exact mem_remove.trans ((and_congr_right' same).trans mem_remove.symm)
  | swap consumers => exact (mem_replace (r := r)).trans (mem_replace (r := r')).symm
  | markSynced => exact same

theorem mem_foldl_applyStep_congr {r' : Registry} (steps : List RegistryStep)
    (same : c ∈ r ↔ c ∈ r') :
    c ∈ steps.foldl applyStep r ↔ c ∈ steps.foldl applyStep r' := by
  induction steps generalizing r r' with
  | nil => exact same
  | cons step steps ih => exact ih (mem_applyStep_congr step same)

theorem mem_applyStep_of_not_touches {step : RegistryStep} (apart : ¬ step.Touches c) :
    c ∈ r.applyStep step ↔ c ∈ r := by
  cases step with
  | add added => exact mem_add.trans (or_iff_right apart)
  | remove removed => exact mem_remove.trans (and_iff_right apart)
  | swap consumers => exact absurd trivial apart
  | markSynced => rfl

end Changes

end Registry

namespace SharedRegistry

variable {ι : Type} [DecidableEq ι] {start : SharedRegistry ι}

/-- What every step of any writer keeps, told by what the writers have left and by the registry,
holds after all turns. -/
theorem writers_keep {I : (ι → List RegistryStep) → Registry → Prop}
    (keeps : ∀ left r turn step later, left turn = step :: later → I left r →
      I (Function.update left turn later) (r.applyStep step))
    {left : ι → List RegistryStep} (writing : ∀ i, start.parties i = .writer (left i))
    (holds : I left start.world.registry) (schedule : List ι) :
    ∃ left, (∀ i, (start.after schedule).parties i = .writer (left i)) ∧
      I left (start.after schedule).world.registry := by
  induction schedule using List.reverseRecOn with
  | nil => exact ⟨left, writing, holds⟩
  | append_singleton earlier turn ih =>
    obtain ⟨left, writing, holds⟩ := ih
    rw [after_concat]
    cases next : left turn with
    | nil =>
      rw [advance_written ((writing turn).trans (congrArg _ next))]
      exact ⟨left, writing, holds⟩
    | cons step later =>
      rw [advance_writer ((writing turn).trans (congrArg _ next))]
      refine ⟨Function.update left turn later, fun i => ?_, keeps left _ turn step later next holds⟩
      by_cases same : i = turn
      · subst same
        simp only [Function.update_self]
      · simp only [Function.update_of_ne same, writing]

/-- What a use comes to whose owner is the only one with something left to do that touches it: it is
then kept or not, as the owner makes it. -/
structure Owned (c : Consumer) (owner : Option ι) (kept : Prop) (left : ι → List RegistryStep)
    (r : Registry) : Prop where
  apart : ∀ i, owner ≠ some i → ∀ step ∈ left i, ¬ step.Touches c
  comes : c ∈ (owner.elim [] left).foldl Registry.applyStep r ↔ kept

theorem Owned.step {c : Consumer} {owner : Option ι} {kept : Prop} {left : ι → List RegistryStep}
    {r : Registry} (owned : Owned c owner kept left r) {turn : ι} {step : RegistryStep}
    {later : List RegistryStep} (next : left turn = step :: later) :
    Owned c owner kept (Function.update left turn later) (r.applyStep step) where
  apart i other step' member := by
    by_cases here : i = turn
    · subst here
      rw [Function.update_self] at member
      exact owned.apart i other step' (next ▸ List.mem_cons_of_mem _ member)
    · rw [Function.update_of_ne here] at member
      exact owned.apart i other step' member
  comes := by
    rw [← owned.comes]
    by_cases own : owner = some turn
    · subst own
      simp only [Option.elim_some, Function.update_self, next, List.foldl_cons]
    · have same : owner.elim [] (Function.update left turn later) = owner.elim [] left := by
        cases owner with
        | none => rfl
        | some i => exact Function.update_of_ne (fun here => own (congrArg some here)) ..
      rw [same]
      refine Registry.mem_foldl_applyStep_congr _ (Registry.mem_applyStep_of_not_touches ?_)
      exact owned.apart turn own step (next ▸ List.mem_cons_self ..)

variable {writers : ι → List RegistryChange} {c : Consumer}

/-- A use is kept or not as its owner leaves it, if it has one. -/
theorem mem_of_owner (writing : ∀ i, start.parties i = .writing (writers i)) (owner : Option ι)
    (others : ∀ i, owner ≠ some i → ∀ change ∈ writers i, ¬ change.Touches c) {schedule : List ι}
    (finished : ∀ i, (start.after schedule).parties i = .writer []) :
    c ∈ (start.after schedule).world.registry ↔
      c ∈ (owner.elim [] writers).foldl Registry.apply start.world.registry := by
  have owned : Owned c owner (c ∈ (owner.elim [] writers).foldl Registry.apply start.world.registry)
      (fun i => (writers i).flatMap RegistryChange.steps) start.world.registry := by
    refine ⟨fun i other step member touches => ?_, ?_⟩
    · obtain ⟨change, inside, own⟩ := List.mem_flatMap.mp member
      exact others i other change inside (RegistryChange.touches_of_mem_steps own touches)
    · cases owner with
      | none => rfl
      | some i => rw [Option.elim_some, Registry.foldl_steps, Option.elim_some]
  obtain ⟨left, parties, last⟩ :=
    writers_keep (fun _ _ _ _ _ next owned => owned.step next) writing owned schedule
  have nothing : ∀ i, left i = [] := fun i => Party.writer.inj ((parties i).symm.trans (finished i))
  rw [← last.comes]
  cases owner with
  | none => rfl
  | some i => rw [Option.elim_some, nothing, List.foldl_nil]

/-- Whether the flag is set, or some writer is still to set it. -/
def Marked (left : ι → List RegistryStep) (r : Registry) : Prop :=
  r.synced = true ∨ ∃ i, .markSynced ∈ left i

theorem marked_step {left : ι → List RegistryStep} {r : Registry} {turn : ι} {step : RegistryStep}
    {later : List RegistryStep} (next : left turn = step :: later) :
    Marked (Function.update left turn later) (r.applyStep step) ↔ Marked left r := by
  have synced := Registry.synced_applyStep (r := r) step
  constructor
  · rintro (set | ⟨i, marks⟩)
    · rw [synced, Bool.or_eq_true, decide_eq_true_eq] at set
      exact set.imp_right fun here => ⟨turn, by rw [next, here]; exact List.mem_cons_self ..⟩
    · by_cases here : i = turn
      · subst here
        rw [Function.update_self] at marks
        exact .inr ⟨i, next ▸ List.mem_cons_of_mem _ marks⟩
      · rw [Function.update_of_ne here] at marks
        exact .inr ⟨i, marks⟩
  · rintro (set | ⟨i, marks⟩)
    · exact .inl (by rw [synced, set, Bool.true_or])
    · by_cases here : i = turn
      · subst here
        rw [next] at marks
        rcases List.mem_cons.mp marks with same | later
        · exact .inl (by rw [synced, ← same, decide_eq_true rfl, Bool.or_true])
        · exact .inr ⟨i, by rwa [Function.update_self]⟩
      · exact .inr ⟨i, by rwa [Function.update_of_ne here]⟩

theorem markSynced_mem_steps (changes : List RegistryChange) :
    .markSynced ∈ changes.flatMap RegistryChange.steps ↔
      ∃ consumers, .replace consumers ∈ changes := by
  rw [List.mem_flatMap]
  constructor
  · rintro ⟨change, member, marks⟩
    cases change with
    | replace consumers => exact ⟨consumers, member⟩
    | _ => simp [RegistryChange.steps] at marks
  · rintro ⟨consumers, member⟩
    exact ⟨_, member, by simp [RegistryChange.steps]⟩

/-- The flag is set in the end if some writer took over a listing, or it was set before. -/
theorem synced_of_finished (writing : ∀ i, start.parties i = .writing (writers i))
    {schedule : List ι} (finished : ∀ i, (start.after schedule).parties i = .writer []) :
    (start.after schedule).world.registry.synced = true ↔
      start.world.registry.synced = true ∨ ∃ i consumers, .replace consumers ∈ writers i := by
  obtain ⟨left, parties, last⟩ := writers_keep
    (I := fun left r => Marked left r ↔
      Marked (fun i => (writers i).flatMap RegistryChange.steps) start.world.registry)
    (fun _ _ _ _ _ next same => (marked_step next).trans same) writing .rfl schedule
  have nothing : ∀ i, left i = [] := fun i => Party.writer.inj ((parties i).symm.trans (finished i))
  simpa only [Marked, nothing, List.not_mem_nil, exists_false, or_false, markSynced_mem_steps]
    using last

end SharedRegistry

/-- Whether no use is touched by two writers. -/
def SharedRegistry.Apart {ι : Type} (writers : ι → List RegistryChange) : Prop :=
  ∀ c i j, (∃ change ∈ writers i, change.Touches c) → (∃ change ∈ writers j, change.Touches c) →
    i = j

namespace SharedRegistry

variable {ι : Type} [DecidableEq ι] {start : SharedRegistry ι} {writers : ι → List RegistryChange}

/-- Writers that are apart leave together what each of them leaves alone. -/
theorem uses_of_finished (writing : ∀ i, start.parties i = .writing (writers i))
    (empty : start.world.registry = {}) (apart : Apart writers) {schedule : List ι}
    (finished : ∀ i, (start.after schedule).parties i = .writer []) :
    {c | c ∈ (start.after schedule).world.registry} =
      {c | ∃ i, c ∈ (writers i).foldl Registry.usesAfter ∅} := by
  refine Set.ext fun c => ?_
  have untouched : ∀ i, (¬ ∃ change ∈ writers i, change.Touches c) →
      c ∉ (writers i).foldl Registry.usesAfter ∅ := fun i none =>
    Registry.not_mem_usesAfter (fun change member touches => none ⟨change, member, touches⟩) id
  have left := fun owner others =>
    mem_of_owner (c := c) writing owner others finished
  simp only [empty, Registry.mem_foldl_apply, Registry.uses_empty] at left
  by_cases touched : ∃ i, ∃ change ∈ writers i, change.Touches c
  · obtain ⟨i, own⟩ := touched
    have others : ∀ j, some i ≠ some j → ¬ ∃ change ∈ writers j, change.Touches c :=
      fun j other here => other (congrArg some (apart c i j own here))
    refine (left (some i) fun j other change member touches =>
      others j other ⟨change, member, touches⟩).trans ⟨fun kept => ⟨i, kept⟩, ?_⟩
    rintro ⟨j, kept⟩
    by_cases same : i = j
    · exact same ▸ kept
    · exact absurd kept (untouched j (others j fun equal => same (Option.some.inj equal)))
  · refine iff_of_false ?_ fun ⟨i, kept⟩ => untouched i (fun here => touched ⟨i, here⟩) kept
    exact mt (left none fun i _ change member touches => touched ⟨i, change, member, touches⟩).mp id

end SharedRegistry

/-- Whatever changes are made to a new registry, it stands for the uses that they come to as changes
of a plain set, and it is synced once it has taken over a listing. When several writers of which no
two touch the same use have made all their steps, in whatever order, it stands for the uses that each
of them comes to alone; so what is kept and told in the end does not depend on that order. -/
theorem Registry.stands_for_uses (changes : List RegistryChange) :
    (changes.foldl Registry.apply {}).StandsFor (changes.foldl Registry.usesAfter ∅) ∧
    ((changes.foldl Registry.apply {}).synced = true ↔
      ∃ consumers, .replace consumers ∈ changes) ∧
    ∀ {ι : Type} [DecidableEq ι] (writers : ι → List RegistryChange)
      (start : SharedRegistry ι), SharedRegistry.Apart writers →
      (∀ i, start.parties i = .writing (writers i)) → start.world.registry = {} →
      ∀ schedule, (∀ i, (start.after schedule).parties i = .writer []) →
        (start.after schedule).world.registry.StandsFor
          {c | ∃ i, c ∈ (writers i).foldl Registry.usesAfter ∅} ∧
        ((start.after schedule).world.registry.synced = true ↔
          ∃ i consumers, .replace consumers ∈ writers i) ∧
        ∀ schedule', (∀ i, (start.after schedule').parties i = .writer []) →
          (start.after schedule').world.registry.snapshot =
            (start.after schedule).world.registry.snapshot := by
  refine ⟨?_, ?_, fun {ι} _ writers start apart writing empty schedule finished => ?_⟩
  · have held : {c | c ∈ changes.foldl apply {}} = changes.foldl usesAfter ∅ :=
      Set.ext fun c => by rw [← uses_empty]; exact mem_foldl_apply changes
    exact held ▸ (Tight.foldl_apply tight_empty changes).standsFor
  · rw [← foldl_steps, synced_foldl_applyStep, ← SharedRegistry.markSynced_mem_steps]
    exact or_iff_right Bool.false_ne_true
  · have stands : ∀ schedule, (∀ i, (start.after schedule).parties i = .writer []) →
        (start.after schedule).world.registry.StandsFor
          {c | ∃ i, c ∈ (writers i).foldl usesAfter ∅} := fun schedule finished => by
      obtain ⟨-, -, tight⟩ := SharedRegistry.writers_keep (I := fun _ r => r.Tight)
        (fun _ _ _ step _ _ tight => tight.applyStep step) writing (empty ▸ tight_empty) schedule
      rw [← SharedRegistry.uses_of_finished writing empty apart finished]
      exact tight.standsFor
    refine ⟨stands schedule finished, ?_, fun schedule' finished' =>
      (stands schedule' finished').snapshot_eq (stands schedule finished)⟩
    rw [SharedRegistry.synced_of_finished writing finished, empty]
    exact or_iff_right Bool.false_ne_true

section Sample

/-- A writer that adds two pods and removes the first, and one that adds a pod elsewhere. -/
private def ownUses : Bool → List RegistryChange
  | true => [.add ⟨"reader", "apps", "first"⟩, .add ⟨"reader", "apps", "second"⟩,
      .remove ⟨"reader", "apps", "first"⟩]
  | false => [.add ⟨"writer", "apps", "third"⟩]

/-- Both writers before they have begun, with a new registry. -/
private def ownWriters : SharedRegistry Bool where
  parties i := .writing (ownUses i)
  world := { expiration := .epoch }

private theorem role_of_touches {c : Consumer} {i : Bool}
    (touches : ∃ change ∈ ownUses i, change.Touches c) :
    c.role = if i then "reader" else "writer" := by
  obtain ⟨change, member, touches⟩ := touches
  cases i
  · rw [List.mem_singleton.mp member] at touches
    exact touches ▸ rfl
  · simp only [ownUses, List.mem_cons, List.not_mem_nil, or_false] at member
    rcases member with rfl | rfl | rfl <;> exact touches ▸ rfl

private theorem apart_ownUses : SharedRegistry.Apart ownUses := by
  intro c i j one other
  have same := (role_of_touches one).symm.trans (role_of_touches other)
  revert same
  cases i <;> cases j <;> decide

end Sample

/-- The writer of one use comes in between, or last. -/
theorem Registry.stands_for_uses_sample :
    (ownWriters.after [true, false, true, true]).world.registry.snapshot =
        [("reader", "apps"), ("writer", "apps")] ∧
      (ownWriters.after [true, true, true, false]).world.registry.snapshot =
        (ownWriters.after [true, false, true, true]).world.registry.snapshot := by
  have others := (stands_for_uses []).2.2 ownUses ownWriters apart_ownUses (fun _ => rfl) rfl
    [true, false, true, true] (fun i => by cases i <;> rfl)
  exact ⟨rfl, others.2.2 [true, true, true, false] fun i => by cases i <;> rfl⟩

end RoleSecrets
