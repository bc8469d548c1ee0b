import Mathlib.Data.List.Induction
import Mathlib.Data.List.Perm.Basic
import Mathlib.Data.String.Basic
import RoleSecrets.Drift
import RoleSecrets.Proofs.Store

/-! # What a plan pairs

The counting declarations are the last ones of their keys. A plan splits the listed secrets into
orphans and managed ones, and the counting declarations into managed and missing ones; what it
calls managed fits together, and what it does not was not to be paired.
-/

namespace RoleSecrets

namespace ObjectKey

theorem before_iff {a b : ObjectKey} :
    a.before b = true ↔ a.ns < b.ns ∨ (a.ns = b.ns ∧ a.name < b.name) := by
  simp [before]

theorem ne_of_before {a b : ObjectKey} (less : a.before b = true) : a ≠ b := by
  rintro rfl
  rcases before_iff.mp less with bad | ⟨-, bad⟩ <;> exact lt_irrefl _ bad

theorem before_trans {a b c : ObjectKey} (first : a.before b = true) (second : b.before c = true) :
    a.before c = true := by
  rw [before_iff] at first second ⊢
  rcases first with ns | ⟨ns, name⟩ <;> rcases second with ns' | ⟨ns', name'⟩
  · exact .inl (ns.trans ns')
  · exact .inl (ns' ▸ ns)
  · exact .inl (ns ▸ ns')
  · exact .inr ⟨ns.trans ns', name.trans name'⟩

/-- Different keys come one before the other. -/
theorem before_of_not_before {a b : ObjectKey} (differ : a ≠ b) (not : ¬ a.before b = true) :
    b.before a = true := by
  rw [before_iff] at not ⊢
  rw [not_or] at not
  rcases lt_trichotomy a.ns b.ns with less | equal | greater
  · exact absurd less not.1
  · rcases lt_trichotomy a.name b.name with less | same | more
    · exact absurd ⟨equal, less⟩ not.2
    · exact absurd (by cases a; cases b; simp_all) differ
    · exact .inr ⟨equal.symm, more⟩
  · exact .inl greater

end ObjectKey

/-- Whether a declaration counts among others: it is the last with its key. -/
def Declaration.Counts (declarations : List Declaration) (d : Declaration) : Prop :=
  ∃ earlier later, declarations = earlier ++ d :: later ∧ ∀ other ∈ later, other.key ≠ d.key

namespace Declaration

variable {d : Declaration} {s : Secret}

theorem isNamed_of_matchesSecret (found : d.matchesSecret s = true) : s.IsNamed := by
  simp only [matchesSecret, Bool.and_eq_true, decide_eq_true_eq] at found
  simp [Secret.IsNamed, found]

theorem key_of_matchesSecret (found : d.matchesSecret s = true) : s.key = d.key := by
  simp only [matchesSecret, Bool.and_eq_true, decide_eq_true_eq] at found
  simp [Secret.key, key, found]

/-- A declaration finds the named secrets with its key. -/
theorem matchesSecret_of_key (named : s.IsNamed) (same : d.key = s.key) :
    d.matchesSecret s = true := by
  obtain ⟨ns, hasNs⟩ := Option.isSome_iff_exists.mp named.1
  obtain ⟨name, hasName⟩ := Option.isSome_iff_exists.mp named.2
  simp only [key, Secret.key, hasNs, hasName, Option.getD_some, ObjectKey.mk.injEq] at same
  simp [matchesSecret, hasNs, hasName, same]

end Declaration

namespace Drift

/-- Whether declarations are in the order of their keys. -/
def Sorted (declarations : List Declaration) : Prop :=
  declarations.Pairwise fun a b => a.key.before b.key = true

/-- Inserting puts a declaration in the place of the one with its key. -/
theorem mem_insert {d : Declaration} {sorted : List Declaration} (order : Sorted sorted)
    (e : Declaration) : e ∈ insert d sorted ↔ e = d ∨ (e ∈ sorted ∧ e.key ≠ d.key) := by
  induction sorted with
  | nil => simp [insert]
  | cons first rest ih =>
    obtain ⟨above, restOrder⟩ := List.pairwise_cons.mp order
    have ne_of_mem : ∀ x ∈ rest, x.key ≠ first.key :=
      fun x member => (ObjectKey.ne_of_before (above x member)).symm
    simp only [insert]
    split_ifs with same less
    · simp only [List.mem_cons]
      constructor
      · rintro (rfl | member)
        · exact .inl rfl
        · exact .inr ⟨.inr member, same ▸ ne_of_mem e member⟩
      · rintro (rfl | ⟨rfl | member, differs⟩)
        · exact .inl rfl
        · exact absurd same.symm differs
        · exact .inr member
    · simp only [List.mem_cons]
      constructor
      · rintro (rfl | rfl | member)
        · exact .inl rfl
        · exact .inr ⟨.inl rfl, Ne.symm same⟩
        · exact .inr ⟨.inr member,
            (ObjectKey.ne_of_before (ObjectKey.before_trans less (above e member))).symm⟩
      · rintro (rfl | ⟨member, -⟩)
        · exact .inl rfl
        · exact .inr member
    · simp only [List.mem_cons, ih restOrder]
      constructor
      · rintro (rfl | rfl | ⟨member, differs⟩)
        · exact .inr ⟨.inl rfl, Ne.symm same⟩
        · exact .inl rfl
        · exact .inr ⟨.inr member, differs⟩
      · rintro (rfl | ⟨rfl | member, differs⟩)
        · exact .inr (.inl rfl)
        · exact .inl rfl
        · exact .inr (.inr ⟨member, differs⟩)

theorem sorted_insert {d : Declaration} {sorted : List Declaration} (order : Sorted sorted) :
    Sorted (insert d sorted) := by
  induction sorted with
  | nil => exact List.pairwise_singleton _ _
  | cons first rest ih =>
    obtain ⟨above, restOrder⟩ := List.pairwise_cons.mp order
    simp only [insert]
    split_ifs with same less
    · exact List.pairwise_cons.mpr ⟨fun x member => same ▸ above x member, restOrder⟩
    · refine List.pairwise_cons.mpr ⟨fun x member => ?_, order⟩
      rcases List.mem_cons.mp member with rfl | later
      · exact less
      · exact ObjectKey.before_trans less (above x later)
    · refine List.pairwise_cons.mpr ⟨fun x member => ?_, ih restOrder⟩
      rcases (mem_insert restOrder x).mp member with rfl | ⟨later, -⟩
      · exact ObjectKey.before_of_not_before same less
      · exact above x later

theorem counting_concat (declarations : List Declaration) (d : Declaration) :
    counting (declarations ++ [d]) = insert d (counting declarations) := by
  simp [counting]

theorem sorted_counting (declarations : List Declaration) : Sorted (counting declarations) := by
  induction declarations using List.reverseRecOn with
  | nil => exact List.Pairwise.nil
  | append_singleton earlier d ih =>
    rw [counting_concat]
    exact sorted_insert ih

theorem nodup_keys_counting (declarations : List Declaration) :
    ((counting declarations).map Declaration.key).Nodup :=
  List.pairwise_map.mpr ((sorted_counting declarations).imp ObjectKey.ne_of_before)

/-- The declarations that count are the last ones of their keys. -/
theorem mem_counting_iff {declarations : List Declaration} {d : Declaration} :
    d ∈ counting declarations ↔ Declaration.Counts declarations d := by
  induction declarations using List.reverseRecOn with
  | nil => simp [counting, Declaration.Counts]
  | append_singleton earlier last ih =>
    rw [counting_concat, mem_insert (sorted_counting earlier), ih]
    constructor
    · rintro (rfl | ⟨⟨before, after, rfl, apart⟩, differs⟩)
      · exact ⟨earlier, [], rfl, by simp⟩
      · refine ⟨before, after ++ [last], by simp, fun other member => ?_⟩
        rcases List.mem_append.mp member with inside | atEnd
        · exact apart other inside
        · rw [List.mem_singleton.mp atEnd]
          exact Ne.symm differs
    · rintro ⟨before, after, split, apart⟩
      rcases List.eq_nil_or_concat after with rfl | ⟨inside, final, rfl⟩
      · obtain ⟨-, same⟩ := List.append_inj' split rfl
        exact .inl (List.singleton_inj.mp same).symm
      · rw [List.concat_eq_append, ← List.cons_append, ← List.append_assoc] at split
        obtain ⟨rfl, same⟩ := List.append_inj' split rfl
        obtain rfl := List.singleton_inj.mp same
        refine .inr ⟨⟨before, inside, rfl, fun other member => apart other (by simp [member])⟩, ?_⟩
        exact Ne.symm (apart last (by simp))

theorem mem_of_mem_counting {declarations : List Declaration} {d : Declaration}
    (member : d ∈ counting declarations) : d ∈ declarations := by
  obtain ⟨earlier, later, rfl, -⟩ := mem_counting_iff.mp member
  simp

/-- A secret is healthy when it was written for the declared generation and outlasts the deadline. -/
theorem classify_eq_healthy_iff {d : Declaration} {s : Secret} {deadline : Option Timestamp} :
    classify d s deadline = healthy ↔ isCurrent d s = true ∧ outlasts s deadline = true := by
  unfold classify
  cases isCurrent d s <;> cases outlasts s deadline <;> simp

theorem generation?_of_isCurrent {d : Declaration} {s : Secret} (current : isCurrent d s = true)
    {generation : Int} (generated : d.generation = some generation) :
    s.generation? = some generation := by
  simpa [isCurrent, generated] using current

theorem outlasts_eq_true_iff {s : Secret} {deadline : Option Timestamp} :
    outlasts s deadline = true ↔ ∃ expiration limit, s.expiration? = some expiration ∧
      deadline = some limit ∧ limit ≤ expiration := by
  unfold outlasts
  cases s.expiration? <;> cases deadline <;> simp

/-- How a plan splits some pending declarations and some secrets. -/
structure Plan.Splits (deadline : Option Timestamp) (pending : List Declaration)
    (secrets : List Secret) (plan : Plan) : Prop where
  /-- No secret is lost and none comes up twice. -/
  secrets_perm : (plan.orphans ++ plan.managed.map Managed.secret).Perm secrets
  /-- Nor is any declaration. -/
  declarations_perm : (plan.managed.map Managed.declaration ++ plan.missing).Perm pending
  paired : ∀ m ∈ plan.managed, m.declaration.key = m.secret.key ∧
    m.declaration.accepts m.secret = true ∧ m.drift = classify m.declaration m.secret deadline

/-- What a plan has to do with secrets that have keys of their own. -/
structure Plan.Fits (deadline : Option Timestamp) (pending : List Declaration)
    (secrets : List Secret) (plan : Plan) : Prop extends Splits deadline pending secrets plan where
  /-- An orphan is not declared, or not by its owner. -/
  orphaned : ∀ s ∈ plan.orphans, ∀ d ∈ pending, d.key = s.key → d.accepts s = false

/-- Of declarations with keys of their own, all but the one of a key are left without it. -/
private theorem perm_cons_filter {pending : List Declaration} {d : Declaration}
    (distinct : (pending.map Declaration.key).Nodup) (member : d ∈ pending) :
    (d :: pending.filter (·.key ≠ d.key)).Perm pending := by
  induction pending with
  | nil => cases member
  | cons first rest ih =>
    obtain ⟨apart, restDistinct⟩ := List.nodup_cons.mp distinct
    rcases List.mem_cons.mp member with rfl | later
    · have kept : rest.filter (·.key ≠ d.key) = rest := by
        refine List.filter_eq_self.mpr fun other inside => ?_
        simp only [ne_eq, decide_not, Bool.not_eq_true', decide_eq_false_iff_not]
        exact fun same => apart (List.mem_map.mpr ⟨other, inside, same⟩)
      rw [List.filter_cons_of_neg (by simp), kept]
    · have differs : first.key ≠ d.key :=
        fun same => apart (List.mem_map.mpr ⟨d, later, same.symm⟩)
      rw [List.filter_cons_of_pos (by simpa using differs)]
      exact (List.Perm.swap ..).trans ((ih restDistinct later).cons _)

theorem nodup_pending {pending : List Declaration}
    (declared : (pending.map Declaration.key).Nodup) (key : ObjectKey) :
    ((pending.filter (·.key ≠ key)).map Declaration.key).Nodup :=
  declared.sublist (List.filter_sublist.map _)

theorem splits_plan (deadline : Option Timestamp) {pending : List Declaration}
    (secrets : List Secret) (declared : (pending.map Declaration.key).Nodup) :
    (plan deadline pending secrets).Splits deadline pending secrets := by
  induction secrets generalizing pending with
  | nil => exact ⟨.refl _, by simp [plan], by simp [plan]⟩
  | cons s rest ih =>
    rw [plan]
    split
    · have splits := ih declared
      exact ⟨splits.secrets_perm.cons s, splits.declarations_perm, splits.paired⟩
    · rename_i d found
      have key : d.key = s.key := by simpa using List.find?_some found
      have splits := ih (nodup_pending declared s.key)
      have pendingSplit := perm_cons_filter declared (List.mem_of_find?_eq_some found)
      rw [key] at pendingSplit
      by_cases accepted : d.accepts s = true
      · rw [if_pos accepted]
        refine ⟨List.perm_middle.trans (splits.secrets_perm.cons s),
          (splits.declarations_perm.cons d).trans pendingSplit, ?_⟩
        intro m member
        rcases List.mem_cons.mp member with rfl | later
        · exact ⟨key, accepted, rfl⟩
        · exact splits.paired m later
      · rw [if_neg accepted]
        exact ⟨splits.secrets_perm.cons s,
          List.perm_middle.trans ((splits.declarations_perm.cons d).trans pendingSplit),
          splits.paired⟩

theorem fits_plan (deadline : Option Timestamp) {pending : List Declaration} {secrets : List Secret}
    (declared : (pending.map Declaration.key).Nodup) (listed : (secrets.map Secret.key).Nodup) :
    (plan deadline pending secrets).Fits deadline pending secrets := by
  refine ⟨splits_plan deadline secrets declared, ?_⟩
  induction secrets generalizing pending with
  | nil => simp [plan]
  | cons s rest ih =>
    obtain ⟨apart, restListed⟩ := List.nodup_cons.mp listed
    rw [plan]
    split
    · rename_i unknown
      intro orphan member d pendingMember same
      rcases List.mem_cons.mp member with rfl | later
      · exact absurd same (by simpa using List.find?_eq_none.mp unknown d pendingMember)
      · exact ih declared restListed orphan later d pendingMember same
    · rename_i d found
      have inPending : d ∈ pending := List.mem_of_find?_eq_some found
      have key : d.key = s.key := by simpa using List.find?_some found
      have left := nodup_pending declared s.key
      -- a later orphan has another key, so its declarations are still pending
      have orphaned : ∀ orphan ∈ (plan deadline (pending.filter (·.key ≠ s.key)) rest).orphans,
          ∀ e ∈ pending, e.key = orphan.key → e.accepts orphan = false := by
        intro orphan member e pendingMember same
        have inRest : orphan ∈ rest :=
          (splits_plan deadline rest left).secrets_perm.subset (List.mem_append_left _ member)
        have differs : e.key ≠ s.key := by
          rw [same]
          exact fun equal => apart (List.mem_map.mpr ⟨orphan, inRest, equal⟩)
        exact ih left restListed orphan member e
          (List.mem_filter.mpr ⟨pendingMember, by simpa using differs⟩) same
      by_cases accepted : d.accepts s = true
      · rw [if_pos accepted]
        exact orphaned
      · rw [if_neg accepted]
        intro orphan member e pendingMember same
        rcases List.mem_cons.mp member with rfl | later
        · have equal : e = d :=
            List.inj_on_of_nodup_map declared pendingMember inPending (same.trans key.symm)
          rw [equal]
          exact Bool.eq_false_iff.mpr accepted
        · exact orphaned orphan later e pendingMember same

/-- A plan keeps to the order of the listing. -/
theorem sublist_plan (deadline : Option Timestamp) (pending : List Declaration)
    (secrets : List Secret) :
    (plan deadline pending secrets).orphans.Sublist secrets ∧
      ((plan deadline pending secrets).managed.map Managed.secret).Sublist secrets := by
  induction secrets generalizing pending with
  | nil => exact ⟨.slnil, .slnil⟩
  | cons s secrets ih =>
    rw [plan]
    split
    · obtain ⟨orphans, managed⟩ := ih pending
      exact ⟨orphans.cons_cons s, managed.cons s⟩
    · obtain ⟨orphans, managed⟩ := ih (pending.filter (·.key ≠ s.key))
      split
      · exact ⟨orphans.cons s, managed.cons_cons s⟩
      · exact ⟨orphans.cons_cons s, managed.cons s⟩

/-- A missing declaration has no secret that it accepts. -/
theorem Plan.Fits.refused_of_missing {deadline : Option Timestamp} {pending : List Declaration}
    {secrets : List Secret} {plan : Plan} (fits : plan.Fits deadline pending secrets)
    (declared : (pending.map Declaration.key).Nodup) {d : Declaration} (missing : d ∈ plan.missing) :
    ∀ s ∈ secrets, d.key = s.key → d.accepts s = false := by
  intro s listed same
  rcases List.mem_append.mp (fits.secrets_perm.symm.subset listed) with orphan | managed
  · exact fits.orphaned s orphan d
      (fits.declarations_perm.subset (List.mem_append_right _ missing)) same
  · obtain ⟨m, member, rfl⟩ := List.mem_map.mp managed
    have distinct := (fits.declarations_perm.map Declaration.key).nodup_iff.mpr declared
    rw [List.map_append] at distinct
    obtain ⟨-, -, apart⟩ := List.nodup_append.mp distinct
    refine absurd ((fits.paired m member).1.trans same.symm) (apart _ ?_ _ ?_)
    · exact List.mem_map_of_mem (List.mem_map_of_mem member)
    · exact List.mem_map_of_mem missing

/-- What `detect` finds fits the counting declarations and the listed secrets. -/
theorem fits_detect (declarations : List Declaration) {secrets : List Secret} (refreshLimit : Nat)
    (now : Timestamp) (listed : (secrets.map Secret.key).Nodup) :
    (detect declarations secrets refreshLimit now).Fits (now.add? refreshLimit)
      (counting declarations) secrets :=
  fits_plan _ (nodup_keys_counting declarations) listed

end Drift

end RoleSecrets
