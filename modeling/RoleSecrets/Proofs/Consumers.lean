import Mathlib.Data.List.Nodup
import RoleSecrets.Registry

/-! # The registry as a set of uses

A registry holds uses of roles, and its nested maps are a way to keep them: adding and removing put
a use in and take it out, and leave no role without namespaces and no namespace without pods. So the
roles that are told with their namespaces are those that some pod uses.
-/

namespace RoleSecrets

open Std

namespace Registry

namespace Namespaces

/-- Whether the name of a pod is kept for a namespace. -/
def Holds (namespaces : Namespaces) (ns name : String) : Prop := name ∈ namespaces.getD ns ∅

/-- Whether every namespace has a pod. -/
def Tight (namespaces : Namespaces) : Prop := ∀ ns ∈ namespaces, ∃ name, namespaces.Holds ns name

variable {namespaces : Namespaces} {ns name ns' name' : String}

theorem not_holds_empty : ¬ Holds ∅ ns name := by simp [Holds]

theorem mem_of_holds (holds : namespaces.Holds ns name) : ns ∈ namespaces := by
  refine Classical.byContradiction fun absent => ?_
  rw [Holds, TreeMap.getD_eq_fallback absent] at holds
  exact TreeSet.not_mem_emptyc holds

theorem mem_insert : ns' ∈ namespaces.insert ns name ↔ ns = ns' ∨ ns' ∈ namespaces := by
  by_cases same : ns = ns' <;> simp [insert, TreeMap.mem_alter, same]

theorem holds_insert :
    (namespaces.insert ns name).Holds ns' name' ↔
      (ns = ns' ∧ name = name') ∨ namespaces.Holds ns' name' := by
  by_cases same : ns = ns'
  · subst same
    simp [Holds, insert, ← TreeMap.getD_eq_getD_getElem?]
  · simp [Holds, insert, TreeMap.getD_alter, same]

theorem Tight.insert (tight : namespaces.Tight) : (namespaces.insert ns name).Tight := by
  intro other member
  rcases mem_insert.mp member with rfl | before
  · exact ⟨name, holds_insert.mpr (.inl ⟨rfl, rfl⟩)⟩
  · obtain ⟨pod, holds⟩ := tight other before
    exact ⟨pod, holds_insert.mpr (.inr holds)⟩

theorem getElem?_erase_self : (namespaces.erase ns name)[ns]? =
    if ((namespaces.getD ns ∅).erase name).isEmpty then none
    else some ((namespaces.getD ns ∅).erase name) := by
  rw [erase, TreeMap.getElem?_alter_self, TreeMap.getD_eq_getD_getElem?]
  cases namespaces[ns]? <;> simp

theorem getElem?_erase_of_ne (other : ns ≠ ns') :
    (namespaces.erase ns name)[ns']? = namespaces[ns']? := by
  simp [erase, TreeMap.getElem?_alter, other]

theorem holds_erase :
    (namespaces.erase ns name).Holds ns' name' ↔
      ¬ (ns = ns' ∧ name = name') ∧ namespaces.Holds ns' name' := by
  rw [Holds, TreeMap.getD_eq_getD_getElem?]
  by_cases same : ns = ns'
  · subst same
    rw [getElem?_erase_self]
    split
    · rename_i gone
      have none : name' ∉ (namespaces.getD ns ∅).erase name := TreeSet.not_mem_of_isEmpty gone
      simpa [Holds] using none
    · simp [Holds]
  · rw [getElem?_erase_of_ne same, ← TreeMap.getD_eq_getD_getElem?]
    simp [Holds, same]

/-- A namespace goes with its last pod. -/
theorem Tight.erase (tight : namespaces.Tight) : (namespaces.erase ns name).Tight := by
  intro other member
  have kept := TreeMap.mem_iff_isSome_getElem?.mp member
  by_cases same : ns = other
  · subst same
    rw [getElem?_erase_self] at kept
    split at kept
    · cases kept
    · rename_i filled
      obtain ⟨pod, inside⟩ :=
        TreeSet.isEmpty_eq_false_iff_exists_mem.mp (Bool.eq_false_iff.mpr filled)
      exact ⟨pod, holds_erase.mpr (by simpa [Holds] using inside)⟩
  · rw [getElem?_erase_of_ne same] at kept
    obtain ⟨pod, holds⟩ := tight other (TreeMap.mem_iff_isSome_getElem?.mpr kept)
    exact ⟨pod, holds_erase.mpr ⟨fun equal => same equal.1, holds⟩⟩

/-- Where nothing is kept, there is nothing to remove. -/
theorem isEmpty_erase_empty : (Namespaces.erase ∅ ns name).isEmpty = true :=
  TreeMap.isEmpty_iff_forall_not_mem.mpr fun other member => by
    simp [erase, TreeMap.mem_alter] at member

end Namespaces

namespace Roles

/-- Whether a use of a role is kept. -/
def Holds (roles : Roles) (c : Consumer) : Prop :=
  Namespaces.Holds (roles.getD c.role ∅) c.ns c.name

/-- Whether every role has a namespace, and each of these a pod. -/
structure Tight (roles : Roles) : Prop where
  namespaces : ∀ role, Namespaces.Tight (roles.getD role ∅)
  used : ∀ role ∈ roles, ∃ ns, ns ∈ roles.getD role ∅

variable {roles : Roles} {c other : Consumer} {role : String}

theorem not_holds_empty : ¬ Holds ∅ c := by simp [Holds, Namespaces.Holds]

theorem tight_empty : Tight ∅ where
  namespaces role ns member := by simp at member
  used role member := absurd member TreeMap.not_mem_emptyc

theorem getD_insert_self : (roles.insert c).getD c.role ∅ =
    Namespaces.insert (roles.getD c.role ∅) c.ns c.name := by
  simp [insert, ← TreeMap.getD_eq_getD_getElem?]

theorem getD_insert_of_ne (other : c.role ≠ role) :
    (roles.insert c).getD role ∅ = roles.getD role ∅ := by
  simp [insert, TreeMap.getD_alter, other]

theorem holds_insert : (roles.insert c).Holds other ↔ c = other ∨ roles.Holds other := by
  rw [Holds]
  by_cases same : c.role = other.role
  · rw [← same, getD_insert_self, Namespaces.holds_insert, Holds, same]
    refine or_congr_left ⟨fun equal => ?_, fun equal => equal ▸ ⟨rfl, rfl⟩⟩
    cases c
    cases other
    simp_all
  · rw [getD_insert_of_ne same]
    exact ⟨.inr, fun either => either.resolve_left fun equal => same (equal ▸ rfl)⟩

theorem Tight.insert (tight : roles.Tight) : Tight (roles.insert c) where
  namespaces role := by
    by_cases same : c.role = role
    · subst same
      rw [getD_insert_self]
      exact (tight.namespaces c.role).insert
    · rw [getD_insert_of_ne same]
      exact tight.namespaces role
  used role member := by
    by_cases same : c.role = role
    · subst same
      rw [getD_insert_self]
      exact ⟨c.ns, Namespaces.mem_insert.mpr (.inl rfl)⟩
    · rw [getD_insert_of_ne same]
      exact tight.used role (by simpa [Roles.insert, TreeMap.mem_alter, same] using member)

theorem getElem?_erase_self : (roles.erase c)[c.role]? =
    if (Namespaces.erase (roles.getD c.role ∅) c.ns c.name).isEmpty then none
    else some (Namespaces.erase (roles.getD c.role ∅) c.ns c.name) := by
  rw [erase, TreeMap.getElem?_alter_self, TreeMap.getD_eq_getD_getElem?]
  cases roles[c.role]? with
  | none => simp [Namespaces.isEmpty_erase_empty]
  | some namespaces => rfl

theorem getElem?_erase_of_ne (other : c.role ≠ role) : (roles.erase c)[role]? = roles[role]? := by
  simp [erase, TreeMap.getElem?_alter, other]

theorem getD_erase_self : (roles.erase c).getD c.role ∅ =
    if (Namespaces.erase (roles.getD c.role ∅) c.ns c.name).isEmpty then ∅
    else Namespaces.erase (roles.getD c.role ∅) c.ns c.name := by
  rw [TreeMap.getD_eq_getD_getElem?, getElem?_erase_self]
  split <;> rfl

theorem getD_erase_of_ne (other : c.role ≠ role) :
    (roles.erase c).getD role ∅ = roles.getD role ∅ := by
  rw [TreeMap.getD_eq_getD_getElem?, getElem?_erase_of_ne other, ← TreeMap.getD_eq_getD_getElem?]

theorem holds_erase : (roles.erase c).Holds other ↔ c ≠ other ∧ roles.Holds other := by
  rw [Holds]
  by_cases same : c.role = other.role
  · have kept : Namespaces.Holds ((roles.erase c).getD c.role ∅) other.ns other.name ↔
        Namespaces.Holds (Namespaces.erase (roles.getD c.role ∅) c.ns c.name)
          other.ns other.name := by
      rw [getD_erase_self]
      split
      · rename_i gone
        refine iff_of_false Namespaces.not_holds_empty fun holds => ?_
        exact TreeMap.not_mem_of_isEmpty gone (Namespaces.mem_of_holds holds)
      · rfl
    rw [← same, kept, Namespaces.holds_erase, Holds, same]
    refine and_congr_left fun _ => not_congr ⟨fun equal => ?_, fun equal => equal ▸ ⟨rfl, rfl⟩⟩
    cases c
    cases other
    simp_all
  · rw [getD_erase_of_ne same]
    exact ⟨fun holds => ⟨fun equal => same (equal ▸ rfl), holds⟩, And.right⟩

/-- A role goes with its last namespace. -/
theorem Tight.erase (tight : roles.Tight) : Tight (roles.erase c) where
  namespaces role := by
    by_cases same : c.role = role
    · subst same
      rw [getD_erase_self]
      split
      · exact tight_empty.namespaces c.role
      · exact (tight.namespaces c.role).erase
    · rw [getD_erase_of_ne same]
      exact tight.namespaces role
  used role member := by
    by_cases same : c.role = role
    · subst same
      have kept := TreeMap.mem_iff_isSome_getElem?.mp member
      rw [getElem?_erase_self] at kept
      split at kept
      · cases kept
      · rename_i filled
        rw [getD_erase_self, if_neg filled]
        exact TreeMap.isEmpty_eq_false_iff_exists_mem.mp (Bool.eq_false_iff.mpr filled)
    · rw [TreeMap.mem_iff_isSome_getElem?, getElem?_erase_of_ne same,
        ← TreeMap.mem_iff_isSome_getElem?] at member
      rw [getD_erase_of_ne same]
      exact tight.used role member

theorem holds_foldl_insert {consumers : List Consumer} :
    (consumers.foldl Roles.insert roles).Holds c ↔ c ∈ consumers ∨ roles.Holds c := by
  induction consumers generalizing roles with
  | nil => simp
  | cons first rest ih =>
    rw [List.foldl_cons, ih, holds_insert, List.mem_cons, eq_comm (a := c), or_left_comm, or_assoc]

theorem tight_foldl_insert {consumers : List Consumer} (tight : roles.Tight) :
    Tight (consumers.foldl Roles.insert roles) := by
  induction consumers generalizing roles with
  | nil => exact tight
  | cons first rest ih => exact ih tight.insert

end Roles

instance : Membership Consumer Registry := ⟨fun r c => r.roles.Holds c⟩

/-- Whether a registry keeps no role without namespaces and no namespace without pods. -/
def Tight (r : Registry) : Prop := r.roles.Tight

variable {r : Registry} {c other : Consumer}

theorem mem_add : other ∈ r.add c ↔ c = other ∨ other ∈ r := Roles.holds_insert

theorem mem_remove : other ∈ r.remove c ↔ c ≠ other ∧ other ∈ r := Roles.holds_erase

theorem mem_replace {consumers : List Consumer} : c ∈ r.replace consumers ↔ c ∈ consumers :=
  Roles.holds_foldl_insert.trans (or_iff_left Roles.not_holds_empty)

theorem not_mem_empty : c ∉ ({} : Registry) := Roles.not_holds_empty

theorem tight_empty : Tight {} := Roles.tight_empty

theorem Tight.apply (tight : r.Tight) (change : RegistryChange) : (r.apply change).Tight := by
  cases change with
  | add c => exact Roles.Tight.insert tight
  | remove c => exact Roles.Tight.erase tight
  | replace consumers => exact Roles.tight_foldl_insert Roles.tight_empty

/-- The roles that are told with their namespaces are those of some use. -/
theorem Tight.mem_snapshot (tight : r.Tight) {role ns : String} :
    (role, ns) ∈ r.snapshot ↔ ∃ name, (⟨role, ns, name⟩ : Consumer) ∈ r := by
  have told : (role, ns) ∈ r.snapshot ↔ ns ∈ r.roles.getD role ∅ := by
    simp only [snapshot, List.mem_flatMap, List.mem_map, Prod.mk.injEq, TreeMap.mem_keys,
      Prod.exists, TreeMap.mem_toList_iff_getElem?_eq_some, TreeMap.getD_eq_getD_getElem?]
    constructor
    · rintro ⟨_, namespaces, kept, _, member, rfl, rfl⟩
      rw [kept]
      exact member
    · intro member
      cases kept : r.roles[role]? with
      | none => simp [kept] at member
      | some namespaces => exact ⟨role, namespaces, kept, ns, by simpa [kept] using member, rfl, rfl⟩
  rw [told]
  exact ⟨tight.namespaces role ns, fun ⟨_, holds⟩ => Namespaces.mem_of_holds holds⟩

/-- No role is told with one namespace twice. -/
theorem nodup_snapshot (r : Registry) : r.snapshot.Nodup := by
  refine List.nodup_flatMap.mpr ⟨fun entry _ => ?_, ?_⟩
  · refine List.Nodup.map (fun first second same => (Prod.mk.inj same).2) ?_
    exact TreeMap.distinct_keys.imp fun apart same => apart (by simp [same])
  · refine TreeMap.distinct_keys_toList.imp fun {first second} apart => ?_
    intro pair here there
    obtain ⟨_, -, rfl⟩ := List.mem_map.mp here
    obtain ⟨_, -, same⟩ := List.mem_map.mp there
    exact apart (by simp [(Prod.mk.inj same).1])

end Registry

end RoleSecrets
