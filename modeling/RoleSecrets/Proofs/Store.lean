import Mathlib.Data.List.Nodup
import RoleSecrets.World

/-! # Secrets under their keys

A store is keyed when all its secrets are named and no two have one key. Writing and deleting keep
a store keyed, and change nothing under other keys. `SameOutside` says the latter of any number of
changes, so that changes under different keys can be put together.
-/

namespace RoleSecrets

def Secret.IsNamed (s : Secret) : Prop := s.metadata.ns.isSome ∧ s.metadata.name.isSome

instance (s : Secret) : Decidable s.IsNamed := inferInstanceAs (Decidable (_ ∧ _))

/-- Whether all secrets of a store are named, each by a key of its own. -/
structure Keyed (secrets : List Secret) : Prop where
  named : ∀ s ∈ secrets, s.IsNamed
  distinct : (secrets.map Secret.key).Nodup

namespace Secret.IsNamed

variable {s t : Secret}

theorem hasKey_iff (named : s.IsNamed) (key : ObjectKey) : s.hasKey key = true ↔ s.key = key := by
  obtain ⟨ns, hasNs⟩ := Option.isSome_iff_exists.mp named.1
  obtain ⟨name, hasName⟩ := Option.isSome_iff_exists.mp named.2
  obtain ⟨keyNs, keyName⟩ := key
  simp [hasKey, Secret.key, hasNs, hasName]

theorem sameKey_iff (first : s.IsNamed) (second : t.IsNamed) :
    s.sameKey t = true ↔ s.key = t.key := by
  obtain ⟨ns, hasNs⟩ := Option.isSome_iff_exists.mp first.1
  obtain ⟨name, hasName⟩ := Option.isSome_iff_exists.mp first.2
  obtain ⟨otherNs, hasOtherNs⟩ := Option.isSome_iff_exists.mp second.1
  obtain ⟨otherName, hasOtherName⟩ := Option.isSome_iff_exists.mp second.2
  simp [sameKey, Secret.key, hasNs, hasName, hasOtherNs, hasOtherName]

end Secret.IsNamed

namespace Keyed

variable {secrets : List Secret} {s t : Secret}

theorem eq_of_key (keyed : Keyed secrets) (first : s ∈ secrets) (second : t ∈ secrets)
    (same : s.key = t.key) : s = t :=
  List.inj_on_of_nodup_map keyed.distinct first second same

theorem tail (keyed : Keyed (s :: secrets)) : Keyed secrets where
  named t member := keyed.named t (List.mem_cons_of_mem _ member)
  distinct := (List.nodup_cons.mp keyed.distinct).2

theorem head_key_notMem (keyed : Keyed (s :: secrets)) : s.key ∉ secrets.map Secret.key :=
  (List.nodup_cons.mp keyed.distinct).1

theorem filter (keyed : Keyed secrets) (keep : Secret → Bool) : Keyed (secrets.filter keep) where
  named t member := keyed.named t (List.mem_of_mem_filter member)
  distinct := keyed.distinct.sublist (List.filter_sublist.map _)

end Keyed

/-- Writing leaves the keys as they are, but for that of a secret which is new. -/
theorem keys_putSecret {secrets : List Secret} {s : Secret} (keyed : Keyed secrets)
    (named : s.IsNamed) :
    (putSecret s secrets).map Secret.key =
      if s.key ∈ secrets.map Secret.key then secrets.map Secret.key
      else secrets.map Secret.key ++ [s.key] := by
  induction secrets with
  | nil => simp [putSecret]
  | cons other rest ih =>
    have first := (keyed.named other (List.mem_cons_self ..)).sameKey_iff named
    by_cases same : other.key = s.key
    · simp [putSecret, first.mpr same, same]
    · have differs : other.sameKey s = false := Bool.eq_false_iff.mpr (fun h => same (first.mp h))
      have swapped : s.key ≠ other.key := Ne.symm same
      simp only [putSecret, differs, Bool.false_eq_true, if_false, List.map_cons, ih keyed.tail,
        List.mem_cons, swapped, false_or]
      split <;> simp

/-- A store holds what was written, and besides what it held under other keys. -/
theorem mem_putSecret {secrets : List Secret} {s : Secret} (keyed : Keyed secrets)
    (named : s.IsNamed) (t : Secret) :
    t ∈ putSecret s secrets ↔ t = s ∨ (t ∈ secrets ∧ t.key ≠ s.key) := by
  induction secrets with
  | nil => simp [putSecret]
  | cons other rest ih =>
    have first := (keyed.named other (List.mem_cons_self ..)).sameKey_iff named
    by_cases same : other.key = s.key
    · have elsewhere : ∀ u ∈ rest, u.key ≠ s.key := by
        intro u member equal
        exact keyed.head_key_notMem (List.mem_map.mpr ⟨u, member, equal.trans same.symm⟩)
      simp only [putSecret, first.mpr same, if_true, List.mem_cons]
      constructor
      · rintro (rfl | member)
        · exact .inl rfl
        · exact .inr ⟨.inr member, elsewhere t member⟩
      · rintro (rfl | ⟨rfl | member, differs⟩)
        · exact .inl rfl
        · exact absurd same differs
        · exact .inr member
    · have differs : other.sameKey s = false := Bool.eq_false_iff.mpr (fun h => same (first.mp h))
      simp only [putSecret, differs, Bool.false_eq_true, if_false, List.mem_cons, ih keyed.tail]
      constructor
      · rintro (rfl | rfl | ⟨member, apart⟩)
        · exact .inr ⟨.inl rfl, same⟩
        · exact .inl rfl
        · exact .inr ⟨.inr member, apart⟩
      · rintro (rfl | ⟨rfl | member, apart⟩)
        · exact .inr (.inl rfl)
        · exact .inl rfl
        · exact .inr (.inr ⟨member, apart⟩)

theorem mem_removeSecret {secrets : List Secret} (keyed : Keyed secrets) (key : ObjectKey)
    (t : Secret) : t ∈ removeSecret key secrets ↔ t ∈ secrets ∧ t.key ≠ key := by
  rw [removeSecret, List.mem_filter]
  refine and_congr_right fun member => ?_
  rw [Bool.not_eq_true', ← Bool.not_eq_true]
  exact not_congr ((keyed.named t member).hasKey_iff key)

theorem Keyed.put {secrets : List Secret} {s : Secret} (keyed : Keyed secrets)
    (named : s.IsNamed) : Keyed (putSecret s secrets) where
  named t member := by
    rcases (mem_putSecret keyed named t).mp member with rfl | ⟨before, -⟩
    · exact named
    · exact keyed.named t before
  distinct := by
    rw [keys_putSecret keyed named]
    split
    · exact keyed.distinct
    · rename_i fresh
      refine List.nodup_append.mpr ⟨keyed.distinct, List.nodup_singleton _, ?_⟩
      rintro key member other last rfl
      exact fresh (List.mem_singleton.mp last ▸ member)

theorem Keyed.remove {secrets : List Secret} (keyed : Keyed secrets) (key : ObjectKey) :
    Keyed (removeSecret key secrets) :=
  keyed.filter _

/-- Whether two stores hold the same secrets outside some keys. -/
def SameOutside (keys : List ObjectKey) (before after : List Secret) : Prop :=
  ∀ t, t.key ∉ keys → (t ∈ after ↔ t ∈ before)

namespace SameOutside

variable {keys others : List ObjectKey} {first second third : List Secret}

theorem refl (keys : List ObjectKey) (secrets : List Secret) : SameOutside keys secrets secrets :=
  fun _ _ => Iff.rfl

theorem trans (one : SameOutside keys first second) (two : SameOutside others second third) :
    SameOutside (keys ++ others) first third := by
  intro t outside
  rw [List.mem_append, not_or] at outside
  exact (two t outside.2).trans (one t outside.1)

theorem put {secrets : List Secret} {s : Secret} (keyed : Keyed secrets) (named : s.IsNamed) :
    SameOutside [s.key] secrets (putSecret s secrets) := by
  intro t outside
  rw [List.mem_singleton] at outside
  rw [mem_putSecret keyed named]
  constructor
  · rintro (rfl | ⟨member, -⟩)
    · exact absurd rfl outside
    · exact member
  · exact fun member => .inr ⟨member, outside⟩

theorem remove {secrets : List Secret} (keyed : Keyed secrets) (key : ObjectKey) :
    SameOutside [key] secrets (removeSecret key secrets) := by
  intro t outside
  rw [List.mem_singleton] at outside
  rw [mem_removeSecret keyed]
  exact and_iff_left outside

end SameOutside

end RoleSecrets
