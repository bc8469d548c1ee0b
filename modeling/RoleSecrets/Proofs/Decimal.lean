import Mathlib.Tactic.Ring
import RoleSecrets.Text.Basic
import RoleSecrets.Text.Decimal

/-! # Decimal numbers are read as they were written

Reading inverts writing for numbers of a fixed width, for numbers without leading zeros and for
signed words. What was written consists of digits, so a text that goes on otherwise ends a number.
-/

namespace RoleSecrets.Decimal

private theorem digitChar_facts : ∀ r < 10,
    digitValue? (Char.ofNat (48 + r)) = some r ∧ (Char.ofNat (48 + r)).isDigit = true ∧
      (Char.ofNat (48 + r)).toNat = 48 + r ∧ Text.isBlank (Char.ofNat (48 + r)) = false := by
  decide

theorem digitValue?_digitChar (d : Nat) : digitValue? (digitChar d) = some (d % 10) :=
  (digitChar_facts (d % 10) (Nat.mod_lt _ (by decide))).1

theorem isDigit_digitChar (d : Nat) : (digitChar d).isDigit = true :=
  (digitChar_facts (d % 10) (Nat.mod_lt _ (by decide))).2.1

theorem toNat_digitChar (d : Nat) : (digitChar d).toNat = 48 + d % 10 :=
  (digitChar_facts (d % 10) (Nat.mod_lt _ (by decide))).2.2.1

theorem toNat_of_isDigit {c : Char} (digit : c.isDigit = true) : 48 ≤ c.toNat ∧ c.toNat ≤ 57 := by
  simp only [Char.isDigit, Bool.and_eq_true, decide_eq_true_eq, ge_iff_le] at digit
  exact ⟨UInt32.le_iff_toNat_le.mp digit.1, UInt32.le_iff_toNat_le.mp digit.2⟩

theorem isBlank_of_isDigit {c : Char} (digit : c.isDigit = true) : Text.isBlank c = false := by
  obtain ⟨lower, upper⟩ := toNat_of_isDigit digit
  simp only [Text.isBlank, Bool.or_eq_false_iff, Bool.and_eq_false_iff, decide_eq_false_iff_not]
  omega

@[simp] theorem length_fixed (width n : Nat) : (fixed width n).length = width := by
  induction width generalizing n with
  | zero => rfl
  | succ width ih => simp [fixed, ih]

theorem isDigit_of_mem_fixed {width n : Nat} {c : Char} (member : c ∈ fixed width n) :
    c.isDigit = true := by
  induction width generalizing n with
  | zero => simp [fixed] at member
  | succ width ih =>
    rcases List.mem_append.mp member with before | last
    · exact ih before
    · rw [List.mem_singleton.mp last]
      exact isDigit_digitChar n

theorem readOn_append (value : Nat) (first second : List Char) :
    readOn value (first ++ second) = (readOn value first).bind fun v => readOn v second := by
  induction first generalizing value with
  | nil => rfl
  | cons c first ih =>
    simp only [List.cons_append, readOn]
    cases digitValue? c with
    | none => rfl
    | some d => exact ih _

theorem readOn_digitChar (value d : Nat) : readOn value [digitChar d] = some (10 * value + d % 10) := by
  simp [readOn, digitValue?_digitChar]

/-- A number of a fixed width is read as what is left of it in that width. -/
theorem readOn_fixed (value width n : Nat) :
    readOn value (fixed width n) = some (value * 10 ^ width + n % 10 ^ width) := by
  induction width generalizing n with
  | zero => simp [fixed, readOn, Nat.mod_one]
  | succ width ih =>
    rw [fixed, readOn_append, ih, Option.bind_some, readOn_digitChar]
    congr 1
    rw [Nat.pow_succ', Nat.mod_mul]
    ring

/-- The digits of a number stand for it. -/
theorem readOn_digits (n : Nat) : readOn 0 (digits n) = some n := by
  induction n using Nat.strongRecOn with
  | ind n ih =>
    rw [digits]
    split
    · rw [readOn_digitChar, Nat.mod_eq_of_lt (by assumption)]
      simp
    · rw [readOn_append, ih (n / 10) (by omega), Option.bind_some, readOn_digitChar,
        Nat.div_add_mod]

theorem isDigit_of_mem_digits {n : Nat} {c : Char} (member : c ∈ digits n) : c.isDigit = true := by
  induction n using Nat.strongRecOn with
  | ind n ih =>
    rw [digits] at member
    split at member
    · rw [List.mem_singleton.mp member]
      exact isDigit_digitChar n
    · rcases List.mem_append.mp member with before | last
      · exact ih (n / 10) (by omega) before
      · rw [List.mem_singleton.mp last]
        exact isDigit_digitChar n

theorem isDigit_of_mem_padded {width n : Nat} {c : Char} (member : c ∈ padded width n) :
    c.isDigit = true := by
  rcases List.mem_append.mp member with zeros | digits
  · rw [List.eq_of_mem_replicate zeros]
    rfl
  · exact isDigit_of_mem_digits digits

theorem digits_ne_nil (n : Nat) : digits n ≠ [] := by
  rw [digits]
  split <;> simp

/-- A number is written without leading zeros. -/
theorem head?_digits {n : Nat} (positive : n ≠ 0) : (digits n).head? ≠ some '0' := by
  induction n using Nat.strongRecOn with
  | ind n ih =>
    rw [digits]
    split
    · intro same
      have zero := congrArg Char.toNat (Option.some.inj same)
      rw [toNat_digitChar, show '0'.toNat = 48 from rfl] at zero
      omega
    · have before := ih (n / 10) (by omega) (by omega)
      obtain ⟨c, rest, same⟩ := List.exists_cons_of_ne_nil (digits_ne_nil (n / 10))
      rwa [same] at before ⊢

theorem readNat?_digits (n : Nat) : readNat? (digits n) = some n := by
  rw [readNat?, if_neg (digits_ne_nil n), readOn_digits]

/-- A text whose first character is a digit has no sign. -/
theorem readInt?_of_isDigit {c : Char} {rest : List Char} (digit : c.isDigit = true) :
    readInt? (c :: rest) = (readNat? (c :: rest)).map Int.ofNat := by
  unfold readInt?
  split
  · rename_i same
    cases same
    exact absurd digit (by decide)
  · rename_i same
    cases same
    exact absurd digit (by decide)
  · rfl

/-- An integer consists of digits, but for a minus sign before them. -/
theorem ofInt_eq_cons (n : Int) :
    ∃ c rest, ofInt n = c :: rest ∧ (c = '-' ∨ c.isDigit = true) ∧
      ∀ d ∈ rest, d.isDigit = true := by
  unfold ofInt
  split
  · exact ⟨_, _, rfl, .inl rfl, fun _ => isDigit_of_mem_digits⟩
  · obtain ⟨c, rest, same⟩ := List.exists_cons_of_ne_nil (digits_ne_nil n.natAbs)
    have digit {d : Char} (member : d ∈ c :: rest) : d.isDigit = true :=
      isDigit_of_mem_digits (same ▸ member)
    exact ⟨c, rest, same, .inr (digit List.mem_cons_self), fun _ member =>
      digit (List.mem_cons_of_mem c member)⟩

/-- An integer is read as it was written. -/
theorem readInt?_ofInt (n : Int) : readInt? (ofInt n) = some n := by
  by_cases negative : n < 0
  · rw [ofInt, if_pos negative]
    simp only [readInt?, readNat?_digits]
    exact congrArg some (show -(n.natAbs : Int) = n by omega)
  · rw [ofInt, if_neg negative]
    obtain ⟨c, rest, same⟩ := List.exists_cons_of_ne_nil (digits_ne_nil n.natAbs)
    have digit := isDigit_of_mem_digits (n := n.natAbs) (c := c) (by simp [same])
    rw [same, readInt?_of_isDigit digit, ← same, readNat?_digits, Option.map_some]
    congr 1
    exact Int.natAbs_of_nonneg (by omega)

/-- A signed word is read as it was written. -/
theorem readInt64?_ofInt {n : Int} (fits : fitsInt64 n = true) : readInt64? (ofInt n) = some n := by
  rw [readInt64?, readInt?_ofInt, Option.filter_some, if_pos fits]

end RoleSecrets.Decimal
