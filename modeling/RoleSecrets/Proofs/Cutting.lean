import Mathlib.Data.List.Infix
import RoleSecrets.Text.Basic

/-! # Cutting text

`takeBytes` gives the longest start of a text within a budget. The same start is found by going back
from the budget, byte by byte, to the end of a character, and cutting there: `truncate?` does this
and has no result where it would go below zero or cut inside a character or beyond the end. It
always has one. Text that is put together with separators is taken apart by `splitOn` again, and a
text without a separator lies within one of the pieces, so that its first occurrence can be told.
-/

namespace RoleSecrets.Text

section Bytes

theorem byteLength_eq (text : List Char) : byteLength text = (String.ofList text).utf8ByteSize := by
  induction text with
  | nil => rfl
  | cons c text ih =>
    have split : String.ofList (c :: text) = String.singleton c ++ String.ofList text := by
      rw [String.singleton_eq_ofList, ← String.ofList_append]
      rfl
    rw [byteLength_cons, ih, split, String.utf8ByteSize_append, String.utf8ByteSize_singleton]

theorem byteLength_le_of_isPrefix {front text : List Char} (start : front <+: text) :
    byteLength front ≤ byteLength text := by
  obtain ⟨back, rfl⟩ := start
  rw [byteLength_append]
  exact Nat.le_add_right ..

theorem length_le_byteLength (text : List Char) : text.length ≤ byteLength text := by
  induction text with
  | nil => exact Nat.le_refl 0
  | cons c text ih =>
    have size := c.utf8Size_pos
    rw [List.length_cons, byteLength_cons]
    omega

/-- A text of one-byte characters has as many bytes as characters. -/
theorem byteLength_ascii {text : List Char} (ascii : ∀ c ∈ text, c.utf8Size = 1) :
    byteLength text = text.length := by
  induction text with
  | nil => rfl
  | cons c text ih =>
    rw [byteLength_cons, ascii c (List.mem_cons_self ..),
      ih fun c member => ascii c (List.mem_cons_of_mem _ member), List.length_cons, Nat.add_comm]

end Bytes

section Greatest

theorem takeBytes_isPrefix (budget : Nat) (text : List Char) : takeBytes budget text <+: text := by
  induction text generalizing budget with
  | nil => exact List.prefix_rfl
  | cons c text ih =>
    rw [takeBytes]
    split
    · exact List.cons_prefix_cons.mpr ⟨rfl, ih _⟩
    · exact List.nil_prefix

/-- No start of a text that fits is longer. -/
theorem isPrefix_takeBytes {front text : List Char} {budget : Nat} (start : front <+: text)
    (fits : byteLength front ≤ budget) : front <+: takeBytes budget text := by
  induction text generalizing front budget with
  | nil => exact start
  | cons c text ih =>
    rcases List.prefix_cons_iff.mp start with rfl | ⟨rest, rfl, inside⟩
    · exact List.nil_prefix
    · rw [byteLength_cons] at fits
      rw [takeBytes, if_pos (by omega)]
      exact List.cons_prefix_cons.mpr ⟨rfl, ih inside (by omega)⟩

end Greatest

section Truncation

/-- The part of a text before a position in bytes, if there is a character's end at the position. -/
def front? (position : Nat) : List Char → Option (List Char)
  | [] => if position = 0 then some [] else none
  | c :: rest =>
      if position = 0 then some []
      else if c.utf8Size ≤ position then (front? (position - c.utf8Size) rest).map (c :: ·)
      else none

/-- Goes back from a position to the end of a character. -/
def boundary? (text : List Char) : Nat → Option Nat
  | 0 => if (front? 0 text).isSome then some 0 else none
  | position + 1 =>
      if (front? (position + 1) text).isSome then some (position + 1) else boundary? text position

/-- A text of no more than `budget` bytes, the rest being cut off. -/
def truncate? (budget : Nat) (text : List Char) : Option (List Char) :=
  if byteLength text ≤ budget then some text
  else (boundary? text budget).bind (front? · text)

theorem front?_zero (text : List Char) : front? 0 text = some [] := by
  cases text <;> rfl

theorem front?_eq_some_iff {position : Nat} {text front : List Char} :
    front? position text = some front ↔ byteLength front = position ∧ front <+: text := by
  induction text generalizing position front with
  | nil =>
    rw [front?, List.prefix_nil]
    constructor
    · intro found
      split at found
      · rename_i zero
        obtain rfl := Option.some.inj found
        exact ⟨zero.symm, rfl⟩
      · cases found
    · rintro ⟨rfl, rfl⟩
      rfl
  | cons c text ih =>
    have size := c.utf8Size_pos
    rw [front?, List.prefix_cons_iff]
    constructor
    · intro found
      split at found
      · rename_i zero
        obtain rfl := Option.some.inj found
        exact ⟨zero.symm, .inl rfl⟩
      · split at found
        · obtain ⟨rest, inside, rfl⟩ := Option.map_eq_some_iff.mp found
          obtain ⟨length, start⟩ := ih.mp inside
          rw [byteLength_cons]
          exact ⟨by omega, .inr ⟨rest, rfl, start⟩⟩
        · cases found
    · rintro ⟨rfl, rfl | ⟨rest, rfl, start⟩⟩
      · rfl
      · rw [byteLength_cons, if_neg (by omega), if_pos (Nat.le_add_right ..), Nat.add_sub_cancel_left,
          ih.mpr ⟨rfl, start⟩]
        rfl

theorem boundary?_eq (text : List Char) (budget : Nat) :
    boundary? text budget = some (byteLength (takeBytes budget text)) := by
  induction budget with
  | zero =>
    rw [boundary?, front?_zero, Nat.le_zero.mp (byteLength_takeBytes_le 0 text)]
    rfl
  | succ position ih =>
    rw [boundary?]
    have fits := byteLength_takeBytes_le (position + 1) text
    split
    · rename_i found
      obtain ⟨front, found⟩ := Option.isSome_iff_exists.mp found
      obtain ⟨length, start⟩ := front?_eq_some_iff.mp found
      have longest := byteLength_le_of_isPrefix (isPrefix_takeBytes start length.le)
      exact congrArg some (by omega)
    · rename_i inside
      -- the longest start that fits ends before the position, since no character ends there
      have shorter : byteLength (takeBytes (position + 1) text) ≠ position + 1 := fun length =>
        inside (Option.isSome_iff_exists.mpr
          ⟨_, front?_eq_some_iff.mpr ⟨length, takeBytes_isPrefix ..⟩⟩)
      have within : takeBytes (position + 1) text <+: takeBytes position text :=
        isPrefix_takeBytes (takeBytes_isPrefix ..) (by omega)
      have around : takeBytes position text <+: takeBytes (position + 1) text :=
        isPrefix_takeBytes (takeBytes_isPrefix ..)
          (Nat.le_succ_of_le (byteLength_takeBytes_le position text))
      rw [ih, within.eq_of_length_le around.length_le]

theorem truncate?_eq (budget : Nat) (text : List Char) :
    truncate? budget text = some (takeBytes budget text) := by
  rw [truncate?]
  split
  · rename_i fits
    rw [takeBytes_eq_self fits]
  · rw [boundary?_eq, Option.bind_some]
    exact front?_eq_some_iff.mpr ⟨rfl, takeBytes_isPrefix budget text⟩

end Truncation

section Ends

theorem dropStart?_eq_some_iff {start text rest : List Char} :
    dropStart? start text = some rest ↔ text = start ++ rest := by
  induction start generalizing text with
  | nil => simp [dropStart?]
  | cons s start ih =>
    cases text with
    | nil => simp [dropStart?]
    | cons c text =>
      rw [dropStart?]
      split
      · rename_i same
        subst same
        simp [ih]
      · rename_i differs
        simp [Ne.symm differs]

theorem dropStart?_eq_none_iff {start text : List Char} :
    dropStart? start text = none ↔ ¬ start <+: text := by
  rw [Option.eq_none_iff_forall_ne_some]
  simp only [ne_eq, dropStart?_eq_some_iff]
  exact ⟨fun none ⟨rest, same⟩ => none rest same.symm, fun none rest same => none ⟨rest, same.symm⟩⟩

theorem dropStart_append (start rest : List Char) : dropStart start (start ++ rest) = rest := by
  rw [dropStart, dropStart?_eq_some_iff.mpr rfl, Option.getD_some]

theorem dropEnd?_append (front ending : List Char) : dropEnd? ending (front ++ ending) = some front := by
  rw [dropEnd?, List.reverse_append, dropStart?_eq_some_iff.mpr rfl, Option.map_some,
    List.reverse_reverse]

theorem dropEnd_append (front ending : List Char) : dropEnd ending (front ++ ending) = front := by
  rw [dropEnd, dropEnd?_append, Option.getD_some]

end Ends

section Splitting

variable {sep : Char} {piece : List Char}

theorem splitOn_of_notMem (absent : sep ∉ piece) : splitOn sep piece = [piece] := by
  induction piece with
  | nil => rfl
  | cons c piece ih =>
    obtain ⟨other, absent⟩ := not_or.mp (mt List.mem_cons.mpr absent)
    rw [splitOn, if_neg (Ne.symm other), ih absent]

theorem splitOn_append (absent : sep ∉ piece) (rest : List Char) :
    splitOn sep (piece ++ sep :: rest) = piece :: splitOn sep rest := by
  induction piece with
  | nil => rw [List.nil_append, splitOn, if_pos rfl]
  | cons c piece ih =>
    obtain ⟨other, absent⟩ := not_or.mp (mt List.mem_cons.mpr absent)
    rw [List.cons_append, splitOn, if_neg (Ne.symm other), ih absent]

/-- There are several pieces where there is a separator. -/
theorem splitOn_of_mem {text : List Char} (present : sep ∈ text) :
    ∃ head level levels, splitOn sep text = head :: level :: levels := by
  obtain ⟨head, rest, rfl, absent⟩ := List.eq_append_cons_of_mem present
  obtain ⟨level, levels, pieces⟩ := List.exists_cons_of_ne_nil (splitOn_ne_nil sep rest)
  exact ⟨head, level, levels, by rw [splitOn_append absent, pieces]⟩

theorem cutAt?_append (absent : sep ∉ piece) (rest : List Char) :
    cutAt? sep (piece ++ sep :: rest) = some (piece, rest) := by
  induction piece with
  | nil => rw [List.nil_append, cutAt?, if_pos rfl]
  | cons c piece ih =>
    obtain ⟨other, absent⟩ := not_or.mp (mt List.mem_cons.mpr absent)
    rw [List.cons_append, cutAt?, if_neg (Ne.symm other), ih absent]
    rfl

theorem splitAtMost_append (absent : sep ∉ piece) (cuts : Nat) (rest : List Char) :
    splitAtMost sep (cuts + 1) (piece ++ sep :: rest) = piece :: splitAtMost sep cuts rest := by
  induction piece with
  | nil => rw [List.nil_append, splitAtMost, if_pos rfl]
  | cons c piece ih =>
    obtain ⟨other, absent⟩ := not_or.mp (mt List.mem_cons.mpr absent)
    rw [List.cons_append, splitAtMost, if_neg (Ne.symm other), ih absent]

theorem splitAtMost_of_notMem (absent : sep ∉ piece) (cuts : Nat) :
    splitAtMost sep cuts piece = [piece] := by
  cases cuts with
  | zero => rw [splitAtMost]
  | succ cuts =>
    induction piece with
    | nil => rfl
    | cons c piece ih =>
      obtain ⟨other, absent⟩ := not_or.mp (mt List.mem_cons.mpr absent)
      rw [splitAtMost, if_neg (Ne.symm other), ih absent]

/-- The pieces before the last cut are those that all separators give. -/
theorem take_splitAtMost (sep : Char) (cuts : Nat) (text : List Char) :
    (splitAtMost sep cuts text).take cuts = (splitOn sep text).take cuts := by
  induction cuts generalizing text with
  | zero => rfl
  | succ cuts ih =>
    by_cases present : sep ∈ text
    · obtain ⟨head, rest, rfl, absent⟩ := List.eq_append_cons_of_mem present
      rw [splitAtMost_append absent, splitOn_append absent, List.take_succ_cons,
        List.take_succ_cons, ih]
    · rw [splitAtMost_of_notMem present, splitOn_of_notMem present]

/-- The pieces hold what the text does, but for the separators. -/
theorem mem_of_mem_splitOn {text : List Char} (inside : piece ∈ splitOn sep text) {c : Char}
    (member : c ∈ piece) : c ∈ text ∧ c ≠ sep := by
  induction text generalizing piece with
  | nil =>
    rw [splitOn, List.mem_singleton] at inside
    rw [inside] at member
    cases member
  | cons d text ih =>
    rw [splitOn] at inside
    split at inside
    · rcases List.mem_cons.mp inside with rfl | later
      · cases member
      · exact (ih later member).imp_left (List.mem_cons_of_mem _)
    · rename_i other
      obtain ⟨first, pieces, same⟩ := List.exists_cons_of_ne_nil (splitOn_ne_nil sep text)
      rw [same] at inside ih
      rcases List.mem_cons.mp inside with rfl | later
      · rcases List.mem_cons.mp member with rfl | member
        · exact ⟨List.mem_cons_self .., other⟩
        · exact (ih (List.mem_cons_self ..) member).imp_left (List.mem_cons_of_mem _)
      · exact (ih (List.mem_cons_of_mem _ later) member).imp_left (List.mem_cons_of_mem _)

end Splitting

section Replacing

variable {mark : Char} {old front : List Char}

/-- A text without a mark that starts a text with one ends before it. -/
theorem isPrefix_of_isPrefix_append (absent : mark ∉ old) (front : List Char) {rest : List Char}
    (start : old <+: front ++ mark :: rest) : old <+: front := by
  obtain ⟨after, same⟩ := start
  rcases List.append_eq_append_iff.mp same with ⟨between, rfl, -⟩ | ⟨between, rfl, tail⟩
  · exact List.prefix_append ..
  · cases between with
    | nil => rw [List.append_nil]
    | cons c between =>
      obtain ⟨rfl, -⟩ := List.cons.inj tail
      exact absurd (List.mem_append_right _ (List.mem_cons_self ..)) absent

/-- A text without a mark lies on one side of it. -/
theorem isInfix_or_of_isInfix_append (absent : mark ∉ old) {rest : List Char}
    (inside : old <:+: front ++ mark :: rest) : old <:+: front ∨ old <:+: rest := by
  rcases List.infix_append_iff.mp inside with before | after | ⟨early, late, rfl, ends, starts⟩
  · exact .inl before
  · rcases List.infix_cons_iff.mp after with starts | after
    · rw [List.prefix_nil.mp (isPrefix_of_isPrefix_append absent [] starts)]
      exact .inl List.nil_infix
    · exact .inr after
  · have absent : mark ∉ late := fun member => absent (List.mem_append_right _ member)
    rw [List.prefix_nil.mp (isPrefix_of_isPrefix_append absent [] starts), List.append_nil]
    exact .inl ends.isInfix

/-- What has no earlier occurrence is what is replaced. -/
theorem replaceFirst_append (absent : mark ∉ old) (nowhere : ¬ old <:+: front)
    (new rest : List Char) :
    replaceFirst old new (front ++ mark :: (old ++ rest)) = front ++ mark :: (new ++ rest) := by
  obtain ⟨o, others, some⟩ := List.exists_cons_of_ne_nil
    (show old ≠ [] from fun empty => nowhere (empty ▸ List.nil_infix))
  have here : ∀ after, replaceFirst old new (old ++ after) = new ++ after := by
    intro after
    have found := dropStart?_eq_some_iff.mpr (rfl : old ++ after = old ++ after)
    rw [some, List.cons_append] at found ⊢
    rw [replaceFirst, found]
  have skip : ∀ {c text}, ¬ old <+: c :: text →
      replaceFirst old new (c :: text) = c :: replaceFirst old new text := by
    intro c text other
    rw [replaceFirst, dropStart?_eq_none_iff.mpr other]
  induction front with
  | nil =>
    refine (skip fun start => nowhere ?_).trans (congrArg _ (here rest))
    exact (isPrefix_of_isPrefix_append absent [] start).isInfix
  | cons c front ih =>
    have later : ¬ old <:+: front := fun inside => nowhere (inside.trans (List.infix_cons List.infix_rfl))
    refine (skip fun start => nowhere ?_).trans (congrArg _ (ih later))
    exact (isPrefix_of_isPrefix_append absent (c :: front) start).isInfix

end Replacing

end RoleSecrets.Text
