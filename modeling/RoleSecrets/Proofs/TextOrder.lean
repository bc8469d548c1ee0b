import Mathlib.Data.List.Lex

/-! # The order of texts

Texts are ordered by their characters. This is the order of their UTF-8 bytes: where two characters
differ so do their encodings, within the bytes of both, and the greater character has the greater
byte there.
-/

namespace RoleSecrets.Text

def bytes (text : String) : List UInt8 := text.toUTF8.data.toList

theorem bytes_eq (text : String) : bytes text = text.toList.flatMap String.utf8EncodeChar := by
  rw [bytes, String.toUTF8_eq_toByteArray]
  conv => lhs; rw [← String.ofList_toList (s := text)]
  rw [String.toByteArray_ofList, List.utf8Encode, List.data_toByteArray]

/-- Whether some bytes come before others, whatever follows on either side. -/
def Precedes (first second : List UInt8) : Prop :=
  ∀ more more', first ++ more < second ++ more'

theorem Precedes.of_first {m n : Nat} (less : m < n) (small : n < 256) (xs ys : List UInt8) :
    Precedes (UInt8.ofNat m :: xs) (UInt8.ofNat n :: ys) := by
  intro more more'
  have first : UInt8.ofNat m < UInt8.ofNat n := by
    rw [UInt8.lt_iff_toNat_lt, UInt8.toNat_ofNat', UInt8.toNat_ofNat']
    omega
  exact List.cons_lt_cons_iff.mpr (.inl first)

/-- The byte for the last six bits of a number, after those for the others. -/
def lastByte (n : Nat) : UInt8 := UInt8.ofNat (n % 0x40 + 0x80)

/-- The last six bits matter where the others are the same. -/
theorem Precedes.last {m n : Nat} (less : m < n) {xs ys : List UInt8}
    (earlier : m / 64 < n / 64 → Precedes xs ys) (same : m / 64 = n / 64 → xs = ys) :
    Precedes (xs ++ [lastByte m]) (ys ++ [lastByte n]) := by
  intro more more'
  rw [List.append_assoc, List.append_assoc]
  rcases Nat.lt_or_eq_of_le (Nat.div_le_div_right (c := 64) less.le) with front | front
  · exact earlier front _ _
  · rw [same front]
    have byte : Precedes [lastByte m] [lastByte n] :=
      of_first (by omega) (by omega) [] []
    exact List.append_left_lt (byte more more')

/-- How a number is written in one to four bytes. -/
inductive Encoding (n : Nat) : List UInt8 → Prop
  | one (fits : n ≤ 0x7f) : Encoding n [UInt8.ofNat n]
  | two (more : 0x7f < n) (fits : n ≤ 0x7ff) :
      Encoding n ([UInt8.ofNat (n / 64 % 0x20 + 0xc0)] ++ [lastByte n])
  | three (more : 0x7ff < n) (fits : n ≤ 0xffff) :
      Encoding n ([UInt8.ofNat (n / 64 / 64 % 0x10 + 0xe0)] ++ [lastByte (n / 64)] ++ [lastByte n])
  | four (more : 0xffff < n) :
      Encoding n ([UInt8.ofNat (n / 64 / 64 / 64 % 0x08 + 0xf0)] ++ [lastByte (n / 64 / 64)] ++
        [lastByte (n / 64)] ++ [lastByte n])

theorem encoding_utf8EncodeChar (c : Char) : Encoding c.val.toNat (String.utf8EncodeChar c) := by
  fun_cases String.utf8EncodeChar with
  | case1 _ fits => exact .one fits
  | case2 _ more fits => exact .two (Nat.lt_of_not_le more) fits
  | case3 n _ more fits =>
    rw [← Nat.div_div_eq_div_mul n 64 64]
    exact .three (Nat.lt_of_not_le more) fits
  | case4 n _ _ more =>
    rw [← Nat.div_div_eq_div_mul n (64 * 64) 64, ← Nat.div_div_eq_div_mul n 64 64]
    exact .four (Nat.lt_of_not_le more)

/-- The smaller of two numbers comes first, in fewer bytes or by the first that differs. -/
theorem Encoding.precedes {m n : Nat} {xs ys : List UInt8} (first : Encoding m xs)
    (second : Encoding n ys) (less : m < n) (small : n < 0x110000) : Precedes xs ys := by
  cases first with
  | one fits =>
    cases second with
    | one fits' => exact .of_first less (by omega) _ _
    | _ => exact .of_first (by omega) (by omega) _ _
  | two more fits =>
    cases second with
    | one fits' => omega
    | two =>
      refine .last less (fun less => ?_) fun same => by rw [same]
      exact .of_first (by omega) (by omega) _ _
    | _ => exact .of_first (by omega) (by omega) _ _
  | three more fits =>
    cases second with
    | three =>
      refine .last less (fun less => .last less (fun less => ?_) ?_) fun same => by rw [same]
      · exact .of_first (by omega) (by omega) _ _
      · exact fun same => by rw [same]
    | four => exact .of_first (by omega) (by omega) _ _
    | _ => omega
  | four more =>
    cases second with
    | four =>
      refine .last less (fun less => .last less (fun less => .last less (fun less => ?_) ?_) ?_)
        fun same => by rw [same]
      · exact .of_first (by omega) (by omega) _ _
      all_goals exact fun same => by rw [same]
    | _ => omega

theorem flatMap_utf8EncodeChar_lt {a b : List Char} (less : a < b) :
    a.flatMap String.utf8EncodeChar < b.flatMap String.utf8EncodeChar := by
  induction b generalizing a with
  | nil => exact absurd less (List.not_lt_nil a)
  | cons d b ih =>
    cases a with
    | nil =>
      rw [List.flatMap_nil, List.flatMap_cons]
      cases encoded : String.utf8EncodeChar d with
      | nil => exact absurd encoded String.utf8EncodeChar_ne_nil
      | cons byte more => exact List.nil_lt_cons ..
    | cons c a =>
      rw [List.flatMap_cons, List.flatMap_cons]
      rcases List.cons_lt_cons_iff.mp less with first | ⟨rfl, rest⟩
      · have small : d.val.toNat < 0x110000 := d.valid.elim (fun low => by omega) And.right
        exact (encoding_utf8EncodeChar c).precedes (encoding_utf8EncodeChar d) first small _ _
      · exact List.append_left_lt (ih rest)

/-- The smaller of two texts has the smaller bytes. -/
theorem bytes_lt_bytes {a b : String} (less : a < b) : bytes a < bytes b := by
  rw [bytes_eq, bytes_eq]
  exact flatMap_utf8EncodeChar_lt less

end RoleSecrets.Text
