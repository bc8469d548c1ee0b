import Mathlib.Data.List.TakeWhile
import RoleSecrets.Proofs.Calendar
import RoleSecrets.Proofs.Decimal
import RoleSecrets.Time.Relaxed

/-! # Times are read as they were written

A time in whole seconds comes back without the part below a second, one with decimals comes back
whole. Both need a year of four digits; the former is not read without. The strict and the tolerant
reader go through the same pieces of the text; what the two have in common is the local time that the
pieces make up.
-/

namespace RoleSecrets

namespace Timestamp

/-- Whether an instant lies in the years 0 to 9999 of UTC, those that four digits can name. -/
def HasFourDigitYear (t : Timestamp) : Prop := 0 ≤ t.date.year ∧ t.date.year ≤ 9999

instance (t : Timestamp) : Decidable t.HasFourDigitYear :=
  inferInstanceAs (Decidable (_ ∧ _))

/-- The start of the second an instant lies in; a leap second has a start of its own. -/
def startOfSecond (t : Timestamp) : Timestamp where
  seconds := t.seconds
  nanos := if t.isLeapSecond then 1000000000 else 0
  min_le := t.min_le
  le_max := t.le_max
  nanos_lt := by split <;> omega
  leap_last leap := by
    split at leap
    · rename_i inLeap
      exact t.leap_last (by simpa [isLeapSecond] using inLeap)
    · omega

@[simp] theorem wholeSeconds_startOfSecond (t : Timestamp) :
    t.startOfSecond.wholeSeconds = t.wholeSeconds := rfl

theorem wholeSeconds_le_startOfSecond (t : Timestamp) : t.wholeSeconds ≤ t.startOfSecond :=
  le_def.mpr (.inr ⟨rfl, Nat.zero_le _⟩)

theorem startOfSecond_le (t : Timestamp) : t.startOfSecond ≤ t := by
  refine le_def.mpr (.inr ⟨rfl, ?_⟩)
  change (if t.isLeapSecond then 1000000000 else 0) ≤ t.nanos
  split
  · rename_i leap
    simpa [isLeapSecond] using leap
  · exact Nat.zero_le _

/-- An instant lies within the second that starts where its second does. -/
theorem nanos_lt_startOfSecond (t : Timestamp) : t.nanos < t.startOfSecond.nanos + 1000000000 := by
  have below := t.nanos_lt
  change t.nanos < (if t.isLeapSecond then 1000000000 else 0) + 1000000000
  split
  · omega
  · rename_i noLeap
    simp only [isLeapSecond, decide_eq_true_eq] at noLeap
    omega

theorem le_trans {a b c : Timestamp} (first : a ≤ b) (second : b ≤ c) : a ≤ c := by
  rw [le_def] at first second ⊢
  omega

theorem secondOfDay_lt (t : Timestamp) : t.secondOfDay < 86400 := by
  simp only [secondOfDay]
  omega

/-- In a leap second the clock stands at the last second of a minute. -/
theorem secondOfDay_of_isLeapSecond {t : Timestamp} (leap : t.isLeapSecond = true) :
    t.secondOfDay % 60 = 59 := by
  have last := t.leap_last (by simpa [isLeapSecond] using leap)
  simp only [secondOfDay]
  omega

/-- The second that a clock shows; 60 in a leap second. -/
def clockSecond (t : Timestamp) : Nat := t.secondOfDay % 60 + (if t.isLeapSecond then 1 else 0)

theorem clockSecond_le (t : Timestamp) : t.clockSecond ≤ 60 := by
  simp only [clockSecond]
  split <;> omega

theorem ofPair?_eq_some (t : Timestamp) : ofPair? t.seconds t.nanos = some t := by
  rw [ofPair?, dif_pos ⟨⟨t.min_le, t.le_max⟩, t.nanos_lt, t.leap_last⟩]

end Timestamp

namespace Rfc3339

open Decimal

/-- The local time that the clock of an instant shows in UTC, with a part below the second. -/
def clockTime (t : Timestamp) (nanos : Nat) : Local :=
  ⟨t.date, t.secondOfDay / 3600, t.secondOfDay / 60 % 60, t.clockSecond, nanos⟩

/-- What a clock shows in UTC stands for the instant, up to the part below the second. -/
theorem instant?_clockTime {t : Timestamp} (inYears : t.HasFourDigitYear) (nanos : Nat) :
    (clockTime t nanos).instant? 0 = Timestamp.ofPair? t.seconds
      (if t.isLeapSecond then 1000000000 + nanos else nanos) := by
  have valid : t.date.isValid = true := Time.Date.ofDayNumber_isValid _
  have number : t.date.dayNumber = t.seconds / 86400 + Time.epochDay :=
    Time.Date.dayNumber_ofDayNumber _
  have inDay := t.secondOfDay_lt
  have second := t.clockSecond_le
  have total : ((t.secondOfDay : Nat) : Int) = t.seconds % 86400 := by
    simp only [Timestamp.secondOfDay]
    omega
  obtain ⟨lower, upper⟩ := inYears
  rw [Local.instant?, if_pos]
  · simp only [clockTime, number]
    by_cases leap : t.isLeapSecond = true
    · have last := Timestamp.secondOfDay_of_isLeapSecond leap
      have shown : t.clockSecond = 60 := by simp [Timestamp.clockSecond, leap, last]
      simp only [shown, leap, if_true]
      congr 1
      omega
    · have shown : t.clockSecond = t.secondOfDay % 60 := by simp [Timestamp.clockSecond, leap]
      have below : t.clockSecond ≠ 60 := by omega
      simp only [below, leap, if_false, Bool.false_eq_true]
      rw [shown]
      congr 1
      omega
  · simp only [Bool.and_eq_true, decide_eq_true_eq]
    refine ⟨⟨⟨⟨valid, ?_, ?_⟩, ?_⟩, ?_⟩, second⟩ <;> simp only [clockTime] <;> omega

/-- The pieces of a time's text up to the second, and what follows. -/
theorem clock_append {t : Timestamp} (inYears : t.HasFourDigitYear) (tail : List Char) :
    clock t ++ tail = fixed 4 t.date.year.toNat ++ '-' :: (fixed 2 t.date.month ++ '-' ::
      (fixed 2 t.date.day ++ 'T' :: (fixed 2 (t.secondOfDay / 3600) ++ ':' ::
        (fixed 2 (t.secondOfDay / 60 % 60) ++ ':' :: (fixed 2 t.clockSecond ++ tail))))) := by
  simp only [clock, year, inYears.1, inYears.2, and_self, if_true, List.append_assoc,
    List.cons_append, Timestamp.clockSecond]

/-- The bounds under which the pieces of a time's text have the widths they are given. -/
theorem clock_bounds {t : Timestamp} (inYears : t.HasFourDigitYear) :
    t.date.year.toNat < 10 ^ 4 ∧ t.date.month < 10 ^ 2 ∧ t.date.day < 10 ^ 2 ∧
      t.secondOfDay / 3600 < 10 ^ 2 ∧ t.secondOfDay / 60 % 60 < 10 ^ 2 ∧
        t.clockSecond < 10 ^ 2 := by
  have date := Time.Date.bounds_of_isValid
    (Time.Date.ofDayNumber_isValid (t.seconds / 86400 + Time.epochDay))
  change 1 ≤ t.date.month ∧ t.date.month ≤ 12 ∧ 1 ≤ t.date.day ∧ t.date.day ≤ 31 at date
  have inDay := t.secondOfDay_lt
  have second := t.clockSecond_le
  obtain ⟨lower, upper⟩ := inYears
  omega

theorem readDigits?_fixed {width n : Nat} (fits : n < 10 ^ width) (rest : List Char) :
    readDigits? width (fixed width n ++ rest) = some (n, rest) := by
  have long : ¬ (fixed width n ++ rest).length < width := by simp
  rw [readDigits?, if_neg long, List.take_left' (length_fixed width n),
    List.drop_left' (length_fixed width n), readOn_fixed, Nat.mod_eq_of_lt fits]
  simp

@[simp] theorem readChar?_cons (c : Char) (rest : List Char) : readChar? c (c :: rest) = some rest := by
  simp [readChar?]

theorem readChar?_orElse (c : Char) (rest : List Char) (other : Option (List Char)) :
    (readChar? c (c :: rest) <|> other) = some rest := by
  rw [readChar?_cons]
  rfl

/-- Once a piece has been read, reading goes on with what follows it. -/
theorem bind_of_eq_some {α β : Type} {piece : Option α} {a : α} (read : piece = some a)
    (next : α → Option β) : (piece >>= next) = next a := by
  rw [read]
  rfl

/-- Reading strictly comes down to reading what follows the clock. -/
theorem parseChars?_clock {t : Timestamp} (inYears : t.HasFourDigitYear) (tail : List Char) :
    parseChars? (clock t ++ tail) = (do
      let (nanos, text) ← readDecimals? tail
      let offset ← readOffset? text
      (clockTime t nanos).instant? offset) := by
  obtain ⟨years, months, days, hours, minutes, seconds⟩ := clock_bounds inYears
  have year : ((t.date.year.toNat : Nat) : Int) = t.date.year := Int.toNat_of_nonneg inYears.1
  rw [clock_append inYears, parseChars?]
  -- piece by piece from the front, so that what follows is not looked at before its turn
  simp only [↓bind_of_eq_some (readDigits?_fixed years _),
    ↓bind_of_eq_some (readDigits?_fixed months _), ↓bind_of_eq_some (readDigits?_fixed days _),
    ↓bind_of_eq_some (readDigits?_fixed hours _), ↓bind_of_eq_some (readDigits?_fixed minutes _),
    ↓bind_of_eq_some (readDigits?_fixed seconds _), ↓bind_of_eq_some (readChar?_cons _ _),
    ↓bind_of_eq_some (readChar?_orElse _ _ _), year]
  rfl

/-- A time in whole seconds comes back as the start of its second. -/
theorem parse?_format {t : Timestamp} (inYears : t.HasFourDigitYear) :
    parse? (format t) = some t.startOfSecond := by
  rw [parse?, format, String.toList_ofList, parseChars?_clock inYears]
  have none : readDecimals? ['Z'] = some (0, ['Z']) := rfl
  have utc : readOffset? ['Z'] = some 0 := rfl
  simp only [none, utc, Option.bind_eq_bind, Option.bind_some]
  rw [instant?_clockTime inYears, ← Timestamp.ofPair?_eq_some t.startOfSecond]
  rfl

/-- A written time stands on one line. -/
theorem newline_notMem_format (t : Timestamp) : '\n' ∉ (format t).toList := by
  have fixed {width n : Nat} : '\n' ∉ fixed width n := fun member =>
    absurd (isDigit_of_mem_fixed member) (by decide)
  have padded {width n : Nat} : '\n' ∉ padded width n := fun member =>
    absurd (isDigit_of_mem_padded member) (by decide)
  have years (y : Int) : '\n' ∉ year y := by
    unfold year
    split
    · exact fixed
    · rw [List.mem_cons, not_or]
      exact ⟨by split <;> decide, padded⟩
  simp [format, clock, years, fixed]

/-- A year that has a sign is not read. -/
theorem parse?_format_eq_none {t : Timestamp} (outside : ¬ t.HasFourDigitYear) :
    parse? (format t) = none := by
  have signed : year t.date.year =
      (if t.date.year < 0 then '-' else '+') :: padded 4 t.date.year.natAbs := if_neg outside
  obtain ⟨rest, text⟩ : ∃ rest, clock t ++ ['Z'] =
      (if t.date.year < 0 then '-' else '+') :: rest := by
    simp only [clock, signed, List.cons_append]
    exact ⟨_, rfl⟩
  have noDigit : digitValue? (if t.date.year < 0 then '-' else '+') = none := by split <;> rfl
  have unread : readDigits? 4 ((if t.date.year < 0 then '-' else '+') :: rest) = none := by
    rw [readDigits?, List.take_succ_cons, readOn, noDigit]
    exact ite_self none
  rw [parse?, format, String.toList_ofList, text, parseChars?, unread]
  rfl

/-- Reading decimals off one after the other, as `nanosOfDecimals` does. -/
private theorem foldl_fixed (value width n : Nat) :
    (fixed width n).foldl (fun n c => 10 * n + (c.toNat - 48)) value =
      value * 10 ^ width + n % 10 ^ width := by
  induction width generalizing n with
  | zero => simp [fixed, Nat.mod_one]
  | succ width ih =>
    rw [fixed, List.foldl_append, ih, List.foldl_cons, List.foldl_nil, toNat_digitChar,
      Nat.add_sub_cancel_left, Nat.pow_succ', Nat.mod_mul]
    ring

private theorem foldl_zeros (value count : Nat) :
    (List.replicate count '0').foldl (fun n c => 10 * n + (c.toNat - 48)) value =
      value * 10 ^ count := by
  induction count generalizing value with
  | zero => simp
  | succ count ih =>
    rw [List.replicate_succ, List.foldl_cons, ih]
    change (10 * value + 0) * 10 ^ count = value * 10 ^ (count + 1)
    ring

/-- Decimals of a given width stand for as many leading digits of nine. -/
theorem nanosOfDecimals_fixed {width n : Nat} (short : width ≤ 9) (fits : n < 10 ^ width) :
    nanosOfDecimals (fixed width n) = n * 10 ^ (9 - width) := by
  rw [nanosOfDecimals, List.take_of_length_le (by simpa using short), length_fixed,
    List.foldl_append, foldl_fixed, foldl_zeros, Nat.mod_eq_of_lt fits, Nat.zero_mul, Nat.zero_add]

private theorem readDecimals?_fixed {width n : Nat} (long : 0 < width) (short : width ≤ 9)
    (fits : n < 10 ^ width) :
    readDecimals? ('.' :: (fixed width n ++ ['Z'])) = some (n * 10 ^ (9 - width), ['Z']) := by
  have digits : ∀ c ∈ fixed width n, c.isDigit = true := fun _ member => isDigit_of_mem_fixed member
  have some : fixed width n ≠ [] := by
    intro empty
    have := congrArg List.length empty
    rw [length_fixed, List.length_nil] at this
    omega
  have taken : (fixed width n ++ ['Z']).takeWhile Char.isDigit = fixed width n := by
    rw [List.takeWhile_append_of_pos digits]
    exact List.append_nil _
  have left : (fixed width n ++ ['Z']).dropWhile Char.isDigit = ['Z'] :=
    List.dropWhile_append_of_pos digits
  simp only [readDecimals?, taken, left, some, if_false, nanosOfDecimals_fixed short fits]

/-- The decimals of a second come back, whichever width they are written in. -/
theorem readDecimals?_decimals {nanos : Nat} (below : nanos < 1000000000) :
    readDecimals? (decimals nanos ++ ['Z']) = some (nanos, ['Z']) := by
  simp only [decimals]
  split_ifs with whole millis micros
  · subst whole
    rfl
  · rw [List.cons_append, readDecimals?_fixed (by decide) (by decide) (by omega)]
    simp only [Option.some.injEq, Prod.mk.injEq, and_true]
    omega
  · rw [List.cons_append, readDecimals?_fixed (by decide) (by decide) (by omega)]
    simp only [Option.some.injEq, Prod.mk.injEq, and_true]
    omega
  · rw [List.cons_append, readDecimals?_fixed (by decide) (by decide) (by omega)]
    simp

end Rfc3339

namespace Relaxed

open Decimal Rfc3339 Text

/-- What starts with a digit has no blanks at its start. -/
theorem trimStart_of_isDigit {c : Char} {rest : List Char} (digit : c.isDigit = true) :
    trimStart (c :: rest) = c :: rest := by
  simp [trimStart, isBlank_of_isDigit digit]

private theorem fixed_succ_eq_cons (width n : Nat) :
    ∃ c rest, fixed (width + 1) n = c :: rest ∧ c.isDigit = true := by
  cases same : fixed (width + 1) n with
  | nil => exact absurd (congrArg List.length same) (by simp)
  | cons c rest => exact ⟨c, rest, rfl, isDigit_of_mem_fixed (same ▸ List.mem_cons_self ..)⟩

theorem readUpTo?_fixed {width n : Nat} (long : 0 < width) (fits : n < 10 ^ width) (rest : List Char) :
    readUpTo? width (fixed width n ++ rest) = some (n, rest) := by
  have digits : ∀ c ∈ fixed width n, c.isDigit = true := fun _ member => isDigit_of_mem_fixed member
  have some : fixed width n ≠ [] := by
    intro empty
    have := congrArg List.length empty
    rw [length_fixed, List.length_nil] at this
    omega
  have taken : ((fixed width n ++ rest).take width).takeWhile Char.isDigit = fixed width n := by
    rw [List.take_left' (length_fixed width n), List.takeWhile_eq_self_iff.mpr digits]
  simp only [readUpTo?, taken, readNat?, some, if_false, readOn_fixed, length_fixed,
    List.drop_left' (length_fixed width n), Nat.mod_eq_of_lt fits]
  simp

theorem readField?_fixed {n : Nat} (fits : n < 10 ^ 2) (rest : List Char) :
    readField? (fixed 2 n ++ rest) = some (n, rest) := by
  obtain ⟨c, others, same, digit⟩ := fixed_succ_eq_cons 1 n
  rw [readField?, same, List.cons_append, trimStart_of_isDigit digit, ← List.cons_append, ← same,
    readUpTo?_fixed (by decide) fits]

theorem readYear?_fixed {n : Nat} (fits : n < 10 ^ 4) (rest : List Char) :
    readYear? (fixed 4 n ++ rest) = some ((n : Int), rest) := by
  obtain ⟨c, others, same, digit⟩ := fixed_succ_eq_cons 3 n
  have read := readUpTo?_fixed (by decide) fits rest
  rw [same, List.cons_append] at read ⊢
  rw [readYear?, trimStart_of_isDigit digit]
  split
  · rename_i minus
    cases minus
    exact absurd digit (by decide)
  · rename_i plus
    cases plus
    exact absurd digit (by decide)
  · rw [read]
    rfl

theorem readMark?_cons {c : Char} (mark : isBlank c = false) (rest : List Char) :
    readMark? c (c :: rest) = some rest := by
  simp [readMark?, trimStart, mark]

/-- A time with its decimals comes back whole. -/
theorem parse?_formatExact {t : Timestamp} (inYears : t.HasFourDigitYear) :
    parse? (formatExact t) = some t := by
  obtain ⟨years, months, days, hours, minutes, seconds⟩ := clock_bounds inYears
  have year : ((t.date.year.toNat : Nat) : Int) = t.date.year := Int.toNat_of_nonneg inYears.1
  have dash : isBlank '-' = false := by decide
  have colon : isBlank ':' = false := by decide
  have nanos := readDecimals?_decimals (Nat.mod_lt t.nanos (show 0 < 1000000000 by decide))
  have utc : readZone? (trimStart ['Z']) = some (0, []) := by decide
  have instant : (clockTime t (t.nanos % 1000000000)).instant? 0 = some t := by
    rw [instant?_clockTime inYears, ← Timestamp.ofPair?_eq_some t]
    have bound := t.nanos_lt
    congr 1
    by_cases leap : t.isLeapSecond = true
    · rw [if_pos leap]
      simp only [Timestamp.isLeapSecond, decide_eq_true_eq] at leap
      omega
    · rw [if_neg leap]
      simp only [Timestamp.isLeapSecond, decide_eq_true_eq] at leap
      omega
  rw [parse?, formatExact, String.toList_ofList, List.append_assoc, clock_append inYears]
  simp only [↓bind_of_eq_some (readYear?_fixed years _),
    ↓bind_of_eq_some (readField?_fixed months _), ↓bind_of_eq_some (readField?_fixed days _),
    ↓bind_of_eq_some (readField?_fixed hours _), ↓bind_of_eq_some (readField?_fixed minutes _),
    ↓bind_of_eq_some (readField?_fixed seconds _), ↓bind_of_eq_some (readMark?_cons dash _),
    ↓bind_of_eq_some (readMark?_cons colon _), ↓bind_of_eq_some (readChar?_orElse _ _ _),
    ↓bind_of_eq_some nanos, ↓bind_of_eq_some utc, year]
  exact instant

end Relaxed

end RoleSecrets
