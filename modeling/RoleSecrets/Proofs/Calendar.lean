import Mathlib.Data.List.GetD
import Mathlib.Tactic.SplitIfs
import RoleSecrets.Time.Calendar

/-! # The calendar loses no day

Every day has a date, the date exists in its year, and its number is the day's. The year is found
from an average length and corrected by one at most; the month from the running sum of lengths.
-/

namespace RoleSecrets.Time

/-- The number of days of a year. -/
def yearLength (year : Int) : Nat := if isLeapYear year then 366 else 365

theorem firstDay_succ (year : Int) : firstDay (year + 1) = firstDay year + yearLength year := by
  simp only [firstDay, yearLength]
  by_cases leap : isLeapYear year = true
  · simp only [leap, if_true]
    simp only [isLeapYear, Bool.or_eq_true, Bool.and_eq_true, decide_eq_true_eq, ne_eq] at leap
    omega
  · simp only [leap, Bool.false_eq_true, if_false]
    simp only [isLeapYear, Bool.or_eq_true, Bool.and_eq_true, decide_eq_true_eq, ne_eq] at leap
    omega

/-- Years lie after one another. -/
theorem firstDay_lt_succ (year : Int) : firstDay year + 365 ≤ firstDay (year + 1) := by
  rw [firstDay_succ, yearLength]
  split <;> omega

/-- The average length of a year leads to a guess that is off by one at most. -/
private theorem guess_bounds (day : Int) :
    firstDay (400 * day / 146097) ≤ day + 1 ∧ day ≤ firstDay (400 * day / 146097 + 1) := by
  simp only [firstDay]
  omega

theorem firstDay_yearOf_le (day : Int) : firstDay (yearOf day) ≤ day := by
  have bounds := guess_bounds day
  simp only [yearOf]
  generalize 400 * day / 146097 = guess at bounds ⊢
  have before := firstDay_lt_succ (guess - 1)
  rw [Int.sub_add_cancel] at before
  split_ifs <;> omega

theorem lt_firstDay_yearOf_succ (day : Int) : day < firstDay (yearOf day + 1) := by
  have bounds := guess_bounds day
  simp only [yearOf]
  generalize 400 * day / 146097 = guess at bounds ⊢
  have after := firstDay_lt_succ (guess + 1)
  split_ifs
  · rw [Int.sub_add_cancel]
    assumption
  · omega
  · omega

theorem sum_monthLengths (year : Int) : (monthLengths year).foldl (· + ·) 0 = yearLength year := by
  simp only [monthLengths, yearLength]
  split <;> rfl

/-- Adding up lengths from a start is the start and their sum. -/
private theorem foldl_add_eq (lengths : List Nat) (start : Nat) :
    lengths.foldl (· + ·) start = start + lengths.foldl (· + ·) 0 := by
  induction lengths generalizing start with
  | nil => rfl
  | cons length lengths ih =>
    rw [List.foldl_cons, List.foldl_cons, ih (start + length), ih (0 + length)]
    omega

/-- A day within the sum of the lengths falls into one of the months, after all those before it. -/
theorem splitDay_spec {lengths : List Nat} {day : Nat} (within : day < lengths.foldl (· + ·) 0) :
    (splitDay lengths day).2 < lengths.getD (splitDay lengths day).1 0 ∧
      (lengths.take (splitDay lengths day).1).foldl (· + ·) 0 + (splitDay lengths day).2 = day := by
  induction lengths generalizing day with
  | nil => simp at within
  | cons length lengths ih =>
    rw [List.foldl_cons, foldl_add_eq] at within
    by_cases here : day < length
    · simp [splitDay, here]
    · obtain ⟨fits, total⟩ := ih (show day - length < lengths.foldl (· + ·) 0 by omega)
      simp only [splitDay, here, if_false, List.getD_cons_succ, List.take_succ_cons, List.foldl_cons]
      refine ⟨fits, ?_⟩
      rw [foldl_add_eq]
      omega

namespace Date

/-- The day of the year lies within the months of the year. -/
private theorem dayOfYear_lt (day : Int) :
    (day - firstDay (yearOf day)).toNat < (monthLengths (yearOf day)).foldl (· + ·) 0 := by
  have lower := firstDay_yearOf_le day
  have upper := lt_firstDay_yearOf_succ day
  rw [firstDay_succ] at upper
  rw [sum_monthLengths]
  omega

theorem ofDayNumber_isValid (day : Int) : (ofDayNumber day).isValid = true := by
  have fits := (splitDay_spec (dayOfYear_lt day)).1
  simpa [isValid, ofDayNumber, Nat.succ_le_iff] using fits

/-- The date of a day has that day's number. -/
theorem dayNumber_ofDayNumber (day : Int) : (ofDayNumber day).dayNumber = day := by
  have total := (splitDay_spec (dayOfYear_lt day)).2
  have lower := firstDay_yearOf_le day
  simp only [dayNumber, ofDayNumber, Nat.add_sub_cancel]
  omega

private theorem monthLengths_le (year : Int) : ∀ length ∈ monthLengths year, length ≤ 31 := by
  simp only [monthLengths]
  split <;> decide

/-- Months are at most twelve and days at most 31. -/
theorem bounds_of_isValid {d : Date} (valid : d.isValid = true) :
    1 ≤ d.month ∧ d.month ≤ 12 ∧ 1 ≤ d.day ∧ d.day ≤ 31 := by
  simp only [isValid, Bool.and_eq_true, decide_eq_true_eq] at valid
  obtain ⟨⟨month, day⟩, fits⟩ := valid
  have twelve : d.month - 1 < (monthLengths d.year).length := by
    apply Nat.lt_of_not_le
    intro above
    rw [List.getD_eq_default _ _ above] at fits
    omega
  rw [List.getD_eq_getElem _ _ twelve] at fits
  have most := monthLengths_le d.year _ (List.getElem_mem twelve)
  simp only [monthLengths, List.length_cons, List.length_nil] at twelve
  omega

end Date

end RoleSecrets.Time
