/-! # Days and dates of the Gregorian calendar

Days are numbered from 1 January of the year 0, backwards too, with the leap years of the Gregorian
calendar for every year. `Date.dayNumber` and `Date.ofDayNumber` go from a date to its number and
back.
-/

namespace RoleSecrets.Time

/-- A year has a 29 February when it is a multiple of 4, centuries apart unless multiples of 400. -/
def isLeapYear (year : Int) : Bool :=
  (year % 4 = 0 && year % 100 ≠ 0) || year % 400 = 0

/-- The number of the first day of a year: 365 for each year before it and one for each leap day. -/
def firstDay (year : Int) : Int :=
  365 * year + (year + 3) / 4 - (year + 99) / 100 + (year + 399) / 400

/-- The lengths of the twelve months of a year. -/
def monthLengths (year : Int) : List Nat :=
  [31, if isLeapYear year then 29 else 28, 31, 30, 31, 30, 31, 31, 30, 31, 30, 31]

/-- The year a day lies in: the average length of a year gives it up to one. -/
def yearOf (day : Int) : Int :=
  let guess := 400 * day / 146097
  if day < firstDay guess then guess - 1
  else if firstDay (guess + 1) ≤ day then guess + 1
  else guess

/-- The zero-based month and day of the month of a zero-based day of a year with these months. -/
def splitDay : (lengths : List Nat) → (day : Nat) → Nat × Nat
  | [], day => (0, day)
  | length :: lengths, day =>
      if day < length then (0, day)
      else
        let (month, rest) := splitDay lengths (day - length)
        (month + 1, rest)

/-- A date; months and days of the month count from 1. -/
structure Date where
  year : Int
  month : Nat
  day : Nat
deriving DecidableEq, Repr

def Date.isValid (d : Date) : Bool :=
  1 ≤ d.month && 1 ≤ d.day && d.day ≤ (monthLengths d.year).getD (d.month - 1) 0

def Date.dayNumber (d : Date) : Int :=
  firstDay d.year + (((monthLengths d.year).take (d.month - 1)).foldl (· + ·) 0 + (d.day - 1) : Nat)

def Date.ofDayNumber (day : Int) : Date :=
  let year := yearOf day
  let (month, rest) := splitDay (monthLengths year) (day - firstDay year).toNat
  ⟨year, month + 1, rest + 1⟩

/-- The number of 1 January 1970. -/
def epochDay : Int := 719528

end RoleSecrets.Time
