import RoleSecrets.Time.Calendar

/-! # Instants

An instant is a second since 1970 with nanoseconds. A leap second is the second before it with a
thousand million nanoseconds more, so it only follows the last second of a minute. Instants are
ordered by the pair, and lie in the years -262143 to 262142.
-/

namespace RoleSecrets

/-- The first second of the year -262143. -/
def Timestamp.minSeconds : Int := -8334601228800

/-- The last second of the year 262142. -/
def Timestamp.maxSeconds : Int := 8210266876799

/-- An instant, in seconds since 1970 and nanoseconds. -/
structure Timestamp where
  seconds : Int
  nanos : Nat
  min_le : Timestamp.minSeconds ≤ seconds
  le_max : seconds ≤ Timestamp.maxSeconds
  nanos_lt : nanos < 2000000000
  leap_last : 1000000000 ≤ nanos → seconds % 60 = 59
deriving DecidableEq, Repr

namespace Timestamp

/-- The instant of a pair of seconds and nanoseconds, where it is one. -/
def ofPair? (seconds : Int) (nanos : Nat) : Option Timestamp :=
  if h : (minSeconds ≤ seconds ∧ seconds ≤ maxSeconds) ∧
      nanos < 2000000000 ∧ (1000000000 ≤ nanos → seconds % 60 = 59) then
    some ⟨seconds, nanos, h.1.1, h.1.2, h.2.1, h.2.2⟩
  else none

@[ext] theorem ext {a b : Timestamp} (seconds : a.seconds = b.seconds) (nanos : a.nanos = b.nanos) :
    a = b := by
  cases a; cases b; simp_all

def epoch : Timestamp := ⟨0, 0, by decide, by decide, by decide, by decide⟩

instance : Inhabited Timestamp := ⟨epoch⟩

/-- Instants are ordered by second, then by nanosecond. -/
protected def le (a b : Timestamp) : Prop :=
  a.seconds < b.seconds ∨ (a.seconds = b.seconds ∧ a.nanos ≤ b.nanos)

instance : LE Timestamp := ⟨Timestamp.le⟩

theorem le_def {a b : Timestamp} :
    a ≤ b ↔ a.seconds < b.seconds ∨ (a.seconds = b.seconds ∧ a.nanos ≤ b.nanos) := Iff.rfl

instance (a b : Timestamp) : Decidable (a ≤ b) :=
  inferInstanceAs (Decidable (_ ∨ _))

/-- The instant with the part below a second dropped; of a leap second, the second before it. -/
def wholeSeconds (t : Timestamp) : Timestamp :=
  ⟨t.seconds, 0, t.min_le, t.le_max, by decide, by simp⟩

/-- The longest span, in seconds, that can be added to an instant. -/
def maxSpan : Nat := 9223372036854775

/-- The instant a number of seconds later, where there is one. A leap second is left for the
second after it. -/
def add? (t : Timestamp) (span : Nat) : Option Timestamp :=
  if span > maxSpan then none
  else if span = 0 then some t
  else if t.nanos < 1000000000 then ofPair? (t.seconds + span) t.nanos
  else ofPair? (t.seconds + span) (t.nanos - 1000000000)

def date (t : Timestamp) : Time.Date :=
  Time.Date.ofDayNumber (t.seconds / 86400 + Time.epochDay)

/-- The second of the day of an instant; a leap second shares that of the second before it. -/
def secondOfDay (t : Timestamp) : Nat :=
  (t.seconds % 86400).toNat

/-- Whether an instant lies in a leap second. -/
def isLeapSecond (t : Timestamp) : Bool := 1000000000 ≤ t.nanos

end Timestamp

end RoleSecrets
