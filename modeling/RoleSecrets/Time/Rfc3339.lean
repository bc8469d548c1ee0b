import RoleSecrets.Text.Basic
import RoleSecrets.Text.Decimal
import RoleSecrets.Time.Timestamp

/-! # RFC 3339 times

`format` writes whole seconds and `formatExact` the fewest groups of three decimals that hold the
value, both in UTC with a closing `Z`. A leap second is written as second 60; a year that does not
fit four digits has a sign. `parse?` reads times with four-digit years and any offset.
-/

namespace RoleSecrets.Rfc3339

open Decimal

/-- A year in four digits; others have a sign and at least four digits. -/
def year (y : Int) : List Char :=
  if 0 ≤ y ∧ y ≤ 9999 then fixed 4 y.toNat
  else (if y < 0 then '-' else '+') :: padded 4 y.natAbs

/-- The date, the hour, the minute and the second of an instant. -/
def clock (t : Timestamp) : List Char :=
  let d := t.date
  let s := t.secondOfDay
  let second := s % 60 + (if t.isLeapSecond then 1 else 0)
  year d.year ++ '-' :: fixed 2 d.month ++ '-' :: fixed 2 d.day ++
    'T' :: fixed 2 (s / 3600) ++ ':' :: fixed 2 (s / 60 % 60) ++ ':' :: fixed 2 second

/-- The decimals of a second: none, three, six or nine, as few as hold the value. -/
def decimals (nanos : Nat) : List Char :=
  if nanos = 0 then []
  else if nanos % 1000000 = 0 then '.' :: fixed 3 (nanos / 1000000)
  else if nanos % 1000 = 0 then '.' :: fixed 6 (nanos / 1000)
  else '.' :: fixed 9 nanos

/-- An instant in whole seconds. -/
def format (t : Timestamp) : String :=
  String.ofList (clock t ++ ['Z'])

def formatExact (t : Timestamp) : String :=
  String.ofList (clock t ++ decimals (t.nanos % 1000000000) ++ ['Z'])

/-- A number of exactly `width` digits at the start of a text, and the rest. -/
def readDigits? (width : Nat) (text : List Char) : Option (Nat × List Char) :=
  if text.length < width then none
  else (readOn 0 (text.take width)).map fun n => (n, text.drop width)

/-- The rest of a text that starts with a given character. -/
def readChar? (c : Char) : List Char → Option (List Char)
  | [] => none
  | d :: rest => if d = c then some rest else none

/-- The nanoseconds of a run of decimals: the first nine count. -/
def nanosOfDecimals (ds : List Char) : Nat :=
  ((ds.take 9 ++ List.replicate (9 - ds.length) '0').foldl
    (fun n c => 10 * n + (c.toNat - 48)) 0)

/-- The decimals of a second, where a point introduces them, and the rest. -/
def readDecimals? : List Char → Option (Nat × List Char)
  | '.' :: rest =>
      let ds := rest.takeWhile Char.isDigit
      if ds = [] then none else some (nanosOfDecimals ds, rest.dropWhile Char.isDigit)
  | text => some (0, text)

/-- A date and a time of day as written, before the offset from UTC is taken off. -/
structure Local where
  date : Time.Date
  hour : Nat
  minute : Nat
  second : Nat
  nanos : Nat

/-- The instant of a local time that is `offset` seconds ahead of UTC. Second 60 is the leap second
after second 59. -/
def Local.instant? (l : Local) (offset : Int) : Option Timestamp :=
  if l.date.isValid && (-262143 ≤ l.date.year && l.date.year ≤ 262142) &&
      l.hour ≤ 23 && l.minute ≤ 59 && l.second ≤ 60 then
    let second := if l.second = 60 then 59 else l.second
    let nanos := if l.second = 60 then 1000000000 + l.nanos else l.nanos
    let day := l.date.dayNumber - Time.epochDay
    Timestamp.ofPair? (86400 * day + (3600 * l.hour + 60 * l.minute + second : Nat) - offset) nanos
  else none

/-- Whether a character is one of the minus signs of an offset. -/
def isMinus (c : Char) : Bool := c = '-' || c = '\u2212'

/-- The seconds that a closing offset is ahead of UTC. -/
def readOffset? : List Char → Option Int
  | [] => none
  | [c] => if c = 'Z' ∨ c = 'z' then some 0 else none
  | sign :: rest => do
      let (hours, rest) ← readDigits? 2 rest
      let rest ← readChar? ':' rest
      let (minutes, rest) ← readDigits? 2 rest
      if rest ≠ [] ∨ hours > 23 ∨ minutes > 59 then none
      else
        let span : Int := (3600 * hours + 60 * minutes : Nat)
        if sign = '+' then some span else if isMinus sign then some (-span) else none

def parseChars? (text : List Char) : Option Timestamp := do
  let (year, text) ← readDigits? 4 text
  let text ← readChar? '-' text
  let (month, text) ← readDigits? 2 text
  let text ← readChar? '-' text
  let (day, text) ← readDigits? 2 text
  let text ← readChar? 'T' text <|> readChar? 't' text <|> readChar? ' ' text
  let (hour, text) ← readDigits? 2 text
  let text ← readChar? ':' text
  let (minute, text) ← readDigits? 2 text
  let text ← readChar? ':' text
  let (second, text) ← readDigits? 2 text
  let (nanos, text) ← readDecimals? text
  let offset ← readOffset? text
  Local.instant? ⟨⟨year, month, day⟩, hour, minute, second, nanos⟩ offset

def parse? (text : String) : Option Timestamp := parseChars? text.toList

end RoleSecrets.Rfc3339
