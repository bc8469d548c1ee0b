import RoleSecrets.Time.Rfc3339

/-! # Times read with tolerance

A relaxed time is an RFC 3339 time whose numbers may be short or signed, with blanks before numbers
and separators; the offset may be the word UTC, and needs no colon. `Relaxed.parse?` reads every
text that `Rfc3339.parse?` reads, to the same instant.
-/

namespace RoleSecrets.Relaxed

open Decimal Rfc3339 Text

/-- A number of one up to `width` digits at the start of a text, and the rest. -/
def readUpTo? (width : Nat) (text : List Char) : Option (Nat × List Char) :=
  let ds := (text.take width).takeWhile Char.isDigit
  (readNat? ds).map fun n => (n, text.drop ds.length)

/-- A number of at most two digits after blanks. -/
def readField? (text : List Char) : Option (Nat × List Char) :=
  readUpTo? 2 (trimStart text)

/-- A number of any length that fits a signed word. -/
def readLong? (text : List Char) : Option (Int × List Char) :=
  let ds := text.takeWhile Char.isDigit
  ((readNat? ds).filter fun n => n < halfRange).map fun n => ((n : Int), text.drop ds.length)

/-- A year after blanks: up to four digits, or a sign and any number of them. -/
def readYear? (text : List Char) : Option (Int × List Char) :=
  match trimStart text with
  | '-' :: rest => (readLong? rest).map fun (n, rest) => (-n, rest)
  | '+' :: rest => readLong? rest
  | text => (readUpTo? 4 text).map fun (n, rest) => ((n : Int), rest)

/-- The rest after blanks and a separator. -/
def readMark? (c : Char) (text : List Char) : Option (List Char) :=
  readChar? c (trimStart text)

/-- The seconds an offset is ahead of UTC: a `Z`, or a sign, two digits of hours and two of minutes
with any colons and blanks between them. What follows it is the rest. -/
def readOffset? : List Char → Option (Int × List Char)
  | [] => none
  | c :: rest =>
      if c = 'Z' ∨ c = 'z' then some (0, rest)
      else if c = '+' ∨ isMinus c then do
        let (hours, rest) ← readDigits? 2 rest
        let (minutes, rest) ← readDigits? 2 (rest.dropWhile fun c => c = ':' || isBlank c)
        if hours > 23 ∨ minutes > 59 then none
        else
          let span : Int := (3600 * hours + 60 * minutes : Nat)
          some (if c = '+' then span else -span, rest)
      else none

/-- The offset at the end of a time, which may be the word UTC. -/
def readZone? (text : List Char) : Option (Int × List Char) :=
  if lower (text.take 3) = ['u', 't', 'c'] then some (0, text.drop 3) else readOffset? text

def parse? (text : String) : Option Timestamp := do
  let (year, text) ← readYear? text.toList
  let text ← readMark? '-' text
  let (month, text) ← readField? text
  let text ← readMark? '-' text
  let (day, text) ← readField? text
  let text ← readChar? 'T' text <|> readChar? 't' text <|> readChar? ' ' text
  let (hour, text) ← readField? text
  let text ← readMark? ':' text
  let (minute, text) ← readField? text
  let text ← readMark? ':' text
  let (second, text) ← readField? text
  let (nanos, text) ← readDecimals? text
  let (offset, text) ← readZone? (trimStart text)
  if trimStart text ≠ [] then none
  else Local.instant? ⟨⟨year, month, day⟩, hour, minute, second, nanos⟩ offset

end RoleSecrets.Relaxed
