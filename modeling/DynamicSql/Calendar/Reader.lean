/-
This file reads dates and times. The loose forms put a date and a time of day side by side, each
number allowed blanks before it and fewer digits than usual; the strict form asks for the full
digit counts and a time zone, from which the time is moved to the zone of offset zero.
-/

import DynamicSql.Calendar.DateTime
import DynamicSql.Text.Blank

namespace DynamicSql.Calendar

open Number (isDigit valueOf)
open Text (trimStart)

/-! ### Parts -/

/-- A number of at least `least` and at most `most` digits, and the text behind it. -/
def number? (least most : Nat) (text : List Char) : Option (Nat × List Char) :=
  let digits := (text.take most).takeWhile isDigit
  if digits.length < least then none else some (valueOf digits, text.drop digits.length)

/-- A number of up to `most` digits that blanks may precede. -/
def looseNumber? (most : Nat) (text : List Char) : Option (Nat × List Char) :=
  number? 1 most (trimStart text)

/-- The text behind an expected character. -/
def expect? (expected : Char) : List Char → Option (List Char)
  | [] => none
  | character :: rest => if character = expected then some rest else none

/-- A year: up to four digits, or a sign and any number of digits. -/
def looseYear? (text : List Char) : Option (Int × List Char) :=
  match trimStart text with
  | '-' :: rest => (number? 1 rest.length rest).map fun (value, rest) => (-Int.ofNat value, rest)
  | '+' :: rest => (number? 1 rest.length rest).map fun (value, rest) => (Int.ofNat value, rest)
  | rest => (number? 1 4 rest).map fun (value, rest) => (Int.ofNat value, rest)

/-- The fraction behind a point in nanoseconds, digits beyond the ninth dropped; no point, no
fraction. -/
def fraction? : List Char → Option (Nat × List Char)
  | '.' :: text =>
    (number? 1 9 text).map fun (value, rest) =>
      let places := text.length - rest.length
      (value * Nat.pow 10 (9 - places), rest.dropWhile isDigit)
  | text => some (0, text)

/-- The moment at an hour, minute and second of a date; second 60 is the leap second. -/
def momentAt? (date : Date) (hour minute second nanos : Nat) : Option DateTime :=
  if 23 < hour || 59 < minute || 60 < second then none
  else if second = 60 then
    DateTime.of? date (hour * 3600 + minute * 60 + 59) (nanosPerSecond + nanos)
  else DateTime.of? date (hour * 3600 + minute * 60 + second) nanos

/-! ### Loose forms -/

/-- A date and the text behind it. -/
def looseDate? (text : List Char) : Option (Date × List Char) := do
  let (year, text) ← looseYear? text
  let text ← expect? '-' text
  let (month, text) ← looseNumber? 2 text
  let text ← expect? '-' text
  let (day, text) ← looseNumber? 2 text
  let date ← Date.of? year month day
  return (date, text)

/-- A time of day on a date, up to the end of the text. -/
def looseClock? (date : Date) (text : List Char) : Option DateTime := do
  let (hour, text) ← looseNumber? 2 text
  let text ← expect? ':' text
  let (minute, text) ← looseNumber? 2 text
  let text ← expect? ':' text
  let (second, text) ← looseNumber? 2 text
  let (nanos, text) ← fraction? text
  if text.isEmpty then momentAt? date hour minute second nanos else none

/-- A date that is all of the text. -/
def Date.read? (text : List Char) : Option Date := do
  let (date, rest) ← looseDate? text
  if rest.isEmpty then some date else none

/-- A date and a time of day with blanks, or none, between them. -/
def readBlankSeparated? (text : List Char) : Option DateTime := do
  let (date, rest) ← looseDate? text
  looseClock? date (trimStart rest)

/-- A date and a time of day with a `T` between them. -/
def readMarked? (text : List Char) : Option DateTime := do
  let (date, rest) ← looseDate? text
  let rest ← expect? 'T' rest
  looseClock? date rest

/-! ### The strict form -/

/-- The seconds that a zone is ahead: `Z`, or a sign with hours and minutes, up to the end of the
text. The sign may be the typographic minus. -/
def zone? : List Char → Option Int
  | ['Z'] => some 0
  | ['z'] => some 0
  | sign :: text => do
    let factor : Int ←
      if sign = '+' then some 1
      else if sign = '-' || sign = '\u2212' then some (-1)
      else none
    let (hours, text) ← number? 2 2 text
    let text ← expect? ':' text
    let (minutes, text) ← number? 2 2 text
    if text.isEmpty && minutes < 60 && hours < 24 then
      some (factor * Int.ofNat (hours * 3600 + minutes * 60))
    else none
  | [] => none

/-- A date, one of `T`, `t` and a space, a time of day and a zone, all in full digits. -/
def readZoned? (text : List Char) : Option DateTime := do
  let (year, text) ← number? 4 4 text
  let text ← expect? '-' text
  let (month, text) ← number? 2 2 text
  let text ← expect? '-' text
  let (day, text) ← number? 2 2 text
  let text ← (expect? 'T' text).or ((expect? 't' text).or (expect? ' ' text))
  let (hour, text) ← number? 2 2 text
  let text ← expect? ':' text
  let (minute, text) ← number? 2 2 text
  let text ← expect? ':' text
  let (second, text) ← number? 2 2 text
  let (nanos, text) ← fraction? text
  let offset ← zone? text
  let date ← Date.of? (Int.ofNat year) month day
  let moment ← momentAt? date hour minute second nanos
  moment.behind? offset

/-- A date and time in the first form that reads it: loose with blanks, loose with a `T`,
strict. -/
def DateTime.read? (text : List Char) : Option DateTime :=
  (readBlankSeparated? text).or ((readMarked? text).or (readZoned? text))

end DynamicSql.Calendar
