/-
This file holds points in time without a time zone: a date, a second of the day and a fraction.
A fraction of a billion nanoseconds or more marks a leap second, which is written as second 60.
-/

import DynamicSql.Calendar.Date

namespace DynamicSql.Calendar

open Number (padded)

/-- The seconds of a day without leap seconds. -/
def secondsPerDay : Nat := 86400

/-- The nanoseconds of a second. -/
def nanosPerSecond : Nat := 1000000000

/-- A date with a time of day. `nanos` counts on through a leap second. -/
structure DateTime where
  date : Date
  second : Nat
  nanos : Nat
  second_lt : second < secondsPerDay
  nanos_lt : nanos < 2 * nanosPerSecond
  deriving DecidableEq

namespace DateTime

/-- A date with a second of the day and a fraction, if they are in range. -/
def of? (date : Date) (second nanos : Nat) : Option DateTime :=
  if inRange : second < secondsPerDay ∧ nanos < 2 * nanosPerSecond then
    some ⟨date, second, nanos, inRange.1, inRange.2⟩
  else none

/-- The first moment of a day. -/
def midnight (date : Date) : DateTime :=
  ⟨date, 0, 0, by decide, by decide⟩

/-- A number that grows with time. -/
def rank (moment : DateTime) : Int :=
  (moment.date.rank * secondsPerDay + moment.second) * (2 * nanosPerSecond) + moment.nanos

/-- The same moment read on a clock that is `offset` seconds behind, for offsets of less than a
day. The fraction stays as it is. -/
def behind? (moment : DateTime) (offset : Int) : Option DateTime :=
  let shifted := Int.ofNat moment.second - offset
  if shifted < 0 then
    moment.date.previous?.bind fun date => of? date (shifted + secondsPerDay).toNat moment.nanos
  else if shifted < secondsPerDay then of? moment.date shifted.toNat moment.nanos
  else moment.date.next?.bind fun date => of? date (shifted - secondsPerDay).toNat moment.nanos

/-- A fraction of a second in as many groups of three digits as it needs. -/
def fractionText (nanos : Nat) : List Char :=
  if nanos = 0 then []
  else if nanos % 1000000 = 0 then '.' :: padded 3 (nanos / 1000000)
  else if nanos % 1000 = 0 then '.' :: padded 6 (nanos / 1000)
  else '.' :: padded 9 nanos

/-- Hours, minutes, seconds and fraction. -/
def clockText (moment : DateTime) : List Char :=
  let second := moment.second % 60 + moment.nanos / nanosPerSecond
  padded 2 (moment.second / 3600) ++ ':' :: padded 2 (moment.second / 60 % 60) ++
    ':' :: padded 2 second ++ fractionText (moment.nanos % nanosPerSecond)

/-- The date and the time of day with a separator between them. -/
def text (separator : Char) (moment : DateTime) : List Char :=
  moment.date.text ++ separator :: moment.clockText

/-- Different moments have different ranks. -/
theorem eq_of_rank_eq {left right : DateTime} (same : left.rank = right.rank) : left = right := by
  obtain ⟨leftDate, leftSecond, leftNanos, leftSecondLt, leftNanosLt⟩ := left
  obtain ⟨rightDate, rightSecond, rightNanos, rightSecondLt, rightNanosLt⟩ := right
  simp only [rank, secondsPerDay, nanosPerSecond] at same
  have leftSecondBound : leftSecond < 86400 := leftSecondLt
  have leftNanosBound : leftNanos < 2000000000 := leftNanosLt
  have rightSecondBound : rightSecond < 86400 := rightSecondLt
  have rightNanosBound : rightNanos < 2000000000 := rightNanosLt
  have dates : leftDate = rightDate := Date.eq_of_rank_eq (by omega)
  subst dates
  have seconds : leftSecond = rightSecond := by omega
  have nanos : leftNanos = rightNanos := by omega
  subst seconds nanos
  rfl

end DateTime

end DynamicSql.Calendar
