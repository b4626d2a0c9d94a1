/-
This file holds the days of the proleptic Gregorian calendar. A date exists only if its month and
day do; the years are those between `leastYear` and `greatestYear`. Dates are written as year,
month and day, a year outside of 0 to 9999 with a sign.
-/

import DynamicSql.Number.Decimal

namespace DynamicSql.Calendar

open Number (padded)

/-- The first year that dates exist in. -/
def leastYear : Int := -262143

/-- The last year that dates exist in. -/
def greatestYear : Int := 262142

/-- Years divisible by four are leap years, of the full centuries only every fourth. -/
def isLeapYear (year : Int) : Bool :=
  year % 4 == 0 && (year % 100 != 0 || year % 400 == 0)

/-- How many days a month has. -/
def daysInMonth (year : Int) (month : Nat) : Nat :=
  if month = 2 then if isLeapYear year then 29 else 28
  else if month = 4 ∨ month = 6 ∨ month = 9 ∨ month = 11 then 30
  else 31

/-- The triples of year, month and day that are dates. -/
def IsDate (year : Int) (month day : Nat) : Prop :=
  leastYear ≤ year ∧ year ≤ greatestYear ∧ 1 ≤ month ∧ month ≤ 12 ∧ 1 ≤ day ∧
    day ≤ daysInMonth year month

instance (year : Int) (month day : Nat) : Decidable (IsDate year month day) := by
  unfold IsDate
  infer_instance

/-- A day of the calendar. -/
structure Date where
  year : Int
  month : Nat
  day : Nat
  isDate : IsDate year month day
  deriving DecidableEq

namespace Date

/-- The date of a year, month and day, if there is one. -/
def of? (year : Int) (month day : Nat) : Option Date :=
  if isDate : IsDate year month day then some ⟨year, month, day, isDate⟩ else none

/-- A number that grows with the date. -/
def rank (date : Date) : Int :=
  (date.year * 13 + date.month) * 32 + date.day

/-- The day after a date. -/
def next? (date : Date) : Option Date :=
  match of? date.year date.month (date.day + 1) with
  | some tomorrow => some tomorrow
  | none =>
    match of? date.year (date.month + 1) 1 with
    | some tomorrow => some tomorrow
    | none => of? (date.year + 1) 1 1

/-- The day before a date. -/
def previous? (date : Date) : Option Date :=
  if 1 < date.day then of? date.year date.month (date.day - 1)
  else if 1 < date.month then
    of? date.year (date.month - 1) (daysInMonth date.year (date.month - 1))
  else of? (date.year - 1) 12 31

/-- A year in at least four digits, with a sign outside of 0 to 9999. -/
def yearText (year : Int) : List Char :=
  if year < 0 then '-' :: padded 4 year.natAbs
  else if 9999 < year then '+' :: padded 4 year.natAbs
  else padded 4 year.natAbs

/-- The date as year, month and day with dashes between them. -/
def text (date : Date) : List Char :=
  yearText date.year ++ '-' :: padded 2 date.month ++ '-' :: padded 2 date.day

theorem day_le (date : Date) : date.day ≤ 31 := by
  have bound := date.isDate.2.2.2.2.2
  unfold daysInMonth at bound
  split at bound
  · split at bound <;> omega
  · split at bound <;> omega

/-- Different dates have different ranks. -/
theorem eq_of_rank_eq {left right : Date} (same : left.rank = right.rank) : left = right := by
  have leftDay := left.day_le
  have rightDay := right.day_le
  obtain ⟨leftYear, leftMonth, leftDay', leftIs⟩ := left
  obtain ⟨rightYear, rightMonth, rightDay', rightIs⟩ := right
  obtain ⟨_, _, _, leftMonthLe, _, _⟩ := id leftIs
  obtain ⟨_, _, _, rightMonthLe, _, _⟩ := id rightIs
  simp only [rank] at same
  simp only at leftDay rightDay
  have years : leftYear = rightYear := by omega
  have months : leftMonth = rightMonth := by omega
  have days : leftDay' = rightDay' := by omega
  subst years months days
  rfl

end Date

end DynamicSql.Calendar
