/-! # Calendar dates

The proleptic Gregorian date of an epoch day, found by counting off whole years
and then whole months, and its `YYYY-MM-DD` text.
-/

namespace SeriesGateway.Calendar

/-- A calendar date; months and days count from one. -/
structure Date where
  year : Nat
  month : Nat
  day : Nat
deriving DecidableEq, Repr

def isLeap (year : Nat) : Bool := year % 4 = 0 && (year % 100 != 0 || year % 400 = 0)

def daysInYear (year : Nat) : Nat := if isLeap year then 366 else 365

/-- Lengths of the months of a year, January first. -/
def monthLengths (year : Nat) : List Nat :=
  [31, if isLeap year then 29 else 28, 31, 30, 31, 30, 31, 31, 30, 31, 30, 31]

theorem daysInYear_pos (year : Nat) : 0 < daysInYear year := by
  unfold daysInYear
  split <;> omega

/-- Counts off whole years: the year that contains the day numbered `days` from
the start of `year`, and the day's number within it. -/
def countYears (year days : Nat) : Nat × Nat :=
  if days < daysInYear year then (year, days)
  else countYears (year + 1) (days - daysInYear year)
termination_by days
decreasing_by
  have := daysInYear_pos year
  omega

/-- Counts off whole months in the same way. -/
def countMonths (month days : Nat) : List Nat → Nat × Nat
  | [] => (month, days)
  | length :: rest =>
    if days < length then (month, days) else countMonths (month + 1) (days - length) rest

/-- The date of a day counted from 1970-01-01. -/
def ofEpochDay (days : Nat) : Date :=
  let (year, dayOfYear) := countYears 1970 days
  let (month, day) := countMonths 1 dayOfYear (monthLengths year)
  ⟨year, month, day + 1⟩

/-- The date, in universal time, of an epoch second. -/
def ofEpochSecond (seconds : UInt32) : Date := ofEpochDay (seconds.toNat / 86400)

/-- Decimal digits of `n`, with zeros in front up to `width` of them. -/
def padded (width n : Nat) : List Char :=
  let digits := Nat.toDigits 10 n
  List.replicate (width - digits.length) '0' ++ digits

/-- The `YYYY-MM-DD` text of a date. -/
def Date.text (d : Date) : String :=
  String.ofList (padded 4 d.year ++ '-' :: padded 2 d.month ++ '-' :: padded 2 d.day)

end SeriesGateway.Calendar
