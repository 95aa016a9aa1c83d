/-
The Gregorian calendar, extended to all years.

A day is counted from 1 January 1970. `dayNumber` counts the days of a
date and `dateOf` finds the date of a day: a first guess of the year is at
most one off, and the month is found by taking off month lengths.
-/
namespace Parley.Time

/-- A date of the calendar. -/
structure Date where
  year : Int
  month : Nat
  day : Nat
deriving DecidableEq, Repr

def isLeap (year : Int) : Bool := year % 4 = 0 && (year % 100 ≠ 0 || year % 400 = 0)

/-- The lengths of the months of a year. -/
def monthLengths (year : Int) : List Nat :=
  [31, if isLeap year then 29 else 28, 31, 30, 31, 30, 31, 31, 30, 31, 30, 31]

/-- The length of a month, zero if there is none of that number. -/
def monthLength (year : Int) (month : Nat) : Nat :=
  if month = 0 then 0 else (monthLengths year).getD (month - 1) 0

/-- Whether there is such a day. -/
def Date.valid (d : Date) : Bool := 1 ≤ d.day && d.day ≤ monthLength d.year d.month

/-- The days between 1 January of the year 1 and of another year. -/
def daysBeforeYear (year : Int) : Int :=
  let past := year - 1
  365 * past + past / 4 - past / 100 + past / 400

/-- The day number of 1 January of the year 1. -/
def firstDay : Int := -719162

/-- The number of a day. -/
def dayNumber (d : Date) : Int :=
  let pastMonths : Nat := ((monthLengths d.year).take (d.month - 1)).foldr (· + ·) 0
  firstDay + daysBeforeYear d.year + pastMonths + d.day - 1

/-- The year that holds a day, counted from 1 January of the year 1. -/
def yearOf (n : Int) : Int :=
  let guess := n * 400 / 146097 + 1
  if n < daysBeforeYear guess then guess - 1
  else if daysBeforeYear (guess + 1) ≤ n then guess + 1
  else guess

/-- The month and day of the `n`-th day behind the start of month `month`. -/
def monthOf (month n : Nat) : List Nat → Nat × Nat
  | [] => (month, n + 1)
  | length :: rest => if n < length then (month, n + 1) else monthOf (month + 1) (n - length) rest

/-- The date of a day. -/
def dateOf (number : Int) : Date :=
  let n := number - firstDay
  let year := yearOf n
  let (month, day) := monthOf 1 (n - daysBeforeYear year).toNat (monthLengths year)
  ⟨year, month, day⟩

end Parley.Time
