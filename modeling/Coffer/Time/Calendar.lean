/-!
Dates of the Gregorian calendar and their number, counted in days from the first of January 1970.
-/

namespace Coffer

structure Date where
  year : Int
  month : Nat
  day : Nat
deriving DecidableEq, Repr

namespace Date

def isLeap (year : Int) : Bool :=
  year % 4 = 0 && (year % 100 ≠ 0 || year % 400 = 0)

def daysIn (year : Int) (month : Nat) : Nat :=
  if month = 2 then (if isLeap year then 29 else 28)
  else if month = 4 ∨ month = 6 ∨ month = 9 ∨ month = 11 then 30
  else 31

/-- Whether there is such a day, in the years that timestamps can name. -/
def isValid (d : Date) : Bool :=
  1 ≤ d.year && d.year ≤ 9999 && 1 ≤ d.month && d.month ≤ 12 && 1 ≤ d.day &&
    d.day ≤ daysIn d.year d.month

/-- The number of a day. Years are taken to start in March, so that the leap day comes last. -/
def number (d : Date) : Int :=
  let y := if d.month ≤ 2 then d.year - 1 else d.year
  let m : Int := if d.month > 2 then d.month - 3 else d.month + 9
  let yearOfEra := y % 400
  let dayOfYear := (153 * m + 2) / 5 + d.day - 1
  let dayOfEra := yearOfEra * 365 + yearOfEra / 4 - yearOfEra / 100 + dayOfYear
  y / 400 * 146097 + dayOfEra - 719468

def ofNumber (n : Int) : Date :=
  let z := n + 719468
  let dayOfEra := z % 146097
  let yearOfEra := (dayOfEra - dayOfEra / 1460 + dayOfEra / 36524 - dayOfEra / 146096) / 365
  let dayOfYear := dayOfEra - (365 * yearOfEra + yearOfEra / 4 - yearOfEra / 100)
  let m := (5 * dayOfYear + 2) / 153
  let day := dayOfYear - (153 * m + 2) / 5 + 1
  let month := if m < 10 then m + 3 else m - 9
  let year := z / 146097 * 400 + yearOfEra
  ⟨if month ≤ 2 then year + 1 else year, month.toNat, day.toNat⟩

/-- The day of the week, Monday being 0. -/
def weekday (d : Date) : Int :=
  (d.number + 3) % 7

/-- The day of a year's numbered week. The first week is the one with the year's first Thursday. -/
def ofWeek? (year : Int) (week day : Nat) : Option Date :=
  let first : Date := ⟨year, 1, 1⟩
  let longYear := first.weekday = 3 ∨ (first.weekday = 2 ∧ isLeap year)
  if 1 ≤ year ∧ year ≤ 9999 ∧ 1 ≤ week ∧ (week ≤ 52 ∨ (week = 53 ∧ longYear)) ∧
      1 ≤ day ∧ day ≤ 7 then
    let monday := first.number - first.weekday
    let weekOne := if first.weekday > 3 then monday + 7 else monday
    some (ofNumber (weekOne + (week - 1) * 7 + (day - 1)))
  else none

end Date

end Coffer
