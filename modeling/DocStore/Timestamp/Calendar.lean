/-!
# Calendar dates

The proleptic Gregorian calendar: which dates exist (`Date.exists?`) and their number counted in days
from 1970-01-01 (`Date.dayNumber`, `Date.ofDayNumber`).
-/

namespace DocStore

/-- A date by year, month and day; year 0 precedes year 1. -/
structure Date where
  year : Int
  month : Nat
  day : Nat
deriving DecidableEq, Repr

namespace Date

/-- Whether a year has a 29th of February. -/
def isLeapYear (year : Int) : Bool := year % 4 == 0 && (year % 100 != 0 || year % 400 == 0)

/-- The number of days of a month of a year. -/
def daysInMonth (year : Int) (month : Nat) : Nat :=
  match month with
  | 2 => if isLeapYear year then 29 else 28
  | 4 | 6 | 9 | 11 => 30
  | _ => 31

/-- Whether a date is one of the calendar. -/
def exists? (d : Date) : Bool :=
  1 ≤ d.month && d.month ≤ 12 && 1 ≤ d.day && d.day ≤ daysInMonth d.year d.month

/-- The days from 0001-01-01 to the first day of a year. -/
def daysBeforeYear (year : Int) : Int :=
  let y := year - 1
  365 * y + y / 4 - y / 100 + y / 400

/-- The days of a year before the first day of a month. -/
def daysBeforeMonth (year : Int) : Nat → Nat
  | 0 => 0
  | 1 => 0
  | month + 1 => daysBeforeMonth year month + daysInMonth year month

/-- The days from 0001-01-01 to 1970-01-01. -/
def epochDays : Int := 719162

/-- The days from 1970-01-01 to a date. -/
def dayNumber (d : Date) : Int :=
  daysBeforeYear d.year + daysBeforeMonth d.year d.month + d.day - 1 - epochDays

/-- The date of a day of a year, counted from 0, that lies in one of a list of months. -/
def ofDayOfYear (year : Int) (day : Nat) : List Nat → Date
  | [] => ⟨year, 12, day + 1⟩
  | month :: months =>
    if day < daysInMonth year month then ⟨year, month, day + 1⟩
    else ofDayOfYear year (day - daysInMonth year month) months

/-- The date a number of days after 1970-01-01. A cycle of 400 years has 146097 days, a century
36524 or one more, four years 1461 or one less, a year 365 or one more. -/
def ofDayNumber (n : Int) : Date :=
  let day := n + epochDays
  let cycle := day / 146097
  let inCycle := (day % 146097).toNat
  let century := min (inCycle / 36524) 3
  let inCentury := inCycle - century * 36524
  let leap := inCentury / 1461
  let inLeap := inCentury % 1461
  let single := min (inLeap / 365) 3
  let year := 400 * cycle + 100 * century + 4 * leap + single + 1
  ofDayOfYear year (inLeap - single * 365) [1, 2, 3, 4, 5, 6, 7, 8, 9, 10, 11, 12]

end Date

end DocStore
