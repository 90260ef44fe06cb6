import DocStore.Timestamp.Calendar

/-!
# Timestamps

A `Timestamp` is an instant of universal time to the nanosecond, counted from 1970. A leap second is
kept as a second that lasts twice as long: its nanoseconds reach below two thousand million, so that
`23:59:60` is told apart from the second before it and from the one after it.

`Timestamp.ofFields?` builds the instant of a date and a time of day that exist, and
`Timestamp.text` writes one with a given number of digits after the point.
-/

namespace DocStore

/-- An instant of universal time. -/
structure Timestamp where
  /-- Whole seconds since 1970-01-01T00:00:00Z. -/
  seconds : Int
  /-- Nanoseconds; one thousand million or more within a leap second. -/
  nanos : Nat
deriving DecidableEq, Repr

namespace Timestamp

/-- The seconds of a day. -/
def daySeconds : Int := 86400

/-- The instant of a date and a time of day in universal time, if both exist. Second 60 is a leap
second, allowed in every minute. -/
def ofFields? (date : Date) (hour minute second nanos : Nat) : Option Timestamp :=
  if date.exists? && hour < 24 && minute < 60 && second ≤ 60 then
    let whole := hour * 3600 + minute * 60 + min second 59
    some ⟨date.dayNumber * daySeconds + whole, if second = 60 then nanos + 1000000000 else nanos⟩
  else none

/-- The instant a number of seconds later. -/
def addSeconds (t : Timestamp) (n : Int) : Timestamp := { t with seconds := t.seconds + n }

/-- The digits of a number, with zeros in front up to a width. -/
def padded (width n : Nat) : List Char :=
  let digits := Nat.toDigits 10 n
  List.replicate (width - digits.length) '0' ++ digits

/-- A year: four digits from 0 to 9999, and otherwise a sign and at least four digits. -/
def yearChars (year : Int) : List Char :=
  if 0 ≤ year ∧ year ≤ 9999 then padded 4 year.natAbs
  else (if year < 0 then '-' else '+') :: padded 4 year.natAbs

/-- An instant with a number of digits after the point, further digits cut off. -/
def text (places : Nat) (t : Timestamp) : String :=
  let date := Date.ofDayNumber (t.seconds / daySeconds)
  let time := (t.seconds % daySeconds).toNat
  let leap := 1000000000 ≤ t.nanos
  let second := time % 60 + if leap then 1 else 0
  let nanos := if leap then t.nanos - 1000000000 else t.nanos
  String.ofList <|
    yearChars date.year ++ '-' :: padded 2 date.month ++ '-' :: padded 2 date.day ++
      'T' :: padded 2 (time / 3600) ++ ':' :: padded 2 (time / 60 % 60) ++ ':' :: padded 2 second ++
      '.' :: (padded 9 nanos).take places ++ ['Z']

end Timestamp

end DocStore
