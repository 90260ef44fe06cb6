import DocStore.Power
import DocStore.Text.Blank
import DocStore.Timestamp.Basic

/-!
# Reading timestamps

`Timestamp.parse?` reads the two forms of `YYYY-MM-DDThh:mm:ss` with an optional fraction:

* with an offset from universal time (`Z` or `±hh:mm`), where every field has its full width and the
  letters may be small or the `T` a space;
* without an offset, taken as universal time, where blanks may precede a number, fields may be
  shorter, and a year with a sign may be longer than four digits.

Digits of the fraction after the ninth are dropped.
-/

namespace DocStore.Timestamp

/-- The number written by decimal digits. -/
def ofDigits (digits : List Char) : Nat :=
  digits.foldl (fun n c => n * 10 + (c.toNat - '0'.toNat)) 0

/-- The number at the start of a text, of at least `least` and at most `most` digits. -/
def number (least most : Nat) (s : List Char) : Option (Nat × List Char) :=
  let digits := (s.take most).takeWhile Char.isDigit
  if digits.length < least then none else some (ofDigits digits, s.drop digits.length)

/-- The text after an expected character. -/
def literal (c : Char) : List Char → Option (List Char)
  | [] => none
  | d :: s => if d = c then some s else none

/-- The nanoseconds of an optional fraction. -/
def fraction : List Char → Option (Nat × List Char)
  | '.' :: s =>
    let digits := s.takeWhile Char.isDigit
    if digits.isEmpty then none
    else
      let kept := digits.take 9
      some (ofDigits kept * tenTo (9 - kept.length), s.dropWhile Char.isDigit)
  | s => some (0, s)

/-- The offset from universal time in minutes. -/
def offset : List Char → Option (Int × List Char)
  | [] => none
  | c :: s =>
    if c = 'Z' ∨ c = 'z' then some (0, s)
    else if c = '+' ∨ c = '-' ∨ c = '\u2212' then do
      let (hours, s) ← number 2 2 s
      let s ← literal ':' s
      let (minutes, s) ← number 2 2 s
      let total : Int := hours * 60 + minutes
      if minutes < 60 ∧ hours < 24 then some (if c = '+' then total else -total, s) else none
    else none

/-- The text after the character between date and time. -/
def dateTimeSeparator : List Char → Option (List Char)
  | [] => none
  | c :: s => if c = 'T' ∨ c = 't' ∨ c = ' ' then some s else none

/-- An instant with an offset, the whole text. -/
def withOffset? (s : List Char) : Option Timestamp := do
  let (year, s) ← number 4 4 s
  let s ← literal '-' s
  let (month, s) ← number 2 2 s
  let s ← literal '-' s
  let (day, s) ← number 2 2 s
  let s ← dateTimeSeparator s
  let (hour, s) ← number 2 2 s
  let s ← literal ':' s
  let (minute, s) ← number 2 2 s
  let s ← literal ':' s
  let (second, s) ← number 2 2 s
  let (nanos, s) ← fraction s
  let (minutesEast, s) ← offset s
  if !s.isEmpty then none
  let localTime ← ofFields? ⟨year, month, day⟩ hour minute second nanos
  return localTime.addSeconds (-(minutesEast * 60))

/-- A year: up to four digits, or a sign and any number of digits. -/
def looseYear (s : List Char) : Option (Int × List Char) :=
  match Text.trimStart s with
  | '-' :: s => (number 1 s.length s).map fun (n, s) => (-(n : Int), s)
  | '+' :: s => (number 1 s.length s).map fun (n, s) => ((n : Int), s)
  | s => (number 1 4 s).map fun (n, s) => ((n : Int), s)

/-- A field of one or two digits after blanks. -/
def looseField (s : List Char) : Option (Nat × List Char) := number 1 2 (Text.trimStart s)

/-- The years that a timestamp may lie in. -/
def yearInRange (year : Int) : Bool := -262143 ≤ year && year ≤ 262142

/-- An instant without an offset, the whole text. -/
def withoutOffset? (s : List Char) : Option Timestamp := do
  let (year, s) ← looseYear s
  let s ← literal '-' s
  let (month, s) ← looseField s
  let s ← literal '-' s
  let (day, s) ← looseField s
  let s ← literal 'T' s
  let (hour, s) ← looseField s
  let s ← literal ':' s
  let (minute, s) ← looseField s
  let s ← literal ':' s
  let (second, s) ← looseField s
  let (nanos, s) ← fraction s
  if !s.isEmpty || !yearInRange year then none
  ofFields? ⟨year, month, day⟩ hour minute second nanos

/-- Read a timestamp; without an offset it is universal time. -/
def parse? (text : String) : Option Timestamp :=
  withOffset? text.toList <|> withoutOffset? text.toList

end DocStore.Timestamp
