import DocStore.Url.Domain.Label

/-!
# Domain names

`Domain.ofText?` brings a domain name to the form in which it is looked up: every label spelled in
ASCII, in lower case.

If a name has characters that are written from right to left, the labels have to keep apart when they
are shown together (`isReadable`): each has one direction, starts and ends with a letter or a digit,
and does not mix two kinds of digits.
-/

namespace DocStore.Url.Domain

open Text (Direction direction)

/-- Whether a character is written from right to left, or is a digit of such a script. -/
def isRightToLeft (c : Char) : Bool :=
  0x590 ≤ c.toNat && [.right, .arabicLetter, .arabicNumber].contains (direction c)

/-- What may stand in a label beside letters and digits. -/
def neutral : List Direction :=
  [.europeanNumber, .europeanSeparator, .commonSeparator, .europeanTerminator, .otherNeutral,
   .boundaryNeutral, .nonspacingMark]

/-- Whether the directions after the first one of a label fit a label of letters written from left
to right. -/
def fitsLeft (others : List Direction) : Bool :=
  others.all (fun d => d = .left || neutral.contains d) &&
    others.getLast?.all [.left, .europeanNumber].contains

/-- Whether the directions after the first one of a label fit a label of letters written from right
to left. -/
def fitsRight (others : List Direction) : Bool :=
  let letters : List Direction := [.right, .arabicLetter, .arabicNumber]
  others.all (fun d => letters.contains d || neutral.contains d) &&
    others.getLast?.all (fun d => d = .europeanNumber || letters.contains d) &&
    !(others.contains .europeanNumber && others.contains .arabicNumber)

/-- Whether a label keeps apart from others in a name with two directions; marks at its end count
with their base. -/
def isReadable (label : List Char) : Bool :=
  match label.map direction with
  | [] => true
  | first :: others =>
    let others := (others.reverse.dropWhile (· = .nonspacingMark)).reverse
    match first with
    | .left => fitsLeft others
    | .right | .arabicLetter => fitsRight others
    | _ => false

/-- The form of a name in which it is looked up, if it is a domain name. -/
def ofText? (s : List Char) : Option (List Char) := do
  let labels := (← (s.splitOn '.').mapM Label.ofText?).flatten
  if labels.any (·.shown.any isRightToLeft) && !labels.all (isReadable ·.shown) then none
  else some (List.intercalate ['.'] (labels.map Label.spelling))

end DocStore.Url.Domain
