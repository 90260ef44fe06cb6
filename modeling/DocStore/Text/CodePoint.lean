/-!
# Tables of code points

Properties of characters are given by tables: closed ranges of code points (`inRanges`), runs whose
members are moved by one distance (`Shift`), and neighbours that each stand for a text of their own
(`lookup?`).
-/

namespace DocStore.Text

/-- Whether a code point lies in one of the closed ranges of a table. -/
def inRanges (table : List (Nat × Nat)) (n : Nat) : Bool :=
  table.any fun range => range.1 ≤ n && n ≤ range.2

/-- The code points from `first` to `last` in equal steps, moved so that `image` comes first. -/
structure Shift where
  first : Nat
  last : Nat
  step : Nat
  image : Nat

/-- Where a code point is moved to, if it belongs to the run. -/
def Shift.move? (run : Shift) (n : Nat) : Option Nat :=
  if run.first ≤ n ∧ n ≤ run.last ∧ (n - run.first) % run.step = 0 then
    some (run.image + (n - run.first))
  else none

/-- The entry of a code point in a table of neighbours, each list starting at its code point. -/
def lookup? {α : Type} (table : List (Nat × List α)) (n : Nat) : Option α :=
  table.findSome? fun block => if block.1 ≤ n then block.2[n - block.1]? else none

end DocStore.Text
