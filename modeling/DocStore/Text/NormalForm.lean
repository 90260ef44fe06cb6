import DocStore.Text.Combining
import DocStore.Text.Decomposition.Basic

/-!
# Normal form

One text can be spelled in several ways: with letters and accents in one character or apart, and with
marks in different orders. `normalForm` gives the one spelling in which marks stand in the order of
their classes and every character is put together as far as possible.
-/

namespace DocStore.Text

/-- Put a character before text whose marks are in order, moving it past marks of lower classes. -/
def insertMark (c : Char) : List Char → List Char
  | [] => [c]
  | d :: s =>
    if 0 < combiningClass d ∧ combiningClass d < combiningClass c then d :: insertMark c s
    else c :: d :: s

/-- The text with each run of marks in the order of their classes; marks of one class keep theirs. -/
def orderMarks : List Char → List Char
  | [] => []
  | c :: s => insertMark c (orderMarks s)

/-- Put a base and the characters after it together. A mark reaches its base over the marks before
it (`between`, in order) if their classes are lower than its own. -/
def composeFrom (base : Char) (between : List Char) : List Char → List Char
  | [] => base :: between
  | c :: s =>
    let reaches := between.all fun d => combiningClass d < combiningClass c
    match if reaches then composed? base c else none with
    | some whole => composeFrom whole between s
    | none =>
      if combiningClass c = 0 then base :: between ++ composeFrom c [] s
      else composeFrom base (between ++ [c]) s

/-- The normal form of a text. -/
def normalForm (s : List Char) : List Char :=
  match orderMarks (s.flatMap decomposed) with
  | [] => []
  | c :: s => composeFrom c [] s

end DocStore.Text
