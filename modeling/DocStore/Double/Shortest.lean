import DocStore.Double.Basic

/-!
# Shortest decimals

`Double.shortest` finds the decimal with the fewest digits among those that round to a given
number, and of several the nearest to it. `Double.Layout` decides how such a decimal is laid out:
which exponents are written positionally, and the scientific form of all others.

A number `m · 2 ^ e` is what every real strictly between its two midpoints rounds to, and the
midpoints themselves when `m` is even. For one digit, two digits and so on the two neighbours of
the number on that decimal grid are tested; seventeen digits always suffice.
-/

namespace DocStore.Double

/-- A decimal `digits · 10 ^ exponent`. -/
structure Decimal where
  digits : Nat
  exponent : Int
deriving DecidableEq, Repr

/-- The reals that round to a positive number, as multiples of `1 / den`. -/
structure Interval where
  low : Nat
  high : Nat
  den : Nat
  /-- Whether the ends belong to it. -/
  closed : Bool

/-- The interval of a number; its lower half is narrower above a power of two. -/
def interval (x : Double) : Interval :=
  let up := twoTo (x.exponent - 2).toNat
  let narrow := x.mantissa == twoTo 52 && x.exponent != minExponent
  { low := (4 * x.mantissa - if narrow then 1 else 2) * up
    high := (4 * x.mantissa + 2) * up
    den := twoTo (2 - x.exponent).toNat
    closed := x.mantissa % 2 == 0 }

/-- Whether `num / den` lies in an interval. -/
def Interval.holds (i : Interval) (num den : Nat) : Bool :=
  let v := num * i.den
  if i.closed then i.low * den ≤ v && v ≤ i.high * den
  else i.low * den < v && v < i.high * den

/-- The number of decimal digits. -/
def digitCount (n : Nat) : Nat := (Nat.toDigits 10 n).length

/-- The power of ten with `10 ^ k ≤ num / den < 10 ^ (k + 1)`, for positive `num` and `den`. -/
def decimalOrder (num den : Nat) : Int :=
  if den ≤ num then (digitCount (num / den) : Int) - 1
  else
    let d := digitCount (den / num)
    if den ≤ num * tenTo (d - 1) then 1 - (d : Int) else -(d : Int)

/-- Whether a decimal rounds to the number. -/
def Decimal.readsBack (d : Decimal) (i : Interval) : Bool :=
  i.holds (d.digits * tenTo d.exponent.toNat) (tenTo (-d.exponent).toNat)

/-- The decimal with a given exponent that is nearest to `num / den` among those in an interval: of
the two neighbours on the grid the nearer one that is inside, a tie going to the even one. -/
def onGrid (num den : Nat) (i : Interval) (exponent : Int) : Option Decimal :=
  let scaledNum := num * tenTo (-exponent).toNat
  let scaledDen := den * tenTo exponent.toNat
  let below : Decimal := ⟨scaledNum / scaledDen, exponent⟩
  let above : Decimal := ⟨scaledNum / scaledDen + 1, exponent⟩
  let nearest := if roundQuotient scaledNum scaledDen = below.digits then below else above
  if nearest.readsBack i then some nearest
  else if below.readsBack i then some below
  else if above.readsBack i then some above
  else none

/-- The same decimal without zeros at the end of its digits. -/
def Decimal.trimmed (d : Decimal) : Nat → Decimal
  | 0 => d
  | fuel + 1 =>
    if d.digits != 0 && d.digits % 10 == 0 then Decimal.trimmed ⟨d.digits / 10, d.exponent + 1⟩ fuel
    else d

/-- The shortest decimal that rounds to the magnitude of a number. -/
def shortest (x : Double) : Decimal :=
  if x.isZero then ⟨0, 0⟩
  else
    let (num, den) := x.ratio
    let order := decimalOrder num den
    let found := (List.range 17).findSome? fun (n : Nat) => onGrid num den x.interval (order - n)
    (found.getD ⟨roundQuotient num den, 0⟩).trimmed 20

/-- How decimals are laid out: the exponents of the leading digit that are written positionally. -/
structure Layout where
  positional : Int → Bool

/-- The digits with a point after the first `point` of them; missing places are zeros, and at least
one digit stands on each side. -/
def placed (digits : List Char) (point : Int) : List Char :=
  if point ≤ 0 then ['0', '.'] ++ List.replicate (-point).toNat '0' ++ digits
  else
    let n := point.toNat
    if digits.length ≤ n then digits ++ List.replicate (n - digits.length) '0' ++ ['.', '0']
    else digits.take n ++ ['.'] ++ digits.drop n

/-- The digits with a point after the first one and a signed power of ten. -/
def scientific (digits : List Char) (exponent : Int) : List Char :=
  let fraction := digits.drop 1
  digits.take 1 ++ (if fraction.isEmpty then [] else '.' :: fraction) ++ ['e'] ++
    [if exponent < 0 then '-' else '+'] ++ Nat.toDigits 10 exponent.natAbs

/-- The text of a number. -/
def text (layout : Layout) (x : Double) : List Char :=
  let d := x.shortest
  let digits := Nat.toDigits 10 d.digits
  let lead : Int := d.exponent + digits.length - 1
  let magnitude :=
    if layout.positional lead then placed digits (lead + 1) else scientific digits lead
  if x.negative then '-' :: magnitude else magnitude

end DocStore.Double
