import DocStore.Power

/-!
# Binary floating point numbers

`Double` holds the finite numbers of the IEEE 754 format with 53 bits of precision, as sign,
mantissa and power of two, so that arithmetic on them is exact arithmetic on naturals followed by
one rounding.

* `Double.ofRatio` rounds a quotient of naturals to the nearest number, a tie to the even mantissa,
  and says `none` when the result would be infinite;
* `Double.mul` and `Double.div` are that rounding of the exact product and quotient.
-/

namespace DocStore

/-- The finite number `± mantissa · 2 ^ exponent`. -/
structure Double where
  /-- Whether the sign is minus; zero has a sign too. -/
  negative : Bool
  /-- Below `2 ^ 53`, and at least `2 ^ 52` unless the exponent is least. -/
  mantissa : Nat
  /-- At least `-1074`. -/
  exponent : Int
deriving DecidableEq, Repr

namespace Double

/-- The least exponent. -/
def minExponent : Int := -1074

/-- The greatest exponent of a finite number. -/
def maxExponent : Int := 971

/-- Zero with a sign. -/
def zero (negative : Bool) : Double := ⟨negative, 0, minExponent⟩

/-- Whether the number is zero, of either sign. -/
def isZero (x : Double) : Bool := x.mantissa == 0

/-- Numerator and denominator of the magnitude. -/
def ratio (x : Double) : Nat × Nat :=
  (x.mantissa * twoTo x.exponent.toNat, twoTo (-x.exponent).toNat)

/-- Equality of the numbers denoted: zero equals zero whatever the signs. -/
def same (x y : Double) : Bool := decide (x = y) || (x.isZero && y.isZero)

/-- The whole part of a quotient rounded to the nearest natural, a tie to the even one. -/
def roundQuotient (num den : Nat) : Nat :=
  let q := num / den
  let r := num % den
  if den < 2 * r || (2 * r == den && q % 2 == 1) then q + 1 else q

/-- The power of two with `2 ^ k ≤ num / den < 2 ^ (k + 1)`, for positive `num` and `den`. -/
def binaryOrder (num den : Nat) : Int :=
  let k : Int := (Nat.log2 num : Int) - (Nat.log2 den : Int)
  if den * twoTo k.toNat ≤ num * twoTo (-k).toNat then k else k - 1

/-- The number nearest to `± num / den`, or `none` when that is beyond the greatest one. -/
def ofRatio (negative : Bool) (num den : Nat) : Option Double :=
  if num = 0 then some (zero negative)
  else
    let e := max minExponent (binaryOrder num den - 52)
    let m := roundQuotient (num * twoTo (-e).toNat) (den * twoTo e.toNat)
    let x : Double := if m = twoTo 53 then ⟨negative, twoTo 52, e + 1⟩ else ⟨negative, m, e⟩
    if maxExponent < x.exponent then none else some x

/-- The number nearest to a natural. -/
def ofNat (n : Nat) : Option Double := ofRatio false n 1

/-- The number nearest to an integer. -/
def ofInt (n : Int) : Option Double := ofRatio (decide (n < 0)) n.natAbs 1

/-- The rounded product. -/
def mul (x y : Double) : Option Double :=
  ofRatio (x.negative != y.negative) (x.ratio.1 * y.ratio.1) (x.ratio.2 * y.ratio.2)

/-- The rounded quotient by a number that is not zero. -/
def div (x y : Double) : Option Double :=
  ofRatio (x.negative != y.negative) (x.ratio.1 * y.ratio.2) (x.ratio.2 * y.ratio.1)

/-- The number nearest to a decimal `± digits · 10 ^ exponent`. -/
def ofDecimal (negative : Bool) (digits : Nat) (exponent : Int) : Option Double :=
  ofRatio negative (digits * tenTo exponent.toNat) (tenTo (-exponent).toNat)

/-- The same magnitude with a given sign. -/
def withSign (x : Double) (negative : Bool) : Double := { x with negative }

end Double

end DocStore
