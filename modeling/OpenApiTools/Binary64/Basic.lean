/-!
# Finite binary64 numbers

A finite double is kept as sign, significand and power of two, so that arithmetic on it is exact
arithmetic on natural numbers followed by one rounding to the nearest double, ties to even.
-/

namespace OpenApiTools

/-- The number `± significand * 2 ^ exponent`. In a result of this module the significand has at
most 53 bits, and exactly 53 unless the exponent is the least one. -/
structure Binary64 where
  negative : Bool
  significand : Nat
  exponent : Int
  deriving DecidableEq, Repr

namespace Binary64

/-- The exponent of the least positive double. -/
def leastExponent : Int := -1074

/-- The exponent of the greatest double. -/
def greatestExponent : Int := 971

/-- Zero with the given sign. -/
def zero (negative : Bool) : Binary64 := ⟨negative, 0, leastExponent⟩

/-- Whether the number is one of the two zeros. -/
def isZero (x : Binary64) : Bool := x.significand == 0

/-- `2 ^ exponent` as a fraction. -/
def powerOfTwo (exponent : Int) : Nat × Nat :=
  (Nat.pow 2 exponent.toNat, Nat.pow 2 (-exponent).toNat)

/-- The greatest power of two that a positive fraction reaches. -/
def fractionLog2 (numerator denominator : Nat) : Int :=
  let estimate : Int := (numerator.log2 : Int) - denominator.log2
  let (up, down) := powerOfTwo estimate
  if denominator * up ≤ numerator * down then estimate else estimate - 1

/-- The quotient rounded to the nearest integer, a half to the even one. -/
def divideToEven (numerator denominator : Nat) : Nat :=
  let quotient := numerator / denominator
  let remainder := numerator % denominator
  if denominator < 2 * remainder || (denominator == 2 * remainder && quotient % 2 == 1) then
    quotient + 1
  else
    quotient

/-- The double nearest to a fraction, a tie going to the even significand; there is none when the
fraction rounds beyond the greatest double. -/
def ofFraction? (negative : Bool) (numerator denominator : Nat) : Option Binary64 :=
  if numerator == 0 then
    some (zero negative)
  else
    let exponent := max (fractionLog2 numerator denominator - 52) leastExponent
    let (up, down) := powerOfTwo exponent
    let rounded := divideToEven (numerator * down) (denominator * up)
    let normal : Binary64 :=
      if rounded == Nat.pow 2 53 then ⟨negative, Nat.pow 2 52, exponent + 1⟩
      else ⟨negative, rounded, exponent⟩
    if greatestExponent < normal.exponent then none else some normal

/-- The absolute value as a fraction. -/
def magnitude (x : Binary64) : Nat × Nat :=
  let (up, down) := powerOfTwo x.exponent
  (x.significand * up, down)

/-- The double nearest to a natural number. -/
def ofNat? (n : Nat) : Option Binary64 :=
  ofFraction? false n 1

/-- The product rounded to a double, with the sign of the first factor. -/
def scaleUp? (x factor : Binary64) : Option Binary64 :=
  let (n, d) := x.magnitude
  let (m, e) := factor.magnitude
  ofFraction? x.negative (n * m) (d * e)

/-- The quotient rounded to a double, with the sign of the dividend. -/
def scaleDown? (x divisor : Binary64) : Option Binary64 :=
  let (n, d) := x.magnitude
  let (m, e) := divisor.magnitude
  ofFraction? x.negative (n * e) (d * m)

/-- The double nearest to `digits * 10 ^ exponent`, where `digits` has `length` decimal digits at
most. Magnitudes far outside the range of doubles are decided by the length alone. -/
def ofDecimal? (negative : Bool) (digits length : Nat) (exponent : Int) : Option Binary64 :=
  if digits == 0 || (length : Int) + exponent < -330 then
    some (zero negative)
  else if 310 < exponent then
    none
  else
    ofFraction? negative (digits * Nat.pow 10 exponent.toNat) (Nat.pow 10 (-exponent).toNat)

end Binary64

end OpenApiTools
