import OpenApiTools.Binary64.Basic

/-!
# Shortest decimal form

The decimal with the fewest digits among those that round to a given double, and of these the one
nearest to it. It is found by trying one digit, two digits and so on: on each decimal grid the two
neighbours of the double are the only candidates.
-/

namespace OpenApiTools

/-- The decimal `digits * 10 ^ exponent`. -/
structure Decimal where
  digits : Nat
  exponent : Int
  deriving DecidableEq, Repr

namespace Decimal

/-- `10 ^ exponent` as a fraction. -/
def powerOfTen (exponent : Int) : Nat × Nat :=
  (Nat.pow 10 exponent.toNat, Nat.pow 10 (-exponent).toNat)

/-- Moves trailing zeros of the digits into the exponent. -/
def normalize : Nat → Decimal → Decimal
  | 0, d => d
  | steps + 1, d =>
    if d.digits != 0 && d.digits % 10 == 0 then
      normalize steps ⟨d.digits / 10, d.exponent + 1⟩
    else
      d

end Decimal

namespace Binary64

/-- The reals that round to a positive double, scaled by four so that all bounds are multiples of
a power of two: from `lower` to `upper`, the ends included when the significand is even. -/
structure RoundingInterval where
  lower : Nat
  value : Nat
  upper : Nat
  closed : Bool
  exponent : Int

/-- The rounding interval of a positive double. The gap below a power of two is half the gap
above it, except at the bottom of the range. -/
def roundingInterval (x : Binary64) : RoundingInterval :=
  let narrow := x.significand == Nat.pow 2 52 && leastExponent < x.exponent
  { lower := 4 * x.significand - (if narrow then 1 else 2)
    value := 4 * x.significand
    upper := 4 * x.significand + 2
    closed := x.significand % 2 == 0
    exponent := x.exponent - 2 }

/-- The least power of ten above a positive double. -/
def decimalLength (x : Binary64) : Int :=
  let binaryLog : Int := (x.significand.log2 : Int) + x.exponent
  let estimate := Int.fdiv (binaryLog * 30103) 100000
  let (n, d) := x.magnitude
  let (up, down) := Decimal.powerOfTen (estimate + 1)
  if up * d ≤ n * down then estimate + 2 else estimate + 1

/-- The better of the two neighbours of a positive double on the grid of multiples of
`10 ^ exponent`, if one of them rounds to the double. -/
def nearestOnGrid? (x : Binary64) (exponent : Int) : Option Decimal :=
  let interval := x.roundingInterval
  let (binaryUp, binaryDown) := powerOfTwo interval.exponent
  let (decimalUp, decimalDown) := Decimal.powerOfTen exponent
  -- In units of `1 / (binaryDown * decimalDown)`.
  let unit := binaryUp * decimalDown
  let grid := decimalUp * binaryDown
  let value := interval.value * unit
  let inside (point : Nat) : Bool :=
    if interval.closed then
      interval.lower * unit ≤ point && point ≤ interval.upper * unit
    else
      interval.lower * unit < point && point < interval.upper * unit
  let below := value / grid
  let above := below + 1
  let toBelow := value - below * grid
  let toAbove := above * grid - value
  let preferBelow := toBelow < toAbove || (toBelow == toAbove && below % 2 == 0)
  match inside (below * grid), inside (above * grid) with
  | true, true => some ⟨if preferBelow then below else above, exponent⟩
  | true, false => some ⟨below, exponent⟩
  | false, true => some ⟨above, exponent⟩
  | false, false => none

/-- The digits of the value written in full, of which the grid of its last binary place is a
multiple. -/
def exactDecimal (x : Binary64) : Decimal :=
  let (n, _) := x.magnitude
  let places := (-x.exponent).toNat
  ⟨n * Nat.pow 5 places, -places⟩

/-- The shortest decimal that rounds to the absolute value. Seventeen digits always suffice. -/
def shortest (x : Binary64) : Decimal :=
  if x.isZero then
    ⟨0, 0⟩
  else
    let length := x.decimalLength
    let found := (List.range 17).findSome? fun (digits : Nat) =>
      x.nearestOnGrid? (length - 1 - digits)
    (found.getD x.exactDecimal).normalize 18

end Binary64

end OpenApiTools
