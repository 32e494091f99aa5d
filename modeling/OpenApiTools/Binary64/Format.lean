import OpenApiTools.Binary64.Shortest

/-!
# Text of a double

The shortest decimal is written with a point where its magnitude is moderate, and with a power of
ten elsewhere. The choices that make up the format are fields of one record.
-/

namespace OpenApiTools.Binary64

/-- The choices a number format makes. -/
structure Format where
  /-- The least power of ten of the leading digit that is written positionally. -/
  leastPositional : Int
  /-- The greatest such power. -/
  greatestPositional : Int
  /-- What separates the digits from the power of ten. -/
  exponentMark : String
  /-- The sign of a power of ten that is not negative. -/
  positiveSign : String

/-- JSON texts write magnitudes from `0.00001` up to sixteen integer digits positionally, always
with a point, and all others as in `1.5e+16`. -/
def jsonFormat : Format where
  leastPositional := -5
  greatestPositional := 15
  exponentMark := "e"
  positiveSign := "+"

/-- `count` zeros. -/
def zeros (count : Nat) : List Char := List.replicate count '0'

/-- Digits whose first one stands for `10 ^ leading`, written with a decimal point. -/
def positional (digits : List Char) (leading : Int) : List Char :=
  if leading < 0 then
    ['0', '.'] ++ zeros (-leading - 1).toNat ++ digits
  else
    let whole := leading.toNat + 1
    if digits.length ≤ whole then
      digits ++ zeros (whole - digits.length) ++ ['.', '0']
    else
      digits.take whole ++ ['.'] ++ digits.drop whole

/-- Digits whose first one stands for `10 ^ leading`, written with a power of ten. -/
def scientific (format : Format) (digits : List Char) (leading : Int) : List Char :=
  let mantissa := match digits with
    | first :: second :: rest => first :: '.' :: second :: rest
    | short => short
  let sign := if leading < 0 then "-" else format.positiveSign
  mantissa ++ format.exponentMark.toList ++ sign.toList ++ Nat.toDigits 10 leading.natAbs

/-- The text of a double in the given format. -/
def write (format : Format) (x : Binary64) : List Char :=
  let decimal := x.shortest
  let digits := Nat.toDigits 10 decimal.digits
  let leading := decimal.exponent + digits.length - 1
  let body :=
    if format.leastPositional ≤ leading && leading ≤ format.greatestPositional then
      positional digits leading
    else
      scientific format digits leading
  if x.negative then '-' :: body else body

end OpenApiTools.Binary64
