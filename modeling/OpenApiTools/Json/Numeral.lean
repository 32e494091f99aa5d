import OpenApiTools.Json.Basic
import OpenApiTools.Text.Digit

/-!
# Numerals

The grammar of JSON numbers and the number a numeral stands for. An integer of at most 64 bits is
kept exactly. Every other numeral is read with a significand of 64 bits: the leading digits that fit
make up the significand, later integer digits only raise the power of ten, later decimals are
dropped, and the significand is then scaled by the power of ten in double arithmetic.
-/

namespace OpenApiTools.Json

/-- A number as written. A numeral without a fraction has no decimals; the exponent is a sign and
digits. -/
structure Numeral where
  negative : Bool
  whole : List Nat
  decimals : List Nat
  exponent : Option (Bool × List Nat)
  deriving DecidableEq, Repr

namespace Numeral

/-- The digits at the start of a text, and the rest of it. -/
def takeDigits : List Char → List Nat × List Char
  | [] => ([], [])
  | c :: rest =>
    match Text.digit? 10 c with
    | some digit =>
      let (digits, remaining) := takeDigits rest
      (digit :: digits, remaining)
    | none => ([], c :: rest)

/-- Reads a minus sign. -/
def takeMinus : List Char → Bool × List Char
  | '-' :: rest => (true, rest)
  | chars => (false, chars)

/-- Reads an integer part: a single zero, or digits that start with another one. -/
def takeWhole? (chars : List Char) : Option (List Nat × List Char) :=
  match takeDigits chars with
  | ([], _) => none
  | (0 :: _ :: _, _) => none
  | (digits, rest) => some (digits, rest)

/-- Reads an optional fraction: a point and at least one digit. -/
def takeFraction? : List Char → Option (List Nat × List Char)
  | '.' :: rest =>
    match takeDigits rest with
    | ([], _) => none
    | (digits, remaining) => some (digits, remaining)
  | chars => some ([], chars)

/-- Reads an optional sign of an exponent; without one the exponent is not negative. -/
def takeExponentSign : List Char → Bool × List Char
  | '+' :: rest => (false, rest)
  | '-' :: rest => (true, rest)
  | chars => (false, chars)

/-- Reads an optional exponent, which has at least one digit. -/
def takeExponent? : List Char → Option (Option (Bool × List Nat) × List Char)
  | [] => some (none, [])
  | c :: rest =>
    if c = 'e' ∨ c = 'E' then
      let (negative, unsigned) := takeExponentSign rest
      match takeDigits unsigned with
      | ([], _) => none
      | (digits, remaining) => some (some (negative, digits), remaining)
    else
      some (none, c :: rest)

/-- The numeral that a text spells in full. -/
def ofChars? (chars : List Char) : Option Numeral := do
  let (negative, unsigned) := takeMinus chars
  let (whole, afterWhole) ← takeWhole? unsigned
  let (decimals, afterFraction) ← takeFraction? afterWhole
  let (exponent, rest) ← takeExponent? afterFraction
  if rest.isEmpty then some { negative, whole, decimals, exponent } else none

/-- The natural number that decimal digits spell. -/
def natOfDigits (digits : List Nat) : Nat :=
  digits.foldl (fun value digit => 10 * value + digit) 0

/-- Appends digits to a significand as long as the result has 64 bits, and gives the digits that
are left. -/
def absorb (significand : Nat) : List Nat → Nat × List Nat
  | [] => (significand, [])
  | digit :: rest =>
    if 10 * significand + digit < Nat.pow 2 64 then absorb (10 * significand + digit) rest
    else (significand, digit :: rest)

/-- The greatest power of ten that is a double. -/
def greatestPower : Nat := 308

/-- The double nearest to a power of ten. -/
def powerOfTen? (places : Nat) : Option Binary64 :=
  Binary64.ofNat? (Nat.pow 10 places)

/-- Divides by `10 ^ places`, in steps of the greatest power of ten that is a double. -/
def divideByPower? (greatest x : Binary64) (places : Nat) : Option Binary64 :=
  if places ≤ greatestPower then
    (powerOfTen? places).bind x.scaleDown?
  else if x.isZero then
    some x
  else
    match x.scaleDown? greatest with
    | some quotient => divideByPower? greatest quotient (places - greatestPower)
    | none => none
termination_by places
decreasing_by
  have positive : 0 < greatestPower := by decide
  omega

/-- The significand as a double, times a power of ten; none if the product is out of range. -/
def scale? (significand : Nat) (power : Int) : Option Binary64 := do
  let x ← Binary64.ofNat? significand
  if power < 0 then
    divideByPower? (← powerOfTen? greatestPower) x power.natAbs
  else if power ≤ greatestPower then
    (powerOfTen? power.natAbs).bind x.scaleUp?
  else if x.isZero then
    some x
  else
    none

/-- The greatest magnitude of an exponent that enters the calculation; a greater one decides the
value by its sign alone. -/
def exponentLimit : Nat := Nat.pow 2 31 - 1

/-- The absolute value as a double; none if it is out of range. -/
def double? (numeral : Numeral) : Option Binary64 :=
  let (leading, dropped) := absorb 0 numeral.whole
  let (significand, unused) := absorb leading numeral.decimals
  let power : Int := dropped.length - (numeral.decimals.length - unused.length : Nat)
  match numeral.exponent with
  | none => scale? significand power
  | some (negative, digits) =>
    let exponent := natOfDigits digits
    if exponentLimit < exponent then
      if significand != 0 && !negative then none else some (Binary64.zero false)
    else
      scale? significand (if negative then power - exponent else power + exponent)

/-- The number of a numeral without fraction and exponent, if it is an integer of 64 bits. Minus
zero is not one: it is a double. -/
def integer? (numeral : Numeral) : Option Int :=
  let value := natOfDigits numeral.whole
  if numeral.decimals.isEmpty && numeral.exponent.isNone then
    if numeral.negative then
      if value != 0 && value ≤ Nat.pow 2 63 then some (-value) else none
    else if value < Nat.pow 2 64 then
      some value
    else
      none
  else
    none

/-- The number a numeral stands for; none if it is out of range. -/
def number? (numeral : Numeral) : Option Number :=
  match numeral.integer? with
  | some value => some (.integer value)
  | none => numeral.double?.map fun x => .double { x with negative := numeral.negative }

end Numeral

end OpenApiTools.Json
