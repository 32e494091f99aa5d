import OpenApiTools.Text.Digit

/-!
# Punycode

How a label outside ASCII is written in a host name. Its ASCII characters come first, up to the last
hyphen; the digits behind it say which other characters to insert where, in ascending order, each as
the distance from the insertion before it.
-/

namespace OpenApiTools.Url.Punycode

/-- The value of a digit: the letters come before the decimal digits. -/
def digit? (c : Char) : Option Nat :=
  (Text.digit? 36 c).map fun value => (value + 26) % 36

/-- A digit below the threshold of its place ends a distance. -/
def threshold (place bias : Nat) : Nat :=
  max 1 (min 26 (place - bias))

/-- Scales a distance down until it is small. Gives it with the bias that this amounts to. -/
def scaleDistance (distance bias : Nat) : Nat × Nat :=
  if 455 < distance then scaleDistance (distance / 35) (bias + 36) else (distance, bias)
termination_by distance
decreasing_by omega

/-- The bias after a distance into a label of so many characters. -/
def adaptBias (distance size : Nat) (isFirst : Bool) : Nat :=
  let damped := if isFirst then distance / 700 else distance / 2
  let (scaled, bias) := scaleDistance (damped + damped / size) 0
  bias + 36 * scaled / (scaled + 38)

/-- A label that has been decoded in part. -/
structure Decoder where
  label : List Char
  /-- The character inserted last, as a code point. -/
  code : Nat
  /-- The place behind it. -/
  position : Nat
  bias : Nat
  /-- The distance that is being read. -/
  distance : Nat
  /-- What its next digit counts for. -/
  weight : Nat
  /-- The place of that digit. -/
  place : Nat

namespace Decoder

/-- The decoder before the first insertion. -/
def start (label : List Char) : Decoder where
  label
  code := 0x80
  position := 0
  bias := 72
  distance := 0
  weight := 1
  place := 36

/-- Makes the insertion that a complete distance describes. -/
def insert? (decoder : Decoder) (distance : Nat) : Option Decoder :=
  let size := decoder.label.length + 1
  let target := decoder.position + distance
  let code := decoder.code + target / size
  if code.isValidChar then
    let label := decoder.label.insertIdx (target % size) (Char.ofNat code)
    let bias := adaptBias distance size (decoder.position == 0)
    some { start label with code, position := target % size + 1, bias }
  else
    none

/-- Reads a digit. Neither a place nor the weight of a digit may need more than 32 bits. -/
def step? (decoder : Decoder) (c : Char) : Option Decoder := do
  let digit ← digit? c
  let distance := decoder.distance + digit * decoder.weight
  let least := threshold decoder.place decoder.bias
  let weight := decoder.weight * (36 - least)
  if UInt32.size ≤ decoder.position + distance then
    none
  else if digit < least then
    decoder.insert? distance
  else if UInt32.size ≤ weight then
    none
  else
    some { decoder with distance, weight, place := decoder.place + 36 }

/-- The label, unless a distance is unfinished. -/
def finish? (decoder : Decoder) : Option (List Char) :=
  if decoder.place = 36 then some decoder.label else none

end Decoder

/-- The label that a text encodes. A hyphen at its start separates nothing. -/
def decode? (text : List Char) : Option (List Char) :=
  let plain := (text.reverse.dropWhile (· != '-')).drop 1 |>.reverse
  let digits := if plain.isEmpty then text else text.drop (plain.length + 1)
  (digits.foldlM Decoder.step? (.start plain)).bind Decoder.finish?

end OpenApiTools.Url.Punycode
