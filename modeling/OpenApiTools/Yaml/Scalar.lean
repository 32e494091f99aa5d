import OpenApiTools.Json.Basic
import OpenApiTools.Text.Digit
import OpenApiTools.Yaml.Tag

/-!
# Values of scalars

What a scalar stands for in JSON. A plain scalar without a tag is a null, a truth value, an integer
or a float if it is spelled like one, and a string otherwise; a tag of the core schema decides the
type beforehand.
-/

namespace OpenApiTools.Yaml

/-- A null, where an empty scalar is not meant. -/
def isNull (text : String) : Bool :=
  text ∈ ["~", "null", "Null", "NULL"]

/-- The truth value that a scalar spells. -/
def bool? (text : String) : Option Bool :=
  if text ∈ ["true", "True", "TRUE"] then some true
  else if text ∈ ["false", "False", "FALSE"] then some false
  else none

/-- Drops one plus or minus sign. -/
def dropSign : List Char → List Char
  | '+' :: rest => rest
  | '-' :: rest => rest
  | chars => chars

/-- Drops one plus sign. -/
def dropPlus : List Char → List Char
  | '+' :: rest => rest
  | chars => chars

/-- Whether a scalar consists of digits after a leading zero and so is no number. -/
def isZeroPadded (chars : List Char) : Bool :=
  match dropSign chars with
  | '0' :: second :: rest => (second :: rest).all Char.isDigit
  | _ => false

/-- The magnitude of an integer without sign: hexadecimal, octal or binary after its mark, decimal
otherwise. -/
def magnitude? (padded : Bool) (chars : List Char) : Option Nat :=
  match chars with
  | '0' :: 'x' :: digits => Text.natural? 16 digits
  | '0' :: 'o' :: digits => Text.natural? 8 digits
  | '0' :: 'b' :: digits => Text.natural? 2 digits
  | _ => if padded then none else Text.natural? 10 chars

/-- An integer as it is spelled. -/
inductive IntegerReading
  | value (n : Int)
  /-- Wider than 64 bits but not than 128: there is no JSON number for it. -/
  | tooWide
  | notInteger

/-- The integer that a scalar spells. One that needs more than 128 bits is left to be a float. -/
def readInteger (text : String) : IntegerReading :=
  let chars := text.toList
  let padded := isZeroPadded chars
  match chars with
  | '-' :: unsigned =>
    match magnitude? padded unsigned with
    | none => .notInteger
    | some n =>
      if n ≤ Nat.pow 2 63 then .value (-n)
      else if n ≤ Nat.pow 2 127 then .tooWide
      else .notInteger
  | _ =>
    match magnitude? padded (dropPlus chars) with
    | none => .notInteger
    | some n =>
      if n < Nat.pow 2 64 then .value n
      else if n < Nat.pow 2 128 then .tooWide
      else .notInteger

/-- A float as it is spelled. -/
inductive FloatReading
  | finite (value : Binary64)
  /-- An infinity or no number at all. -/
  | special
  | notFloat

/-- The exponent that characters spell after its mark. -/
def exponent? (chars : List Char) : Option Int :=
  match chars with
  | '-' :: digits => (Text.natural? 10 digits).map fun n => -(n : Int)
  | _ => (Text.natural? 10 (dropPlus chars)).map Int.ofNat

/-- The float that characters without sign spell: digits with at most one point, and at least one
digit, and possibly an exponent. -/
def unsignedFloat? (negative : Bool) (chars : List Char) : Option Binary64 := do
  let (whole, afterWhole) := chars.span Char.isDigit
  let (decimals, afterDecimals) :=
    match afterWhole with
    | '.' :: rest => rest.span Char.isDigit
    | _ => ([], afterWhole)
  let exponent ←
    match afterDecimals with
    | [] => some 0
    | mark :: rest => if mark == 'e' || mark == 'E' then exponent? rest else none
  let digits ← Text.natural? 10 (whole ++ decimals)
  Binary64.ofDecimal? negative digits (whole.length + decimals.length) (exponent - decimals.length)

/-- The float that a scalar spells, if it is finite or a special name. -/
def readFloat (text : String) : FloatReading :=
  if text ∈ ["-.inf", "-.Inf", "-.INF", ".nan", ".NaN", ".NAN"] then
    .special
  else
    let chars := text.toList
    let unpositive := dropPlus chars
    if String.ofList unpositive ∈ [".inf", ".Inf", ".INF"] then
      .special
    else
      let value := match chars, unpositive with
        | '+' :: _, '+' :: _ => none
        | '+' :: _, '-' :: _ => none
        | _, '-' :: unsigned => unsignedFloat? true unsigned
        | _, _ => unsignedFloat? false unpositive
      (value.map .finite).getD .notFloat

/-- The value of a plain scalar without a tag; none if it is an integer without a JSON number. -/
def resolve? (text : String) : Option Json :=
  if text.isEmpty || isNull text then
    some .null
  else
    match bool? text, readInteger text with
    | some value, _ => some (.bool value)
    | none, .value n => some (.number (.integer n))
    | none, .tooWide => none
    | none, .notInteger =>
      if isZeroPadded text.toList then
        some (.string text)
      else
        match readFloat text with
        | .finite value => some (.number (.double value))
        | .special => some .null
        | .notFloat => some (.string text)

/-- The value of a scalar whose tag does not matter. -/
def untaggedValue? (text : String) (plain : Bool) : Option Json :=
  if plain then resolve? text else some (.string text)

/-- The value of a scalar with its tag. A tag of the core schema must fit the text; a local tag is
an error, or does not matter if it names no type; any other makes the scalar a string. -/
def scalarValue? (tag : Option Tag) (text : String) (plain : Bool) : Option Json :=
  match tag with
  | none => untaggedValue? text plain
  | some tag =>
    if !tag.isAdmissible then
      none
    else if tag.isLocal then
      untaggedValue? text plain
    else if tag == .core "bool" then
      (bool? text).map .bool
    else if tag == .core "int" then
      match readInteger text with
      | .value n => some (.number (.integer n))
      | _ => none
    else if tag == .core "float" then
      match readFloat text with
      | .finite value => some (.number (.double value))
      | .special => some .null
      | .notFloat => none
    else if tag == .core "null" then
      if isNull text then some .null else none
    else
      some (.string text)

end OpenApiTools.Yaml
