import OpenApiTools.Binary64.Format
import OpenApiTools.Json.Basic

/-!
# Printing JSON values

One printer serves both layouts: the compact one has no blanks, the indented one puts every item
and field on a line of its own. Empty containers stay closed up in both.
-/

namespace OpenApiTools.Json

/-- Where blanks go. -/
structure Layout where
  /-- What stands before an item, field or closing bracket at a depth. -/
  gap : Nat → List Char
  /-- What stands after the colon of a field. -/
  afterColon : List Char

namespace Layout

/-- No blanks at all. -/
def compact : Layout where
  gap _ := []
  afterColon := []

/-- Two spaces of indentation for each level. -/
def indented : Layout where
  gap depth := '\n' :: List.replicate (2 * depth) ' '
  afterColon := [' ']

/-- Puts a comma between entries and the gap of the depth before each. -/
def separate (layout : Layout) (depth : Nat) : List (List Char) → List Char
  | [] => []
  | [entry] => layout.gap depth ++ entry
  | entry :: rest => layout.gap depth ++ entry ++ ',' :: layout.separate depth rest

/-- A container at a depth, with its entries written already. -/
def enclose (layout : Layout) (depth : Nat) (opening closing : Char)
    (entries : List (List Char)) : List Char :=
  if entries.isEmpty then
    [opening, closing]
  else
    opening :: (layout.separate (depth + 1) entries ++ layout.gap depth ++ [closing])

/-- An array with its items written already. -/
def array (layout : Layout) (depth : Nat) (items : List (List Char)) : List Char :=
  layout.enclose depth '[' ']' items

/-- An object with its fields written already. -/
def object (layout : Layout) (depth : Nat) (fields : List (List Char)) : List Char :=
  layout.enclose depth '\x7b' '\x7d' fields

/-- A field with its key and value written already. -/
def field (layout : Layout) (key value : List Char) : List Char :=
  key ++ ':' :: layout.afterColon ++ value

end Layout

/-- One character inside quotes. Quotes, backslashes and control characters are escaped. -/
def writeChar (c : Char) : List Char :=
  if c = '\"' then ['\\', '\"']
  else if c = '\\' then ['\\', '\\']
  else if c = '\x08' then ['\\', 'b']
  else if c = '\x0c' then ['\\', 'f']
  else if c = '\n' then ['\\', 'n']
  else if c = '\r' then ['\\', 'r']
  else if c = '\t' then ['\\', 't']
  else if c.toNat < 0x20 then
    ['\\', 'u', '0', '0', Nat.digitChar (c.toNat / 16), Nat.digitChar (c.toNat % 16)]
  else [c]

/-- A string in quotes. -/
def writeString (text : String) : List Char :=
  '\"' :: (text.toList.flatMap writeChar ++ ['\"'])

/-- An integer in decimal digits. -/
def writeInt : Int → List Char
  | .ofNat n => Nat.toDigits 10 n
  | .negSucc n => '-' :: Nat.toDigits 10 (n + 1)

/-- The text of a number. -/
def Number.write : Number → List Char
  | .integer value => writeInt value
  | .double value => value.write Binary64.jsonFormat

mutual

/-- A value at a depth. -/
def write (layout : Layout) (depth : Nat) : Json → List Char
  | .null => ['n', 'u', 'l', 'l']
  | .bool true => ['t', 'r', 'u', 'e']
  | .bool false => ['f', 'a', 'l', 's', 'e']
  | .number value => value.write
  | .string value => writeString value
  | .array items => layout.array depth (writeItems layout (depth + 1) items)
  | .object fields => layout.object depth (writeFields layout (depth + 1) fields)

/-- The items of an array, each written at the given depth. -/
def writeItems (layout : Layout) (depth : Nat) : List Json → List (List Char)
  | [] => []
  | item :: rest => write layout depth item :: writeItems layout depth rest

/-- The fields of an object, each written at the given depth. -/
def writeFields (layout : Layout) (depth : Nat) : List (String × Json) → List (List Char)
  | [] => []
  | (key, value) :: rest =>
    layout.field (writeString key) (write layout depth value) :: writeFields layout depth rest

end

/-- The text of a value. -/
def render (layout : Layout) (value : Json) : String :=
  String.ofList (value.write layout 0)

/-- The text of a value without blanks. -/
def compact (value : Json) : String :=
  value.render .compact

/-- The text of a value with two spaces of indentation. -/
def pretty (value : Json) : String :=
  value.render .indented

/-- The text of a number. -/
def Number.text (value : Number) : String :=
  String.ofList value.write

end OpenApiTools.Json
