import OpenApiTools.Json.Tree

/-!
# Reading JSON values

The value of a parse tree. Numbers must be in range, strings must be free of lone surrogates, and
arrays and objects nest to a bounded depth.
-/

namespace OpenApiTools.Json

/-- How deep arrays and objects may nest. -/
def depthLimit : Nat := 127

mutual

/-- The value of a tree whose containers nest at most `depth` deep. -/
def ofTree? (depth : Nat) : Tree → Option Json
  | .null => some .null
  | .bool value => some (.bool value)
  | .numeral value => value.number?.map .number
  | .string pieces => (Piece.text? pieces).map .string
  | .array items =>
    if depth = 0 then none else (itemsOfTrees? (depth - 1) items).map .array
  | .object entries =>
    if depth = 0 then none
    else (entriesOfTrees? (depth - 1) entries).map fun fields => .object (Entries.ofList fields)

/-- The values of the items of an array. -/
def itemsOfTrees? (depth : Nat) : List Tree → Option (List Json)
  | [] => some []
  | tree :: rest =>
    match ofTree? depth tree with
    | none => none
    | some item => (itemsOfTrees? depth rest).map (item :: ·)

/-- The keys and values of an object, repeated keys included. -/
def entriesOfTrees? (depth : Nat) : List (List Piece × Tree) → Option (List (String × Json))
  | [] => some []
  | (key, tree) :: rest =>
    match Piece.text? key, ofTree? depth tree with
    | some name, some value => (entriesOfTrees? depth rest).map ((name, value) :: ·)
    | _, _ => none

end

/-- The value of a list of characters, if it is a JSON text within the limits. -/
def ofChars? (chars : List Char) : Option Json :=
  (Tree.parse? chars).bind (ofTree? depthLimit)

/-- The value of a text, if it is a JSON text within the limits. -/
def parse? (text : String) : Option Json :=
  ofChars? text.toList

end OpenApiTools.Json
