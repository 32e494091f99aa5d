import OpenApiTools.Json.Tree

/-!
# Records

Settings are read from a text as records with named fields. A record is an object, whose unknown
fields may hold anything, or an array of the fields in order. Known fields occur at most once, and
missing ones have defaults.
-/

namespace OpenApiTools.Json.Record

/-- The entries of an object with their keys as texts; none if a key stands for no text. -/
def keyed? : List (List Piece × Tree) → Option (List (String × Tree))
  | [] => some []
  | (key, tree) :: rest =>
    match Piece.text? key with
    | some name => (keyed? rest).map ((name, tree) :: ·)
    | none => none

/-- The value of a field that occurs at most once: none if it occurs more often. -/
def unique? (entries : List (String × Tree)) (name : String) : Option (Option Tree) :=
  match entries.filter (·.1 == name) with
  | [] => some none
  | [(_, tree)] => some (some tree)
  | _ => none

/-- The values of the named fields of a record, in the order of the names. -/
def fields? (names : List String) : Tree → Option (List (Option Tree))
  | .object entries => (keyed? entries).bind fun keyed => names.mapM (unique? keyed)
  | .array items =>
    if items.length ≤ names.length then
      some (items.map some ++ List.replicate (names.length - items.length) none)
    else
      none
  | _ => none

/-- Reads a string. -/
def string? : Tree → Option String
  | .string pieces => Piece.text? pieces
  | _ => none

/-- Reads a natural number of 64 bits, written without sign, fraction and exponent. -/
def natural? : Tree → Option Nat
  | .numeral numeral =>
    match numeral.integer? with
    | some (.ofNat n) => some n
    | _ => none
  | _ => none

/-- Reads a field that may be absent or null. -/
def optional? {α : Type} (read : Tree → Option α) : Option Tree → Option (Option α)
  | none => some none
  | some .null => some none
  | some tree => (read tree).map some

/-- Reads the name of an alternative, and its content if it has any: a string, or an object of one
field. -/
def alternative? : Tree → Option (String × Option Tree)
  | .string pieces => (Piece.text? pieces).map (·, none)
  | .object [(key, content)] => (Piece.text? key).map (·, some content)
  | _ => none

/-- Whether the content of an alternative that has none is left out or null. -/
def isUnit : Option Tree → Bool
  | none => true
  | some .null => true
  | _ => false

end OpenApiTools.Json.Record
