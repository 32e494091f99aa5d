import OpenApiTools.Json.Token

/-!
# Parse trees of JSON texts

A tree holds a text's structure as written: repeated keys stay, nesting is unlimited, and numbers
and strings are not yet evaluated. Trees are built by reading tokens onto a stack of unfinished
arrays and objects.
-/

namespace OpenApiTools.Json

/-- A JSON text without its blanks. -/
inductive Tree
  | null
  | bool (value : Bool)
  | numeral (value : Numeral)
  | string (pieces : List Piece)
  | array (items : List Tree)
  | object (entries : List (List Piece × Tree))
  deriving Repr

namespace Tree

/-- An array or object whose end has not been read; its contents are in reverse. An object waits
for the value of a key. -/
inductive Frame
  | array (items : List Tree)
  | object (entries : List (List Piece × Tree)) (key : List Piece)

/-- What may come next. -/
inductive Expectation
  /-- A value. -/
  | value
  /-- A first item, or the end of the array. -/
  | firstItem
  /-- A first key, or the end of the object. -/
  | firstKey
  /-- A key after a comma. -/
  | key (entries : List (List Piece × Tree))
  /-- The colon after a key. -/
  | colon (entries : List (List Piece × Tree)) (key : List Piece)
  /-- The end of a value, and what follows it. -/
  | after (tree : Tree)

/-- A stage of reading: what is expected, inside which unfinished containers. -/
structure Builder where
  expectation : Expectation
  frames : List Frame

/-- Reads the first token of a value. -/
def beginValue? (frames : List Frame) : Token → Option Builder
  | .null => some ⟨.after .null, frames⟩
  | .bool value => some ⟨.after (.bool value), frames⟩
  | .numeral value => some ⟨.after (.numeral value), frames⟩
  | .string pieces => some ⟨.after (.string pieces), frames⟩
  | .openBracket => some ⟨.firstItem, frames⟩
  | .openBrace => some ⟨.firstKey, frames⟩
  | _ => none

/-- Reads the token after a complete value. -/
def afterValue? (tree : Tree) : List Frame → Token → Option Builder
  | .array items :: frames, .comma => some ⟨.value, .array (tree :: items) :: frames⟩
  | .array items :: frames, .closeBracket =>
    some ⟨.after (.array (tree :: items).reverse), frames⟩
  | .object entries key :: frames, .comma => some ⟨.key ((key, tree) :: entries), frames⟩
  | .object entries key :: frames, .closeBrace =>
    some ⟨.after (.object ((key, tree) :: entries).reverse), frames⟩
  | _, _ => none

/-- Reads one token. -/
def step? (builder : Builder) (token : Token) : Option Builder :=
  let frames := builder.frames
  match builder.expectation, token with
  | .value, _ => beginValue? frames token
  | .firstItem, .closeBracket => some ⟨.after (.array []), frames⟩
  | .firstItem, _ => beginValue? (.array [] :: frames) token
  | .firstKey, .closeBrace => some ⟨.after (.object []), frames⟩
  | .firstKey, .string key => some ⟨.colon [] key, frames⟩
  | .key entries, .string key => some ⟨.colon entries key, frames⟩
  | .colon entries key, .colon => some ⟨.value, .object entries key :: frames⟩
  | .after tree, _ => afterValue? tree frames token
  | _, _ => none

/-- The tree of a complete text. -/
def finish? (builder : Builder) : Option Tree :=
  match builder.expectation, builder.frames with
  | .after tree, [] => some tree
  | _, _ => none

/-- The tree that tokens spell. -/
def ofTokens? (tokens : List Token) : Option Tree :=
  (tokens.foldlM step? ⟨.value, []⟩).bind finish?

/-- The tree of a text. -/
def parse? (chars : List Char) : Option Tree :=
  (Token.scan? chars).bind ofTokens?

/-- The tree of bytes, which need be no text inside their strings. -/
def parseBytes? (bytes : ByteArray) : Option Tree :=
  (Token.scanSymbols? (Text.symbols bytes)).bind ofTokens?

end Tree

end OpenApiTools.Json
