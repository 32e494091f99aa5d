import OpenApiTools.Text.Word

/-!
# Placeholders

A placeholder of a path is a non-empty run of word characters between braces.
-/

namespace OpenApiTools.Placeholder

/-- The placeholder that starts right after an opening brace, if there is one. -/
def nameAfterBrace? (chars : List Char) : Option (List Char) :=
  let name := chars.takeWhile Text.isWord
  match chars.dropWhile Text.isWord with
  | '\x7d' :: _ => if name.isEmpty then none else some name
  | _ => none

/-- The placeholders of a list of characters, from left to right. -/
def ofChars : List Char → List (List Char)
  | [] => []
  | c :: rest =>
    if c = '\x7b' then (nameAfterBrace? rest).toList ++ ofChars rest else ofChars rest

/-- The names of the placeholders of a path, from left to right, repeated ones included. -/
def names (path : String) : List String :=
  (ofChars path.toList).map String.ofList

end OpenApiTools.Placeholder
