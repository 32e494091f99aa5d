import OpenApiTools.Text.Blank
import OpenApiTools.Text.Case

/-!
# Names of tools

A tool is named after its operation's identifier, or else after its method and path: braces are
deleted, and the pieces between separators are joined by single underscores. A namespace goes in
front of either.
-/

namespace OpenApiTools.ToolName

/-- Characters that separate the pieces of a path, besides the underscore. -/
def isSeparator (c : Char) : Bool := c == '/' || c == '-' || c == '.'

/-- The characters around placeholders. -/
def isBrace (c : Char) : Bool := c == '\x7b' || c == '\x7d'

/-- Leaves one underscore of each run of them. -/
def squeezeUnderscores : List Char → List Char
  | '_' :: '_' :: rest => squeezeUnderscores ('_' :: rest)
  | c :: rest => c :: squeezeUnderscores rest
  | [] => []

/-- The part of a name that comes from a path. -/
def ofPath (path : List Char) : List Char :=
  let unslashed := path.dropWhile (· == '/')
  let separated := unslashed.map fun c => if isSeparator c then '_' else c
  let unbraced := separated.filter (!isBrace ·)
  Text.dropAround (· == '_') (squeezeUnderscores unbraced)

/-- Puts a namespace in front of a name, unless it is empty. -/
def withNamespace (name : String) (nameSpace : Option String) : String :=
  match nameSpace.filter (!·.isEmpty) with
  | some outer => outer ++ "_" ++ name
  | none => name

/-- The name made from a method and a path. -/
def generate (method path : String) (nameSpace : Option String) : String :=
  let cleaned := ofPath path.toList
  let lowered := Text.lowercase method
  let name := if cleaned.isEmpty then lowered else lowered ++ "_" ++ String.ofList cleaned
  withNamespace name nameSpace

/-- The name of an operation: its identifier as it is, if it has one that is not empty. -/
def resolve (operationId : Option String) (method path : String) (nameSpace : Option String) :
    String :=
  match operationId.filter (!·.isEmpty) with
  | some identifier => withNamespace identifier nameSpace
  | none => generate method path nameSpace

end OpenApiTools.ToolName
