import OpenApiTools.Json.Reader
import OpenApiTools.Security

/-!
# Options of an import

What a caller can say beside the document: a namespace for the names of the tools, and which of the
declared security schemes counts. Options are read from JSON settings and written back as JSON.
-/

namespace OpenApiTools

/-- What an import can be told beside the document. -/
structure Options where
  nameSpace : Option String
  security : SchemeChoice
  deriving DecidableEq, Repr

namespace SchemeChoice

/-- The choice as JSON. -/
def toJson : SchemeChoice → Json
  | .first => .string "first"
  | .named name => .object [("named", .string name)]

/-- Reads a choice: a word, or an object of one field that is named for the choice. -/
def ofJson? : Json → Option SchemeChoice
  | .string "first" => some .first
  | .object [("first", .null)] => some .first
  | .object [("named", .string name)] => some (.named name)
  | _ => none

end SchemeChoice

namespace Options

/-- No namespace, and the first scheme. -/
def default : Options := ⟨none, .first⟩

/-- The namespace, unless it is empty. -/
def effectiveNameSpace (options : Options) : Option String :=
  options.nameSpace.filter (!·.isEmpty)

/-- The options as JSON. -/
def toJson (options : Options) : Json :=
  .object
    [("namespace", (options.nameSpace.map Json.string).getD .null),
     ("security", options.security.toJson)]

/-- The options that the values of the fields make up. The namespace may be null as well as absent;
the choice of a scheme may only be absent. -/
def ofFields? (nameSpace security : Option Json) : Option Options := do
  let nameSpace ← match nameSpace with
    | none => some none
    | some .null => some none
    | some value => value.asString?.map some
  let security ← match security with
    | none => some .first
    | some value => SchemeChoice.ofJson? value
  some { nameSpace, security }

/-- Reads options: an object, whose other fields do not matter, or an array of at most the two
fields in order. -/
def ofJson? : Json → Option Options
  | .object fields => ofFields? (Entries.get? "namespace" fields) (Entries.get? "security" fields)
  | .array [] => ofFields? none none
  | .array [nameSpace] => ofFields? (some nameSpace) none
  | .array [nameSpace, security] => ofFields? (some nameSpace) (some security)
  | _ => none

/-- Reads options from a text. -/
def parse? (text : String) : Option Options :=
  Json.parse? text >>= ofJson?

end Options

end OpenApiTools
