import OpenApiTools.Error
import OpenApiTools.Json.Printer
import OpenApiTools.Json.Reader
import OpenApiTools.Yaml.Reader

/-!
# API documents

A document is an object that declares a format version. All else in it is read leniently: parts of
an unexpected shape count as absent.
-/

namespace OpenApiTools

/-- A document that describes an API. -/
structure Document where
  fields : Fields

namespace Document

/-- The document that a JSON value is. -/
def ofJson (value : Json) : Except ImportError Document :=
  match value with
  | .object fields =>
    if Entries.has "openapi" fields || Entries.has "swagger" fields then .ok ⟨fields⟩
    else .error .missingVersion
  | _ => .error .rootNotObject

/-- The value that a text reads as: as JSON if it can be, and as YAML otherwise. -/
def reading? (text : String) : Option Json :=
  (Json.parse? text).or (Yaml.parse? text)

/-- The document that a text holds. -/
def load (text : String) : Except ImportError Document :=
  match reading? text with
  | some value => ofJson value
  | none => .error .malformed

/-- The declared version as text, if it is a string or a number. -/
def version? (document : Document) : Option String :=
  match (document.fields.get? "openapi").or (document.fields.get? "swagger") with
  | some (.string text) => some text
  | some (.number number) => some number.text
  | _ => none

/-- The title of the API. -/
def title (document : Document) : String :=
  ((document.fields.get? "info").bind (·.getString? "title")).getD "Unknown"

/-- The paths, if they are an object. -/
def paths? (document : Document) : Option Fields :=
  (document.fields.get? "paths").bind Json.asObject?

/-- The servers, if they are an array. -/
def servers? (document : Document) : Option (List Json) :=
  (document.fields.get? "servers").bind Json.asArray?

/-- The security schemes, if they are an object. -/
def securitySchemes? (document : Document) : Option Fields :=
  ((document.fields.get? "components").bind (·.get? "securitySchemes")).bind Json.asObject?

end Document

end OpenApiTools
