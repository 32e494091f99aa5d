import OpenApiTools.Schema.Node

/-!
# Parameters and bodies of operations

What an operation declares about its input. Entries of an unexpected shape are skipped, and missing
details have defaults.
-/

namespace OpenApiTools

/-- Where a parameter is sent. -/
inductive ParameterLocation
  | path
  | query
  | header
  | cookie
  | other (name : String)
  deriving DecidableEq, Repr

namespace ParameterLocation

/-- The location with a name. -/
def ofName (name : String) : ParameterLocation :=
  if name = "path" then .path
  else if name = "query" then .query
  else if name = "header" then .header
  else if name = "cookie" then .cookie
  else .other name

/-- Whether parameters there become arguments of a tool. -/
def isToolInput : ParameterLocation → Bool
  | .path | .query => true
  | _ => false

end ParameterLocation

/-- A parameter of an operation. -/
structure Parameter where
  name : String
  location : ParameterLocation
  required : Bool
  /-- The schema of its values as written, empty if it has none. -/
  valueSchema : Fields
  description : String

namespace Parameter

/-- The parameter that an entry declares. An entry without a name declares none; one without a
location declares a query parameter. -/
def ofJson? (entry : Json) : Option Parameter :=
  (entry.getString? "name").map fun name =>
    { name
      location := ((entry.getString? "in").map ParameterLocation.ofName).getD .query
      required := (entry.getBool? "required").getD false
      valueSchema := ((entry.get? "schema").bind Json.asObject?).getD []
      description := (entry.getString? "description").getD "" }

/-- The parameters that a list of entries declares. -/
def listOfJson (entries : Option Json) : List Parameter :=
  ((entries.bind Json.asArray?).getD []).filterMap ofJson?

/-- The field with a key of the value schema, if it is there. -/
def copied (parameter : Parameter) (key : String) : Fields :=
  (parameter.valueSchema.get? key).toList.map fun value => (key, value)

/-- The schema of the argument that a parameter becomes. -/
def property (parameter : Parameter) : SchemaNode :=
  .ofJson (.object
    ([("type", (parameter.valueSchema.get? "type").getD (.string "string")),
      ("description", .string parameter.description)]
      ++ parameter.copied "enum" ++ parameter.copied "default"))

/-- Whether the argument has to be given. Parameters of the path always do. -/
def isRequired (parameter : Parameter) : Bool :=
  parameter.required || parameter.location == .path

end Parameter

/-- The body of a request, as far as it is JSON. -/
structure RequestBody where
  required : Bool
  schema : SchemaNode

namespace RequestBody

/-- The media type whose schema counts. -/
def mediaType : String := "application/json"

/-- The body that a declaration describes, if it has a schema for JSON. -/
def ofJson? (body : Json) : Option RequestBody :=
  (((body.get? "content").bind (·.get? mediaType)).bind (·.get? "schema")).map fun schema =>
    { required := (body.getBool? "required").getD false
      schema := .ofJson schema }

end RequestBody

end OpenApiTools
