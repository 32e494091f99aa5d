import OpenApiTools.Method
import OpenApiTools.Placeholder
import OpenApiTools.Schema.Input
import OpenApiTools.Schema.Parameter

/-!
# The input schema of an operation

The arguments of a tool are, in this order, the parameters of the path and the query, the
placeholders of the path that no parameter declares, and the properties of the body, or the body as
a whole where it has none.
-/

namespace OpenApiTools.InputSchema

/-- Adds the argument that a parameter becomes. -/
def addParameter (input : InputSchema) (parameter : Parameter) : InputSchema :=
  let extended := input.insert parameter.name parameter.property
  if parameter.isRequired then extended.require parameter.name else extended

/-- The schema of a placeholder that no parameter declares. -/
def placeholderProperty (name : String) : SchemaNode :=
  .ofJson (.object
    [("type", .string "string"), ("description", .string ("Path parameter: " ++ name))])

/-- Adds a placeholder, unless there is a property of its name. -/
def addPlaceholder (input : InputSchema) (name : String) : InputSchema :=
  if input.hasProperty name then input
  else (input.insert name (placeholderProperty name)).require name

/-- The name of the argument that stands for a whole body. -/
def bodyName : String := "body"

/-- Adds the properties of a body's schema, or the body as a whole. A schema whose properties are
malformed adds nothing. -/
def addBody (input : InputSchema) (body : RequestBody) : InputSchema :=
  match body.schema with
  | .object (some properties) required _ =>
    let extended := properties.foldl (fun input (name, schema) => input.insert name schema) input
    (required.getD []).foldl require extended
  | .object none required fields =>
    if Entries.has "properties" fields then input else addWhole (.object none required fields)
  | whole => addWhole whole
where
  /-- Adds the body under one name. -/
  addWhole (schema : SchemaNode) : InputSchema :=
    let extended := input.insert bodyName schema
    if body.required then extended.require bodyName else extended

/-- The input schema of an operation. -/
def ofOperation (path : String) (parameters : List Parameter) (body : Option RequestBody)
    (method : Method) : InputSchema :=
  let declared := (parameters.filter (·.location.isToolInput)).foldl addParameter empty
  let complete := (Placeholder.names path).foldl addPlaceholder declared
  match body with
  | some body => if method.acceptsBody then complete.addBody body else complete
  | none => complete

end OpenApiTools.InputSchema
