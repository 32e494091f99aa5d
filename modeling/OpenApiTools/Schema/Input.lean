import OpenApiTools.Schema.Node

/-!
# Input schemas of tools

The schema of the arguments of a tool: named properties in the order in which they were first
given, and the names of those that are required in the order in which they were first marked.
-/

namespace OpenApiTools

/-- The properties and required names of a tool's input. -/
structure InputSchema where
  properties : Entries SchemaNode
  required : List String

namespace InputSchema

/-- The schema without properties. -/
def empty : InputSchema := ⟨[], []⟩

/-- Adds a property, or replaces it in place. -/
def insert (input : InputSchema) (name : String) (schema : SchemaNode) : InputSchema :=
  { input with properties := input.properties.insert name schema }

/-- Marks a name as required, unless it is already. -/
def require (input : InputSchema) (name : String) : InputSchema :=
  if name ∈ input.required then input
  else { input with required := input.required ++ [name] }

/-- The schema of a property. -/
def property? (input : InputSchema) (name : String) : Option SchemaNode :=
  input.properties.get? name

/-- Whether there is a property with this name. -/
def hasProperty (input : InputSchema) (name : String) : Bool :=
  input.properties.has name

/-- The names of the properties in order. -/
def names (input : InputSchema) : List String :=
  input.properties.keys

/-- Whether a name is marked as required. -/
def isRequired (input : InputSchema) (name : String) : Bool :=
  input.required.contains name

/-- A JSON schema of objects with these properties and required names. -/
def objectSchema (properties : Fields) (required : List String) : Json :=
  .object
    [("type", .string "object"),
     ("properties", .object properties),
     ("required", .array (required.map .string))]

/-- The properties in order, each with its schema as it was written. -/
def listing (input : InputSchema) : Fields :=
  input.properties.mapValues SchemaNode.toJson

/-- The input schema as JSON, its properties listed one by one. -/
def toJson (input : InputSchema) : Json :=
  objectSchema input.listing input.required

/-- The input schema as JSON, its properties entered into an object one after the other, so that
no name occurs twice there whatever the list holds. -/
def collect (input : InputSchema) : Json :=
  objectSchema (Entries.ofList input.listing) input.required

/-- A property that is set joins the names at the end unless it is among them. -/
theorem names_insert (input : InputSchema) (name : String) (schema : SchemaNode) :
    (input.insert name schema).names =
      if name ∈ input.names then input.names else input.names ++ [name] :=
  Entries.keys_insert name schema input.properties

/-- Setting a property requires nothing. -/
@[simp] theorem required_insert (input : InputSchema) (name : String) (schema : SchemaNode) :
    (input.insert name schema).required = input.required := rfl

/-- Requiring a name leaves the properties alone. -/
@[simp] theorem properties_require (input : InputSchema) (name : String) :
    (input.require name).properties = input.properties := by
  unfold require
  split <;> rfl

/-- A name that is required joins the required ones at the end unless it is among them. -/
theorem required_require (input : InputSchema) (name : String) :
    (input.require name).required =
      if name ∈ input.required then input.required else input.required ++ [name] := by
  unfold require
  split <;> rfl

end InputSchema

end OpenApiTools
