import OpenApiTools.Json.Basic

/-!
# Schemas

A schema is an object whose structural keys are lifted into typed views, beside the object itself as
it was written. Anything that is not an object is a literal schema.
-/

namespace OpenApiTools

/-- A JSON schema with views on its structure. -/
inductive SchemaNode
  /-- A schema of objects: its type says so, or it has properties. -/
  | object (properties : Option (List (String × SchemaNode))) (required : Option (List String))
    (fields : List (String × Json))
  /-- Another schema of arrays: its type says so, or it has items. -/
  | array (items : Option SchemaNode) (fields : List (String × Json))
  /-- Any other object. -/
  | scalar (kind : Option String) (enumeration : Option (List Json))
    (fields : List (String × Json))
  /-- A value that is no object. -/
  | literal (value : Json)

namespace SchemaNode

/-- The texts of items that are all strings. -/
def strings? : List Json → Option (List String)
  | [] => some []
  | .string text :: rest => (strings? rest).map (text :: ·)
  | _ :: _ => none

/-- The required names, if they are an array of strings. -/
def requiredOf (fields : Fields) : Option (List String) :=
  (fields.get? "required").bind fun names => names.asArray?.bind strings?

/-- The type, if it is a single string. -/
def typeOf (fields : Fields) : Option String :=
  (fields.get? "type").bind Json.asString?

/-- Whether an object describes objects. -/
def describesObject (fields : Fields) : Bool :=
  typeOf fields == some "object" || fields.has "properties"

/-- Whether an object that does not describe objects describes arrays. -/
def describesArray (fields : Fields) : Bool :=
  typeOf fields == some "array" || fields.has "items"

mutual

/-- The schema that a value is. -/
def ofJson : Json → SchemaNode
  | .object fields =>
    if describesObject fields then
      .object (propertiesOf fields) (requiredOf fields) fields
    else if describesArray fields then
      .array (itemsOf fields) fields
    else
      .scalar (typeOf fields) ((Entries.get? "enum" fields).bind Json.asArray?) fields
  | .null => .literal .null
  | .bool value => .literal (.bool value)
  | .number value => .literal (.number value)
  | .string value => .literal (.string value)
  | .array items => .literal (.array items)
termination_by structural value => value

/-- The schemas of the properties, if they are an object. -/
def propertiesOf : List (String × Json) → Option (List (String × SchemaNode))
  | [] => none
  | (key, .object properties) :: rest =>
    if key = "properties" then some (ofFields properties) else propertiesOf rest
  | (key, _) :: rest => if key = "properties" then none else propertiesOf rest
termination_by structural fields => fields

/-- The schema of the items. -/
def itemsOf : List (String × Json) → Option SchemaNode
  | [] => none
  | (key, value) :: rest => if key = "items" then some (ofJson value) else itemsOf rest
termination_by structural fields => fields

/-- The schemas of fields. -/
def ofFields : List (String × Json) → List (String × SchemaNode)
  | [] => []
  | (key, value) :: rest => (key, ofJson value) :: ofFields rest
termination_by structural fields => fields

end

/-- The schema as it was written. -/
def toJson : SchemaNode → Json
  | .object _ _ fields => .object fields
  | .array _ fields => .object fields
  | .scalar _ _ fields => .object fields
  | .literal value => value

/-- The value under a key of the schema as it was written. -/
def field? (key : String) : SchemaNode → Option Json
  | .object _ _ fields => Entries.get? key fields
  | .array _ fields => Entries.get? key fields
  | .scalar _ _ fields => Entries.get? key fields
  | .literal _ => none

/-- The type, if it is a single string. -/
def typeName? (node : SchemaNode) : Option String :=
  (node.field? "type").bind Json.asString?

end SchemaNode

end OpenApiTools
