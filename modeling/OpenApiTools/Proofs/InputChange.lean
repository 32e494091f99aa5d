import OpenApiTools.Json.Printer
import OpenApiTools.Proofs.Argument

/-!
# Input schemas made by changes

An input schema is made from the empty one by setting properties and by requiring names, in any
order and any number of times. Each change adds to the names of the properties or to the required
ones at most one name that is new there, so that no name is there twice. That is why writing the
properties down one by one gives the same as collecting them in an object first.
-/

namespace OpenApiTools

namespace Json

variable (layout : Layout) (depth : Nat)

/-- The items of an array are written one by one. -/
theorem writeItems_eq_map (items : List Json) :
    writeItems layout depth items = items.map (write layout depth) := by
  induction items with
  | nil => rfl
  | cons item rest inductionHypothesis =>
    rw [writeItems, inductionHypothesis, List.map_cons]

/-- The fields of an object are written one by one. -/
theorem writeFields_eq_map (fields : Fields) :
    writeFields layout depth fields =
      fields.map fun (key, value) =>
        layout.field (writeString key) (write layout depth value) := by
  induction fields with
  | nil => rfl
  | cons field rest inductionHypothesis =>
    rw [writeFields, inductionHypothesis, List.map_cons]

end Json

namespace InputSchema

/-- A change of an input schema. -/
inductive Change
  | insert (name : String) (schema : SchemaNode)
  | require (name : String)

namespace Change

/-- The name of the property that is set, if any is. -/
def inserted : Change → List String
  | insert name _ => [name]
  | require _ => []

end Change

/-- The input schema after a change. -/
def apply (input : InputSchema) : Change → InputSchema
  | .insert name schema => input.insert name schema
  | .require name => input.require name

/-- The input schema that changes make from the empty one. -/
def made (changes : List Change) : InputSchema :=
  changes.foldl apply empty

/-- The text of an input schema at a depth, written straight from its lists: three fields, of which
the second has every property as it comes. -/
def streamed (layout : Json.Layout) (depth : Nat) (input : InputSchema) : List Char :=
  layout.object depth
    [layout.field (Json.writeString "type") (Json.writeString "object"),
     layout.field (Json.writeString "properties")
      (layout.object (depth + 1) (input.properties.map fun (name, schema) =>
        layout.field (Json.writeString name) (schema.toJson.write layout (depth + 2)))),
     layout.field (Json.writeString "required")
      (layout.array (depth + 1) (input.required.map Json.writeString))]

/-- The text of an input schema is written straight from its lists. -/
theorem write_toJson (layout : Json.Layout) (depth : Nat) (input : InputSchema) :
    input.toJson.write layout depth = input.streamed layout depth := by
  have properties : (Json.object input.listing).write layout (depth + 1) =
      layout.object (depth + 1) (input.properties.map fun (name, schema) =>
        layout.field (Json.writeString name) (schema.toJson.write layout (depth + 2))) := by
    rw [Json.write, Json.writeFields_eq_map, listing, Entries.mapValues, List.map_map]
    rfl
  have required : (Json.array (input.required.map .string)).write layout (depth + 1) =
      layout.array (depth + 1) (input.required.map Json.writeString) := by
    rw [Json.write, Json.writeItems_eq_map, List.map_map]
    rfl
  rw [toJson, objectSchema, Json.write, Json.writeFields, Json.writeFields, Json.writeFields,
    Json.writeFields, properties, required]
  rfl

/-- Collecting the properties of an input schema changes nothing if no name is there twice. -/
theorem collect_eq_toJson {input : InputSchema} (distinct : input.names.Nodup) :
    input.collect = input.toJson := by
  have keys : (Entries.keys input.listing).Nodup := by
    rw [listing, Entries.keys_mapValues]
    exact distinct
  rw [collect, Entries.ofList_eq_self keys, toJson]

/-- A change adds to the names of the properties the one that it sets. -/
theorem names_apply (input : InputSchema) (change : Change) :
    (input.apply change).names = appendNew input.names change.inserted := by
  cases change with
  | insert name schema => exact names_insert_eq_appendNew input name schema
  | require name => exact names_require input name

/-- The names of the properties are those that the changes set, each at its first occurrence. -/
theorem names_made (changes : List Change) :
    (made changes).names = appendNew [] (changes.flatMap Change.inserted) :=
  foldl_eq_appendNew names Change.inserted names_apply empty changes

/-- No two properties have the same name. -/
theorem nodup_names_made (changes : List Change) : (made changes).names.Nodup := by
  rw [names_made]
  exact nodup_appendNew List.nodup_nil _

/-- Whatever changes make an input schema, both of its renderings are one and the same text, written
straight from its lists; and they show one and the same object, which has a type, the properties in
the order of their names, and the required names. -/
theorem renderings_agree (changes : List Change) :
    let input := made changes
    (∀ layout, input.toJson.render layout = String.ofList (input.streamed layout 0) ∧
      input.collect.render layout = String.ofList (input.streamed layout 0)) ∧
    ∃ properties : Fields,
      input.toJson = .object
        [("type", .string "object"), ("properties", .object properties),
         ("required", .array (input.required.map .string))] ∧
      input.collect = input.toJson ∧ properties.keys = input.names ∧ properties.keys.Nodup ∧
      properties = input.properties.mapValues SchemaNode.toJson := by
  intro input
  have distinct : input.names.Nodup := nodup_names_made changes
  have collected := collect_eq_toJson distinct
  have keys : Entries.keys input.listing = input.names := Entries.keys_mapValues _ _
  have streams (layout : Json.Layout) :
      input.toJson.render layout = String.ofList (input.streamed layout 0) := by
    rw [Json.render, write_toJson]
  refine ⟨fun layout => ⟨streams layout, ?_⟩, input.listing, rfl, collected, keys, ?_, rfl⟩
  · rw [collected, streams]
  · rwa [keys]

end InputSchema

end OpenApiTools
