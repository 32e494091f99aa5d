import OpenApiTools.Proofs.Argument
import OpenApiTools.Proofs.Schema

/-!
# Properties of an input schema

What a property of an input schema is can be read off the declaration of the operation. The three
loops that write the schema agree on one rule: a name keeps the place where it comes first, and its
schema is that of the body if it is there, or else that of the last parameter with the name, or else
that of a placeholder. The rule is stated here on the declaration as it was written, and the loops
are followed one by one.
-/

namespace OpenApiTools

namespace Json

/-- The name of the argument that an entry of a list of parameters declares: the entry has a name,
and it does not say that it is sent elsewhere than in the path or the query. -/
def argumentName? (entry : Json) : Option String :=
  match entry.get? "name", entry.get? "in" with
  | some (.string name), some (.string location) =>
    if location = "path" ∨ location = "query" then some name else none
  | some (.string name), _ => some name
  | _, _ => none

/-- What the schema of an entry has under a key. -/
def schemaField? (entry : Json) (key : String) : Option Json :=
  (entry.get? "schema").bind (·.get? key)

/-- The schema of the argument that an entry declares: type and description, which have defaults,
and the values that are allowed and the one that is meant if there is none, as far as they are
given. -/
def argumentSchema (entry : Json) : Json :=
  .object
    ([("type", (entry.schemaField? "type").getD (.string "string")),
      ("description", .string ((entry.getString? "description").getD ""))] ++
      ["enum", "default"].filterMap fun key => (entry.schemaField? key).map (key, ·))

/-- The arguments that a body with this schema becomes: its properties, or the body as a whole if
its schema does not speak of properties. -/
def bodyArguments (schema : Json) : Fields :=
  match schema.get? "properties" with
  | some (.object properties) => properties
  | some _ => []
  | none => [("body", schema)]

/-- The schema of a placeholder that is declared nowhere. -/
def placeholderSchema (name : String) : Json :=
  .object [("type", .string "string"), ("description", .string ("Path parameter: " ++ name))]

end Json

namespace Operation

variable (operation : Operation)

/-- The entries of the parameters that declare an argument, under the name of the argument. -/
def declaredArguments : Entries Json :=
  match operation.declaration.get? "parameters" with
  | some (.array entries) => entries.filterMap fun entry => entry.argumentName?.map (·, entry)
  | _ => []

/-- The schema of a JSON body, if requests with the method have a body. -/
def bodySchema? : Option Json :=
  if operation.method ∈ [.post, .put, .patch] then do
    let body ← operation.declaration.get? "requestBody"
    let content ← body.get? "content"
    let media ← content.get? "application/json"
    media.get? "schema"
  else none

/-- The arguments that the body becomes. -/
def bodyArguments : Fields :=
  (operation.bodySchema?.map Json.bodyArguments).getD []

/-- The names of the arguments, each at its first occurrence. -/
def argumentNames : List String :=
  appendNew []
    (operation.declaredArguments.keys ++ Placeholder.names operation.path ++
      operation.bodyArguments.keys)

/-- The schema of an argument: the body comes before the parameters, and these come before the
placeholders. Of several entries with the name the last counts. -/
def argument? (name : String) : Option Json :=
  (operation.bodyArguments.last? name).or <|
    ((operation.declaredArguments.last? name).map Json.argumentSchema).or <|
      if name ∈ Placeholder.names operation.path then some (Json.placeholderSchema name) else none

end Operation

/-- The parameters of the path and the query are those that become arguments. -/
theorem ParameterLocation.isToolInput_ofName (name : String) :
    (ofName name).isToolInput = decide (name = "path" ∨ name = "query") := by
  unfold ofName
  repeat' split
  all_goals simp_all [isToolInput]

namespace Parameter

variable {entry : Json} {parameter : Parameter}

/-- The fields of the value schema are those of the schema of the entry. -/
theorem get?_valueSchema (declared : ofJson? entry = some parameter) (key : String) :
    parameter.valueSchema.get? key = entry.schemaField? key := by
  obtain ⟨name, -, rfl⟩ := Option.map_eq_some_iff.mp declared
  unfold Json.schemaField?
  cases entry.get? "schema" with
  | none => rfl
  | some schema => cases schema <;> rfl

/-- The schema of a parameter is the one that its entry declares. -/
theorem toJson_property (declared : ofJson? entry = some parameter) :
    parameter.property.toJson = entry.argumentSchema := by
  have description : parameter.description = (entry.getString? "description").getD "" := by
    obtain ⟨name, -, rfl⟩ := Option.map_eq_some_iff.mp declared
    rfl
  rw [property, SchemaNode.toJson_ofJson, copied, copied, get?_valueSchema declared,
    get?_valueSchema declared, get?_valueSchema declared, description, Json.argumentSchema]
  cases hasEnum : entry.schemaField? "enum" <;>
    cases hasDefault : entry.schemaField? "default" <;> simp [hasEnum, hasDefault]

/-- An entry declares an argument if it declares a parameter of the path or the query. -/
theorem argumentName?_eq (entry : Json) :
    entry.argumentName? = ((ofJson? entry).filter (·.location.isToolInput)).map name := by
  unfold Json.argumentName? ofJson? Json.getString?
  cases entry.get? "name" with
  | none => rfl
  | some name =>
    cases name with
    | string name =>
      cases entry.get? "in" with
      | none => rfl
      | some place =>
        cases place with
        | string place =>
          -- Only here does the location decide.
          by_cases isInput : place = "path" ∨ place = "query" <;>
            simp [Json.asString?, Option.filter_some, ParameterLocation.isToolInput_ofName, isInput]
        | _ => rfl
    | _ => rfl

/-- The arguments among the parameters that a list declares are those that its entries declare, and
so is whatever can be read off the entries of the parameters. -/
theorem map_arguments_listOfJson {α : Type} {ofParameter : Parameter → α} {ofEntry : Json → α}
    (agree : ∀ {entry parameter}, ofJson? entry = some parameter →
      ofParameter parameter = ofEntry entry) (entries : List Json) :
    ((arguments (listOfJson (some (.array entries)))).map fun parameter =>
        (parameter.name, ofParameter parameter)) =
      Entries.mapValues ofEntry
        (entries.filterMap fun entry => entry.argumentName?.map (·, entry)) := by
  have each (entry : Json) :
      (((ofJson? entry).filter (·.location.isToolInput)).map fun parameter =>
          (parameter.name, ofParameter parameter)) =
        (entry.argumentName?.map (·, entry)).map fun argument =>
          (argument.1, ofEntry argument.2) := by
    rw [argumentName?_eq]
    cases declared : ofJson? entry with
    | none => rfl
    | some parameter =>
      cases isInput : parameter.location.isToolInput <;>
        simp [Option.filter_some, isInput, agree declared]
  rw [arguments, listOfJson, Entries.mapValues, List.map_filterMap, List.filter_filterMap,
    List.map_filterMap]
  exact List.filterMap_congr fun entry _ => each entry

end Parameter

namespace RequestBody

/-- Only requests with three of the methods have a body. -/
theorem accepted_eq (method : Method) (body : Option RequestBody) :
    accepted method body = if method ∈ [.post, .put, .patch] then body else none := by
  cases method <;> cases body <;> rfl

/-- A body is read if there is a schema for JSON, and keeps it. -/
theorem map_schema_ofJson? (declaration : Json) :
    (ofJson? declaration).map schema =
      (do
        let content ← declaration.get? "content"
        let media ← content.get? "application/json"
        media.get? "schema").map SchemaNode.ofJson := by
  rw [ofJson?, Option.map_map, Option.bind_assoc]
  rfl

variable {body : RequestBody} {schema : Json}

/-- A body whose schema has properties has the entries of their object, if it is one. -/
theorem entries_of_get?_eq_some (isSchema : body.schema = .ofJson schema) {value : Json}
    (found : schema.get? "properties" = some value) :
    body.entries = (value.asObject?.map SchemaNode.ofFields).getD [] := by
  obtain ⟨fields, -, has, view⟩ := SchemaNode.exists_ofJson_of_get? found
  unfold entries
  rw [isSchema, view]
  cases value with
  | object properties => rfl
  | _ => exact if_pos has

/-- A body whose schema has no properties has a single entry. -/
theorem entries_of_get?_eq_none (isSchema : body.schema = .ofJson schema)
    (missing : schema.get? "properties" = none) :
    body.entries = [(InputSchema.bodyName, .ofJson schema)] := by
  rw [← isSchema]
  unfold entries
  split
  · rename_i isObject
    obtain ⟨noView, -⟩ :=
      SchemaNode.of_ofJson_eq_object_of_missing missing (isSchema.symm.trans isObject)
    contradiction
  · rename_i isObject
    obtain ⟨-, noKey⟩ :=
      SchemaNode.of_ofJson_eq_object_of_missing missing (isSchema.symm.trans isObject)
    exact if_neg (by simp [noKey])
  · rfl

/-- The entries of a body are the arguments that its schema gives. -/
theorem mapValues_entries (isSchema : body.schema = .ofJson schema) :
    body.entries.mapValues SchemaNode.toJson = schema.bodyArguments := by
  unfold Json.bodyArguments
  cases found : schema.get? "properties" with
  | none =>
    rw [entries_of_get?_eq_none isSchema found]
    simp [Entries.mapValues, InputSchema.bodyName]
  | some value =>
    rw [entries_of_get?_eq_some isSchema found]
    cases value with
    | object properties => exact SchemaNode.mapValues_toJson_ofFields properties
    | _ => rfl

end RequestBody

namespace Operation

variable (operation : Operation)

/-- The arguments among the parameters of an operation are those that it declares, and so is
whatever can be read off their entries. -/
theorem map_arguments {α : Type} {ofParameter : Parameter → α} {ofEntry : Json → α}
    (agree : ∀ {entry parameter}, Parameter.ofJson? entry = some parameter →
      ofParameter parameter = ofEntry entry) :
    (operation.arguments.map fun parameter => (parameter.name, ofParameter parameter)) =
      operation.declaredArguments.mapValues ofEntry := by
  unfold arguments declaredArguments
  cases operation.declaration.get? "parameters" with
  | none => rfl
  | some value =>
    cases value with
    | array entries => exact Parameter.map_arguments_listOfJson agree entries
    | _ => rfl

/-- The arguments among the parameters of an operation have the names that it declares. -/
theorem map_name_arguments :
    operation.arguments.map Parameter.name = operation.declaredArguments.keys := by
  have names := congrArg Entries.keys (operation.map_arguments Parameter.toJson_property)
  rwa [Entries.keys_mapValues, Entries.keys, List.map_map] at names

/-- An operation has a body exactly if it has a schema for one, which is that of the body. -/
theorem map_schema_body? :
    operation.body?.map RequestBody.schema = operation.bodySchema?.map SchemaNode.ofJson := by
  rw [body?, bodySchema?, RequestBody.accepted_eq]
  split
  · cases operation.declaration.get? "requestBody" with
    | none => rfl
    | some declaration => exact RequestBody.map_schema_ofJson? declaration
  · rfl

/-- The entries of the body of an operation are the arguments that it becomes. -/
theorem flatMap_entries_body? :
    (operation.body?.toList.flatMap fun body => body.entries.mapValues SchemaNode.toJson) =
      operation.bodyArguments := by
  have schemas := operation.map_schema_body?
  unfold bodyArguments
  cases isBody : operation.body? with
  | none =>
    rw [isBody, Option.map_none, eq_comm, Option.map_eq_none_iff] at schemas
    rw [schemas]
    rfl
  | some body =>
    rw [isBody, Option.map_some, eq_comm, Option.map_eq_some_iff] at schemas
    obtain ⟨schema, isSchema, written⟩ := schemas
    rw [isSchema, Option.toList_some, List.flatMap_singleton]
    exact RequestBody.mapValues_entries written.symm

end Operation

namespace InputSchema

variable (input : InputSchema)

/-- The names of a listing are those of the properties. -/
theorem keys_listing : input.listing.keys = input.names :=
  Entries.keys_mapValues SchemaNode.toJson input.properties

/-- A listing has the schemas of the properties as they were written. -/
theorem get?_listing (name : String) :
    input.listing.get? name = (input.property? name).map SchemaNode.toJson :=
  Entries.get?_mapValues SchemaNode.toJson name input.properties

/-- A parameter lists its schema under its name. -/
theorem listing_addParameter (parameter : Parameter) :
    (input.addParameter parameter).listing =
      input.listing.insert parameter.name parameter.property.toJson := by
  unfold addParameter
  split
  · rw [listing_require, listing_insert]
  · rw [listing_insert]

/-- Of several parameters the last with a name is listed under it. -/
theorem get?_listing_foldl_addParameter (parameters : List Parameter) (name : String) :
    (parameters.foldl addParameter input).listing.get? name =
      (Entries.last? name (parameters.map fun parameter =>
        (parameter.name, parameter.property.toJson))).or (input.listing.get? name) := by
  rw [← Entries.get?_foldl_insert, List.foldl_map]
  congr 1
  exact (List.foldl_hom listing fun input parameter =>
    (input.listing_addParameter parameter).symm).symm

/-- A placeholder is listed unless there is a property of its name. -/
theorem get?_listing_addPlaceholder (added name : String) :
    (input.addPlaceholder added).listing.get? name =
      (input.listing.get? name).or
        (if name = added then some (Json.placeholderSchema added) else none) := by
  have isThere : (input.listing.get? added).isSome = input.hasProperty added := by
    rw [get?_listing, Option.isSome_map]
    rfl
  unfold addPlaceholder
  split
  · rename_i present
    split
    · rename_i same
      rw [same, Option.or_of_isSome (isThere.trans present)]
    · rw [Option.or_none]
  · rename_i absent
    rw [listing_require, listing_insert, Entries.get?_insert, placeholderProperty,
      SchemaNode.toJson_ofJson]
    split
    · rename_i same
      have missing : input.listing.get? name = none := by
        rwa [← same, ← Option.not_isSome_iff_eq_none, isThere]
      rw [missing, if_pos same.symm]
      rfl
    · rename_i different
      rw [if_neg (Ne.symm different), Option.or_none]

/-- Placeholders are listed unless there are properties of their names. -/
theorem get?_listing_foldl_addPlaceholder (added : List String) (name : String) :
    (added.foldl addPlaceholder input).listing.get? name =
      (input.listing.get? name).or
        (if name ∈ added then some (Json.placeholderSchema name) else none) := by
  induction added generalizing input with
  | nil => simp
  | cons first rest inductionHypothesis =>
    rw [List.foldl_cons, inductionHypothesis, get?_listing_addPlaceholder, Option.or_assoc]
    by_cases same : name = first <;> simp [same]

/-- Requiring names leaves the listing alone. -/
theorem listing_foldl_require (names : List String) :
    (names.foldl require input).listing = input.listing := by
  induction names generalizing input with
  | nil => rfl
  | cons name rest inductionHypothesis =>
    rw [List.foldl_cons, inductionHypothesis, listing_require]

/-- Of several schemas that are set the last one with a name is listed under it. -/
theorem get?_listing_foldl_insert (entries : Entries SchemaNode) (name : String) :
    (entries.foldl (fun input (name, schema) => input.insert name schema) input).listing.get? name =
      (Entries.last? name (entries.mapValues SchemaNode.toJson)).or (input.listing.get? name) := by
  rw [← Entries.get?_foldl_insert, Entries.mapValues, List.foldl_map]
  congr 1
  exact (List.foldl_hom listing fun input entry =>
    (input.listing_insert entry.1 entry.2).symm).symm

/-- The last entry of a body with a name is listed under it. -/
theorem get?_listing_addBody (body : RequestBody) (name : String) :
    (input.addBody body).listing.get? name =
      (Entries.last? name (body.entries.mapValues SchemaNode.toJson)).or
        (input.listing.get? name) := by
  rw [addBody_eq, listing_foldl_require, get?_listing_foldl_insert]

end InputSchema

namespace Operation

variable (operation : Operation) (context : ToolContext)

/-- The properties of a tool are the arguments of its operation. -/
theorem names_input : (operation.tool context).input.names = operation.argumentNames := by
  have ofBody : (operation.body?.toList.flatMap fun body => body.entries.keys) =
      operation.bodyArguments.keys := by
    rw [← flatMap_entries_body?, Entries.keys, List.map_flatMap]
    congr
    funext body
    exact (Entries.keys_mapValues ..).symm
  rw [tool, Tool.ofOperation, InputSchema.names_ofOperation, ← arguments, ← body?,
    map_name_arguments, ofBody, argumentNames]

/-- Without the body, the listing has the parameters and the placeholders. -/
theorem get?_listing_foldl (name : String) :
    ((Placeholder.names operation.path).foldl InputSchema.addPlaceholder
      (operation.arguments.foldl InputSchema.addParameter .empty)).listing.get? name =
      ((operation.declaredArguments.last? name).map Json.argumentSchema).or
        (if name ∈ Placeholder.names operation.path then some (Json.placeholderSchema name)
          else none) := by
  have undeclared : InputSchema.empty.listing.get? name = none := rfl
  rw [InputSchema.get?_listing_foldl_addPlaceholder, InputSchema.get?_listing_foldl_addParameter,
    operation.map_arguments Parameter.toJson_property, Entries.last?_mapValues, undeclared,
    Option.or_none]

/-- The schema of each property of a tool is that of the argument. -/
theorem get?_listing_input (name : String) :
    (operation.tool context).input.listing.get? name = operation.argument? name := by
  rw [tool, Tool.ofOperation, InputSchema.ofOperation_eq, ← arguments, ← body?,
    argument?, ← get?_listing_foldl, ← flatMap_entries_body?]
  cases operation.body? with
  | none => rfl
  | some body =>
    rw [Option.toList_some, List.flatMap_singleton]
    exact InputSchema.get?_listing_addBody _ body name

/-- The properties of a tool's input are the arguments of its operation: each has the place at which
its name comes first, and the schema that the declaration gives it. -/
theorem properties_follow_declaration (operation : Operation) (context : ToolContext) :
    (operation.tool context).input.names = operation.argumentNames ∧
      ∃ properties : Fields,
        (operation.tool context).input.toJson.get? "properties" = some (.object properties) ∧
          properties.keys = operation.argumentNames ∧
          ∀ name, properties.get? name = operation.argument? name := by
  refine ⟨names_input .., _, rfl, ?_, get?_listing_input operation context⟩
  rw [InputSchema.keys_listing, names_input]

/-- A name is declared twice, and another one by a parameter, in the path and in the body. -/
example :
    let parameter (name type : String) : Json := .object
      [("name", .string name), ("schema", .object [("type", .string type)])]
    let body : Json := .object [("properties", .object [("id", .bool true)])]
    let operation : Operation :=
      ⟨"/pets/{owner}/{id}", .put, .object
        [("parameters", .array
            [parameter "tag" "null", parameter "id" "integer", parameter "tag" "array"]),
         ("requestBody", .object
            [("content", .object [("application/json", .object [("schema", body)])])])]⟩
    operation.argumentNames = ["tag", "id", "owner"] ∧
      operation.argument? "tag" =
        some (.object [("type", .string "array"), ("description", .string "")]) ∧
      operation.argument? "id" = some (.bool true) ∧
      operation.argument? "owner" = some (Json.placeholderSchema "owner") ∧
      operation.argument? "body" = none := by
  refine ⟨?_, ?_, ?_, ?_, ?_⟩ <;> rfl

end Operation

end OpenApiTools
