import OpenApiTools.Proofs.Property

/-!
# Required arguments of an input schema

Which arguments a tool has to be given can be read off the declaration of its operation, apart from
what their schemas are. Parameters, placeholders and the body each require names in their own way,
and a name is listed where it is required first. What replaces the schema of an argument later takes
nothing back. Only a body can require a name that is no argument, by listing it beside its
properties.
-/

namespace OpenApiTools

namespace Json

/-- Whether an entry of a list of parameters requires the argument that it declares: it says so, or
the argument is part of the path. -/
def requiresArgument (entry : Json) : Bool :=
  entry.getBool? "required" == some true || entry.getString? "in" == some "path"

/-- The names that a body with this schema requires: those that the schema lists beside its
properties, or the body as a whole if its schema does not speak of properties. -/
def requiredArguments (schema : Json) (bodyIsRequired : Bool) : List String :=
  match schema.get? "properties" with
  | some (.object _) => ((schema.get? "required").bind texts?).getD []
  | some _ => []
  | none => if bodyIsRequired then ["body"] else []

/-- The schema has properties, and lists the name as required beside them. -/
def ListsRequired (schema : Json) (name : String) : Prop :=
  ∃ (properties : Fields) (names : List String),
    schema.get? "properties" = some (.object properties) ∧
      schema.get? "required" = some (.array (names.map .string)) ∧ name ∈ names

/-- A truth value that is not given counts as the false one. -/
theorem getD_getBool? (value : Json) (key : String) :
    (value.getBool? key).getD false = (value.getBool? key == some true) := by
  cases value.getBool? key with
  | none => rfl
  | some truth => cases truth <;> rfl

/-- What a body with this schema requires is one of its arguments, unless the schema lists it. -/
theorem mem_keys_bodyArguments_or_listsRequired {schema : Json} {name : String}
    {bodyIsRequired : Bool} (required : name ∈ schema.requiredArguments bodyIsRequired) :
    name ∈ schema.bodyArguments.keys ∨ schema.ListsRequired name := by
  unfold requiredArguments at required
  split at required
  · rename_i properties hasProperties
    cases listed : (schema.get? "required").bind texts? with
    | none => simp [listed] at required
    | some names =>
      rw [listed, Option.getD_some] at required
      obtain ⟨value, isValue, areTexts⟩ := Option.bind_eq_some_iff.mp listed
      rw [texts?_eq_some_iff.mp areTexts] at isValue
      exact .inr ⟨properties, names, hasProperties, isValue, required⟩
  · exact absurd required List.not_mem_nil
  · rename_i noProperties
    split at required
    · rw [List.mem_singleton.mp required, bodyArguments, noProperties]
      exact .inl List.mem_cons_self
    · exact absurd required List.not_mem_nil

end Json

namespace Operation

variable (operation : Operation)

/-- Whether the operation requires a body. -/
def requiresBody : Bool :=
  (operation.declaration.get? "requestBody").bind (·.getBool? "required") == some true

/-- The names that the body requires. -/
def bodyRequirements : List String :=
  (operation.bodySchema?.map (·.requiredArguments operation.requiresBody)).getD []

/-- The names of the arguments that are required: those of the entries that require them, then the
placeholders that no argument is declared for, then those of the body, each at its first
occurrence. -/
def requiredNames : List String :=
  appendNew []
    (Entries.keys (operation.declaredArguments.filter (·.2.requiresArgument)) ++
      (Placeholder.names operation.path).filter (· ∉ operation.declaredArguments.keys) ++
      operation.bodyRequirements)

end Operation

/-- Only one name is that of the path. -/
theorem ParameterLocation.ofName_eq_path_iff {name : String} :
    ofName name = .path ↔ name = "path" := by
  unfold ofName
  repeat' split
  all_goals simp_all

/-- A parameter is required if its entry requires the argument. -/
theorem Parameter.isRequired_eq_requiresArgument {entry : Json} {parameter : Parameter}
    (declared : ofJson? entry = some parameter) :
    parameter.isRequired = entry.requiresArgument := by
  obtain ⟨name, -, rfl⟩ := Option.map_eq_some_iff.mp declared
  have isInPath : ((((entry.getString? "in").map ParameterLocation.ofName).getD .query) == .path) =
      (entry.getString? "in" == some "path") := by
    cases entry.getString? "in" with
    | none => rfl
    | some location =>
      rw [Bool.eq_iff_iff, Option.map_some, Option.getD_some, beq_iff_eq, beq_iff_eq,
        Option.some_inj]
      exact ParameterLocation.ofName_eq_path_iff
  rw [Json.requiresArgument, ← Json.getD_getBool?, ← isInPath]
  rfl

namespace RequestBody

variable {schema : Json}

/-- A body requires the names that its schema requires. -/
theorem requiredNames_eq (isRequired : Bool) (schema : Json) :
    requiredNames ⟨isRequired, .ofJson schema⟩ = schema.requiredArguments isRequired := by
  unfold Json.requiredArguments
  cases found : schema.get? "properties" with
  | some value =>
    obtain ⟨fields, rfl, has, view⟩ := SchemaNode.exists_ofJson_of_get? found
    rw [view]
    cases value with
    | object properties => exact congrArg (Option.getD · []) (SchemaNode.requiredOf_eq fields)
    -- What is no object is not viewed, but still keeps the body from being required as a whole.
    | _ => exact if_pos has
  | none =>
    unfold requiredNames
    split
    · rename_i isObject
      obtain ⟨noView, -⟩ := SchemaNode.of_ofJson_eq_object_of_missing found isObject
      contradiction
    · rename_i isObject
      obtain ⟨-, noKey⟩ := SchemaNode.of_ofJson_eq_object_of_missing found isObject
      exact if_neg (by simp [noKey])
    · rfl

end RequestBody

namespace Operation

variable (operation : Operation) (context : ToolContext)

/-- The body of an operation has the schema that is declared for it. -/
theorem body?_eq :
    operation.body? =
      operation.bodySchema?.map fun schema => ⟨operation.requiresBody, .ofJson schema⟩ := by
  rw [body?, bodySchema?, RequestBody.accepted_eq, requiresBody]
  split
  · cases operation.declaration.get? "requestBody" with
    | none => rfl
    | some declaration =>
      rw [Option.bind_some, Option.bind_some, RequestBody.ofJson?, Json.getD_getBool?,
        Option.bind_assoc]
      rfl
  · rfl

/-- The required names of the body of an operation are those that its declaration gives. -/
theorem flatMap_requiredNames_body? :
    operation.body?.toList.flatMap RequestBody.requiredNames = operation.bodyRequirements := by
  rw [body?_eq, bodyRequirements]
  cases operation.bodySchema? with
  | none => rfl
  | some schema =>
    rw [Option.map_some, Option.toList_some, List.flatMap_singleton, RequestBody.requiredNames_eq]
    rfl

/-- The names of the parameters that are required are those of the entries that require them. -/
theorem map_name_filter_arguments :
    (operation.arguments.filter Parameter.isRequired).map Parameter.name =
      Entries.keys (operation.declaredArguments.filter (·.2.requiresArgument)) := by
  have pairs := operation.map_arguments Parameter.isRequired_eq_requiresArgument
  have names := congrArg (fun pairs => Entries.keys (pairs.filter Prod.snd)) pairs
  simpa [Entries.keys, Entries.mapValues, List.filter_map, Function.comp_def] using names

/-- The required names of a tool are those that the declaration of its operation requires. -/
theorem required_input : (operation.tool context).input.required = operation.requiredNames := by
  rw [tool, Tool.ofOperation, InputSchema.required_ofOperation, ← arguments, ← body?,
    map_name_filter_arguments, map_name_arguments, flatMap_requiredNames_body?, requiredNames]

/-- A required name is an argument, unless the schema of the body lists it. -/
theorem mem_argumentNames_or_listsRequired {name : String}
    (required : name ∈ operation.requiredNames) :
    name ∈ operation.argumentNames ∨
      ∃ schema ∈ operation.bodySchema?, schema.ListsRequired name := by
  rw [requiredNames, mem_appendNew, List.mem_append, List.mem_append] at required
  rw [argumentNames, mem_appendNew, List.mem_append, List.mem_append]
  rcases required with none | (isDeclared | isPlaceholder) | ofBody
  · exact absurd none List.not_mem_nil
  · obtain ⟨argument, isArgument, rfl⟩ := List.mem_map.mp isDeclared
    have isName := List.mem_map_of_mem (f := Prod.fst) (List.mem_of_mem_filter isArgument)
    exact .inl (.inr (.inl (.inl isName)))
  · exact .inl (.inr (.inl (.inr (List.mem_of_mem_filter isPlaceholder))))
  · -- Only the body can require a name that it has no argument for.
    unfold bodyRequirements at ofBody
    unfold bodyArguments
    cases isSchema : operation.bodySchema? with
    | none => simp [isSchema] at ofBody
    | some schema =>
      rw [isSchema, Option.map_some, Option.getD_some] at ofBody
      rcases Json.mem_keys_bodyArguments_or_listsRequired ofBody with isArgument | listed
      · exact .inl (.inr (.inr isArgument))
      · exact .inr ⟨schema, rfl, listed⟩

/-- The required names of a tool's input are those that the declaration of its operation requires,
each at the place where it is required first and never twice. Only a name that the body's schema
lists as required may be that of no property. -/
theorem required_follow_declaration (operation : Operation) (context : ToolContext) :
    (operation.tool context).input.required = operation.requiredNames ∧
      (operation.tool context).input.toJson.get? "required" =
        some (.array (operation.requiredNames.map .string)) ∧
      (operation.tool context).input.required.Nodup ∧
      ∀ name ∈ (operation.tool context).input.required,
        name ∉ (operation.tool context).input.names →
          ∃ schema ∈ operation.bodySchema?, schema.ListsRequired name := by
  have written : (operation.tool context).input.toJson.get? "required" =
      some (.array ((operation.tool context).input.required.map .string)) := rfl
  rw [written, names_input, required_input]
  refine ⟨rfl, rfl, nodup_appendNew List.nodup_nil _, fun name required noArgument => ?_⟩
  exact (operation.mem_argumentNames_or_listsRequired required).resolve_left noArgument

/-- A name that is required by the first of two entries, a placeholder whose name an optional
parameter bears, another one that is declared elsewhere, and a body that lists a name for which it
has no property. -/
theorem required_follow_declaration_unlisted :
    let parameter (name location : String) (required : Bool) : Json := .object
      [("name", .string name), ("in", .string location), ("required", .bool required)]
    let body : Json := .object
      [("properties", .object [("id", .null)]),
       ("required", .array [.string "photo", .string "tag", .string "id"])]
    let operation : Operation :=
      ⟨"/pets/{owner}/{id}/{owner}", .put, .object
        [("parameters", .array
            [parameter "tag" "query" true, parameter "id" "query" false,
             parameter "tag" "query" false, parameter "owner" "header" true]),
         ("requestBody", .object
            [("content", .object [("application/json", .object [("schema", body)])])])]⟩
    let input := (operation.tool ⟨"https://api.example.com", .none, none⟩).input
    input.required = ["tag", "owner", "photo", "id"] ∧ input.names = ["tag", "id", "owner"] ∧
      ∃ schema ∈ operation.bodySchema?, schema.ListsRequired "photo" := by
  refine ⟨?_, ?_, ?_⟩
  · exact (required_follow_declaration _ _).1.trans rfl
  · rfl
  · apply (required_follow_declaration _ ⟨"https://api.example.com", .none, none⟩).2.2.2
    · rw [required_input]
      decide
    · rw [names_input]
      decide

end Operation

end OpenApiTools
