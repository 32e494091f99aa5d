import OpenApiTools.Proofs.Entries
import OpenApiTools.Proofs.FirstOccurrence
import OpenApiTools.Proofs.Operation

/-!
# Arguments of an operation

The input schema of an operation is written by three loops, over the parameters, the placeholders
and the body. Each of them adds names to those of the properties and to the required ones, and none
takes a name away. The two lists are determined here for every path, every list of parameters and
every body; what a property's schema is in the end is not.
-/

namespace OpenApiTools

/-- The parameters that become arguments: those of the path and the query. -/
def Parameter.arguments (parameters : List Parameter) : List Parameter :=
  parameters.filter (·.location.isToolInput)

namespace RequestBody

/-- The body, if requests with this method have one. -/
def accepted (method : Method) (body : Option RequestBody) : Option RequestBody :=
  body.filter fun _ => method.acceptsBody

/-- The arguments that a body becomes, with their schemas. -/
def entries (body : RequestBody) : Entries SchemaNode :=
  match body.schema with
  | .object (some properties) _ _ => properties
  | .object none _ fields => if Entries.has "properties" fields then [] else whole
  | _ => whole
where
  /-- The body as a whole, under one name. -/
  whole : Entries SchemaNode := [(InputSchema.bodyName, body.schema)]

/-- The names that a body requires. -/
def requiredNames (body : RequestBody) : List String :=
  match body.schema with
  | .object (some _) required _ => required.getD []
  | .object none _ fields => if Entries.has "properties" fields then [] else whole
  | _ => whole
where
  /-- The name of the body as a whole, if it is required. -/
  whole : List String := if body.required then [InputSchema.bodyName] else []

end RequestBody

namespace Operation

variable (operation : Operation)

/-- The parameters of an operation that become arguments. -/
def arguments : List Parameter :=
  Parameter.arguments (Parameter.listOfJson (operation.declaration.get? "parameters"))

/-- The body of an operation, if its method has one. -/
def body? : Option RequestBody :=
  RequestBody.accepted operation.method
    ((operation.declaration.get? "requestBody").bind RequestBody.ofJson?)

end Operation

namespace InputSchema

variable (input : InputSchema)

/-- Setting a property adds its name. -/
theorem names_insert_eq_appendNew (name : String) (schema : SchemaNode) :
    (input.insert name schema).names = appendNew input.names [name] :=
  names_insert input name schema

/-- Requiring a name adds it to the required ones. -/
theorem required_require_eq_appendNew (name : String) :
    (input.require name).required = appendNew input.required [name] :=
  required_require input name

/-- Requiring a name adds none to the properties. -/
@[simp] theorem names_require (name : String) : (input.require name).names = input.names := by
  rw [names, properties_require, names]

/-- A property that is set is listed with its schema. -/
theorem listing_insert (name : String) (schema : SchemaNode) :
    (input.insert name schema).listing = input.listing.insert name schema.toJson :=
  Entries.mapValues_insert SchemaNode.toJson name schema input.properties

/-- Requiring a name leaves the listing alone. -/
@[simp] theorem listing_require (name : String) : (input.require name).listing = input.listing := by
  rw [listing, properties_require, listing]

/-- The names of the properties after several have been set. -/
theorem names_foldl_insert (entries : List (String × SchemaNode)) :
    (entries.foldl (fun input (name, schema) => input.insert name schema) input).names =
      appendNew input.names (entries.map Prod.fst) :=
  foldl_eq_appendNew_map names Prod.fst
    (fun input (name, schema) => names_insert_eq_appendNew input name schema) input entries

/-- Setting properties requires nothing. -/
theorem required_foldl_insert (entries : List (String × SchemaNode)) :
    (entries.foldl (fun input (name, schema) => input.insert name schema) input).required =
      input.required :=
  foldl_eq_of_step_eq required (fun input (name, schema) => required_insert input name schema)
    input entries

/-- The required names after several have been required. -/
theorem required_foldl_require (added : List String) :
    (added.foldl require input).required = appendNew input.required added := by
  rw [foldl_eq_appendNew_map required id required_require_eq_appendNew, List.map_id]

/-- Requiring names adds none to the properties. -/
theorem names_foldl_require (added : List String) :
    (added.foldl require input).names = input.names :=
  foldl_eq_of_step_eq names names_require input added

/-- A parameter adds its name to the properties. -/
theorem names_addParameter (parameter : Parameter) :
    (input.addParameter parameter).names = appendNew input.names [parameter.name] := by
  unfold addParameter
  split
  · rw [names_require, names_insert_eq_appendNew]
  · rw [names_insert_eq_appendNew]

/-- A parameter adds its name to the required ones if it is required. -/
theorem required_addParameter (parameter : Parameter) :
    (input.addParameter parameter).required =
      appendNew input.required
        (([parameter].filter Parameter.isRequired).map Parameter.name) := by
  unfold addParameter
  split
  · rename_i isRequired
    rw [required_require_eq_appendNew, required_insert, List.filter_cons_of_pos isRequired]
    rfl
  · rename_i notRequired
    rw [List.filter_cons_of_neg notRequired]
    rfl

/-- Parameters add their names to the properties. -/
theorem names_foldl_addParameter (parameters : List Parameter) :
    (parameters.foldl addParameter input).names =
      appendNew input.names (parameters.map Parameter.name) :=
  foldl_eq_appendNew_map names Parameter.name names_addParameter input parameters

/-- Parameters add the names of the required ones among them to the required names. -/
theorem required_foldl_addParameter (parameters : List Parameter) :
    (parameters.foldl addParameter input).required =
      appendNew input.required ((parameters.filter Parameter.isRequired).map Parameter.name) := by
  rw [foldl_eq_appendNew required _ required_addParameter, ← List.map_flatMap,
    ← List.filter_flatMap, List.flatMap_singleton']

/-- A placeholder adds its name to the properties. -/
theorem names_addPlaceholder (name : String) :
    (input.addPlaceholder name).names = appendNew input.names [name] := by
  unfold addPlaceholder
  split
  · rename_i present
    have known : name ∈ input.names := Entries.has_iff_mem_keys.mp present
    exact (if_pos known).symm
  · rw [names_require, names_insert_eq_appendNew]

/-- Placeholders add their names to the properties. -/
theorem names_foldl_addPlaceholder (added : List String) :
    (added.foldl addPlaceholder input).names = appendNew input.names added := by
  rw [foldl_eq_appendNew_map names id names_addPlaceholder, List.map_id]

/-- Placeholders add those names to the required ones that no property had before. -/
theorem required_foldl_addPlaceholder (added : List String) :
    (added.foldl addPlaceholder input).required =
      appendNew input.required (added.filter (· ∉ input.names)) := by
  induction added generalizing input with
  | nil => rfl
  | cons name rest inductionHypothesis =>
    rw [List.foldl_cons, inductionHypothesis]
    by_cases known : name ∈ input.names
    · have present : input.hasProperty name = true := Entries.has_iff_mem_keys.mpr known
      rw [addPlaceholder, if_pos present, List.filter_cons_of_neg (by simpa using known)]
    · have absent : ¬ input.hasProperty name = true := mt Entries.has_iff_mem_keys.mp known
      rw [addPlaceholder, if_neg absent, names_require, required_require_eq_appendNew,
        required_insert, names_insert, if_neg known, List.filter_cons_of_pos (by simpa using known)]
      -- The name is required now, so that its later occurrences do not matter.
      have required : name ∈ appendNew input.required [name] := by simp
      have later : rest.filter (· ∉ input.names ++ [name]) =
          (rest.filter (· ∉ input.names)).filter (· ≠ name) := by
        rw [List.filter_filter]
        refine List.filter_congr fun other _ => ?_
        simp [and_comm]
      rw [later, appendNew_filter_ne required]
      exact (appendNew_append _ [name] _).symm

/-- A body sets its entries and then requires its required names. -/
theorem addBody_eq (body : RequestBody) :
    input.addBody body =
      body.requiredNames.foldl require
        (body.entries.foldl (fun input (name, schema) => input.insert name schema) input) := by
  have whole (schema : SchemaNode) : addBody.addWhole input body schema =
      (RequestBody.requiredNames.whole body).foldl require (input.insert bodyName schema) := by
    unfold addBody.addWhole RequestBody.requiredNames.whole
    split <;> rfl
  obtain ⟨isRequired, schema⟩ := body
  cases schema with
  | object properties required fields =>
    cases properties with
    | some properties => rfl
    | none =>
      simp only [addBody, RequestBody.requiredNames, RequestBody.entries]
      split
      · rfl
      · exact whole _
  | array items fields => exact whole _
  | scalar kind enumeration fields => exact whole _
  | literal value => exact whole _

/-- A body adds the names of its arguments to the properties. -/
theorem names_addBody (body : RequestBody) :
    (input.addBody body).names = appendNew input.names body.entries.keys := by
  rw [addBody_eq, names_foldl_require, names_foldl_insert]
  rfl

/-- A body adds the names that it requires to the required ones. -/
theorem required_addBody (body : RequestBody) :
    (input.addBody body).required = appendNew input.required body.requiredNames := by
  rw [addBody_eq, required_foldl_require, required_foldl_insert]

section Operation

variable (path : String) (parameters : List Parameter) (body : Option RequestBody)
  (method : Method)

/-- The input schema is written by the parameters, the placeholders and the body, in this order. -/
theorem ofOperation_eq :
    ofOperation path parameters body method =
      (RequestBody.accepted method body).toList.foldl addBody
        ((Placeholder.names path).foldl addPlaceholder
          ((Parameter.arguments parameters).foldl addParameter empty)) := by
  cases body with
  | none => rfl
  | some body => cases method <;> rfl

/-- The arguments of an operation: the parameters, then the placeholders, then those of the body,
each at its first occurrence. -/
theorem names_ofOperation :
    (ofOperation path parameters body method).names =
      appendNew [] ((Parameter.arguments parameters).map Parameter.name ++ Placeholder.names path ++
        (RequestBody.accepted method body).toList.flatMap fun body => body.entries.keys) := by
  have declared : ((Parameter.arguments parameters).foldl addParameter empty).names =
      appendNew [] ((Parameter.arguments parameters).map Parameter.name) :=
    names_foldl_addParameter _ _
  rw [ofOperation_eq, appendNew_append, appendNew_append, ← declared, ← names_foldl_addPlaceholder]
  cases RequestBody.accepted method body with
  | none => rfl
  | some body =>
    rw [Option.toList_some, List.flatMap_singleton]
    exact names_addBody _ body

/-- The required arguments of an operation: the parameters that are required, then the placeholders
that no parameter is named after, then what the body requires, each at its first occurrence. -/
theorem required_ofOperation :
    (ofOperation path parameters body method).required =
      appendNew []
        (((Parameter.arguments parameters).filter Parameter.isRequired).map Parameter.name ++
          (Placeholder.names path).filter
            (· ∉ (Parameter.arguments parameters).map Parameter.name) ++
          (RequestBody.accepted method body).toList.flatMap RequestBody.requiredNames) := by
  have declared : ((Parameter.arguments parameters).foldl addParameter empty).required =
      appendNew [] (((Parameter.arguments parameters).filter Parameter.isRequired).map
        Parameter.name) :=
    required_foldl_addParameter _ _
  have undeclared : (Placeholder.names path).filter
        (· ∉ ((Parameter.arguments parameters).foldl addParameter empty).names) =
      (Placeholder.names path).filter
        (· ∉ (Parameter.arguments parameters).map Parameter.name) := by
    refine List.filter_congr fun name _ => ?_
    rw [names_foldl_addParameter]
    simp [empty, names, Entries.keys]
  rw [ofOperation_eq, appendNew_append, appendNew_append, ← declared, ← undeclared,
    ← required_foldl_addPlaceholder]
  cases RequestBody.accepted method body with
  | none => rfl
  | some body =>
    rw [Option.toList_some, List.flatMap_singleton]
    exact required_addBody _ body

end Operation

end InputSchema

end OpenApiTools
