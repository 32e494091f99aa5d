import OpenApiTools.Proofs.Import
import OpenApiTools.Proofs.Property
import OpenApiTools.Proofs.Yaml.Reader

/-!
# Keys of the JSON of tools

The JSON of a set of tools has no key twice at any depth. What a document holds has none, parts of
it are copied as they are, and everything else consists of entries with fixed keys, of a single
header, and of properties that have been set by name.
-/

namespace OpenApiTools

namespace Json

variable {value found : Json} {key : String}

/-- What is under a key of fields is inside their object. -/
theorem within_object_of_get? {fields : Fields} (isThere : Entries.get? key fields = some found) :
    Within found (.object fields) :=
  .field (Entries.mem_of_get?_eq_some isThere) .self

/-- What is under a key is inside the value. -/
theorem within_of_get? (isThere : value.get? key = some found) : Within found value := by
  obtain ⟨fields, rfl, isField⟩ := get?_eq_some_iff.mp isThere
  exact within_object_of_get? isField

/-- What the schema of an entry has under a key is inside the entry. -/
theorem within_of_schemaField? {entry : Json} (isThere : entry.schemaField? key = some found) :
    Within found entry := by
  obtain ⟨schema, isSchema, isField⟩ := Option.bind_eq_some_iff.mp isThere
  exact (within_of_get? isField).trans (within_of_get? isSchema)

/-- The arguments that a body becomes are inside its schema. -/
theorem within_of_mem_bodyArguments {schema : Json} {field : String × Json}
    (isThere : field ∈ schema.bodyArguments) : Within field.2 schema := by
  unfold bodyArguments at isThere
  split at isThere
  · rename_i properties isProperties
    exact (Within.field isThere .self).trans (within_of_get? isProperties)
  · exact absurd isThere List.not_mem_nil
  · obtain rfl := List.mem_singleton.mp isThere
    exact .self

/-- The argument that an entry declares has no key twice if the entry has none. -/
theorem distinct_argumentSchema {entry : Json} (distinct : entry.Distinct) :
    entry.argumentSchema.Distinct := by
  have ofField (key : String) (field : Json) (isThere : entry.schemaField? key = some field) :
      field.Distinct :=
    distinct.of_within (within_of_schemaField? isThere)
  have ofType : ((entry.schemaField? "type").getD (.string "string")).Distinct := by
    cases isType : entry.schemaField? "type" with
    | none => exact distinct_string _
    | some type => exact ofField "type" type isType
  rw [argumentSchema, distinct_object_iff]
  constructor
  · -- Each of the two copied keys is there or not, and differs from all others.
    cases hasEnum : entry.schemaField? "enum" <;>
      cases hasDefault : entry.schemaField? "default" <;> simp [hasEnum, hasDefault, Entries.keys]
  · intro field isField
    simp only [List.mem_append, List.mem_cons, List.not_mem_nil, or_false] at isField
    rcases isField with (rfl | rfl) | isCopied
    · exact ofType
    · exact distinct_string _
    · obtain ⟨key, -, isCopy⟩ := List.mem_filterMap.mp isCopied
      obtain ⟨value, isValue, rfl⟩ := Option.map_eq_some_iff.mp isCopy
      exact ofField key value isValue

/-- Setting the value of a key adds no key a second time. -/
theorem distinct_object_insert {fields : Fields} (distinct : (object fields).Distinct)
    (isDistinct : value.Distinct) : (object (Entries.insert key value fields)).Distinct := by
  rw [distinct_object_iff] at distinct ⊢
  refine ⟨Entries.nodup_keys_insert distinct.1 key value, fun field isField => ?_⟩
  rcases Entries.eq_or_mem_of_mem_insert isField with rfl | old
  · exact isDistinct
  · exact distinct.2 field old

end Json

namespace InputSchema

variable {input : InputSchema}

/-- An input schema is written without repeated keys if its properties are. -/
theorem distinct_toJson_iff :
    input.toJson.Distinct ↔ (Json.object input.listing).Distinct := by
  simp [toJson, objectSchema, Entries.keys]

/-- Setting a property adds no key a second time. -/
theorem distinct_insert (distinct : input.toJson.Distinct) (name : String) {schema : SchemaNode}
    (isDistinct : schema.toJson.Distinct) : (input.insert name schema).toJson.Distinct := by
  rw [distinct_toJson_iff] at distinct ⊢
  rw [listing_insert]
  exact Json.distinct_object_insert distinct isDistinct

/-- Requiring a name adds no key. -/
theorem distinct_require (distinct : input.toJson.Distinct) (name : String) :
    (input.require name).toJson.Distinct := by
  rw [distinct_toJson_iff] at distinct ⊢
  rwa [listing_require]

/-- A parameter adds no key a second time. -/
theorem distinct_addParameter (distinct : input.toJson.Distinct) {parameter : Parameter}
    (isDistinct : parameter.property.toJson.Distinct) :
    (input.addParameter parameter).toJson.Distinct := by
  have extended := distinct_insert distinct parameter.name isDistinct
  unfold addParameter
  split
  · exact distinct_require extended parameter.name
  · exact extended

/-- A placeholder adds no key a second time. -/
theorem distinct_addPlaceholder (distinct : input.toJson.Distinct) (name : String) :
    (input.addPlaceholder name).toJson.Distinct := by
  have isDistinct : (placeholderProperty name).toJson.Distinct := by
    simp [placeholderProperty, Entries.keys]
  unfold addPlaceholder
  split
  · exact distinct
  · exact distinct_require (distinct_insert distinct name isDistinct) name

/-- A loop adds no key a second time if none of its steps does. -/
theorem distinct_foldl {α : Type} {step : InputSchema → α → InputSchema} {items : List α}
    (distinct : input.toJson.Distinct)
    (each : ∀ input : InputSchema, input.toJson.Distinct →
      ∀ item ∈ items, (step input item).toJson.Distinct) :
    (items.foldl step input).toJson.Distinct :=
  List.foldlRecOn (motive := fun input : InputSchema => input.toJson.Distinct) items step distinct
    each

/-- A body adds no key a second time. -/
theorem distinct_addBody (distinct : input.toJson.Distinct) {body : RequestBody}
    (areDistinct : ∀ entry ∈ body.entries, entry.2.toJson.Distinct) :
    (input.addBody body).toJson.Distinct := by
  rw [addBody_eq]
  apply distinct_foldl
  · apply distinct_foldl distinct
    exact fun _ distinct entry isEntry =>
      distinct_insert distinct entry.1 (areDistinct entry isEntry)
  · exact fun _ distinct name _ => distinct_require distinct name

/-- The input schema of an operation has no key twice if its parameters and its body have none. -/
theorem distinct_ofOperation {parameters : List Parameter} {body : Option RequestBody}
    (ofParameters : ∀ parameter ∈ parameters, parameter.property.toJson.Distinct)
    (ofBody : ∀ accepted ∈ body, ∀ entry ∈ RequestBody.entries accepted,
      entry.2.toJson.Distinct) (path : String) (method : Method) :
    (ofOperation path parameters body method).toJson.Distinct := by
  have start : empty.toJson.Distinct := by
    simp [empty, toJson, objectSchema, listing, Entries.mapValues, Entries.keys]
  have declared : ((Parameter.arguments parameters).foldl addParameter empty).toJson.Distinct :=
    distinct_foldl start fun _ distinct parameter isArgument =>
      distinct_addParameter distinct (ofParameters parameter (List.mem_of_mem_filter isArgument))
  have complete : ((Placeholder.names path).foldl addPlaceholder
      ((Parameter.arguments parameters).foldl addParameter empty)).toJson.Distinct :=
    distinct_foldl declared fun _ distinct name _ => distinct_addPlaceholder distinct name
  rw [ofOperation_eq]
  apply distinct_foldl complete
  intro _ distinct accepted isAccepted
  obtain ⟨isBody, -⟩ := Option.filter_eq_some_iff.mp (Option.mem_toList.mp isAccepted)
  exact distinct_addBody distinct (ofBody accepted isBody)

end InputSchema

namespace Parameter

/-- The parameters of a list have arguments without repeated keys if the list has none. -/
theorem distinct_property_of_mem_listOfJson {entries : Option Json}
    (distinct : ∀ value : Json, entries = some value → value.Distinct) {parameter : Parameter}
    (declared : parameter ∈ listOfJson entries) : parameter.property.toJson.Distinct := by
  obtain ⟨entry, isEntry, isDeclared⟩ := List.mem_filterMap.mp declared
  cases found : entries.bind Json.asArray? with
  | none => simp [found] at isEntry
  | some items =>
    rw [found, Option.getD_some] at isEntry
    obtain ⟨value, isValue, isArray⟩ := Option.bind_eq_some_iff.mp found
    obtain rfl := Json.asArray?_eq_some_iff.mp isArray
    have entryDistinct := Json.distinct_array_iff.mp (distinct _ isValue) entry isEntry
    rw [toJson_property isDeclared]
    exact Json.distinct_argumentSchema entryDistinct

end Parameter

namespace RequestBody

/-- The arguments that a body becomes have no key twice if its schema has none. -/
theorem distinct_entries {body : RequestBody} {schema : Json} (distinct : schema.Distinct)
    (isSchema : body.schema = .ofJson schema) :
    ∀ entry ∈ body.entries, entry.2.toJson.Distinct := by
  intro entry isEntry
  have isArgument : (entry.1, entry.2.toJson) ∈ schema.bodyArguments := by
    rw [← mapValues_entries isSchema]
    exact List.mem_map_of_mem isEntry
  exact distinct.of_within (Json.within_of_mem_bodyArguments isArgument)

/-- The arguments that a declared body becomes have no key twice if the declaration has none. -/
theorem distinct_entries_of_ofJson? {declaration : Json} {body : RequestBody}
    (distinct : declaration.Distinct) (declared : ofJson? declaration = some body) :
    ∀ entry ∈ body.entries, entry.2.toJson.Distinct := by
  obtain ⟨schema, found, rfl⟩ := Option.map_eq_some_iff.mp declared
  simp only [Option.bind_eq_some_iff] at found
  obtain ⟨media, ⟨content, isContent, isMedia⟩, isSchema⟩ := found
  have within := (Json.within_of_get? isSchema).trans
    ((Json.within_of_get? isMedia).trans (Json.within_of_get? isContent))
  exact distinct_entries (distinct.of_within within) rfl

end RequestBody

namespace Tool

/-- A tool has no key twice if its headers and its input schema have none. -/
theorem distinct_toJson {tool : Tool}
    (headers : ∀ headers, tool.headers = some headers → (Entries.keys headers).Nodup)
    (input : tool.input.toJson.Distinct) : tool.toJson.Distinct := by
  have strings (texts : Entries String) :
      ∀ field ∈ Entries.mapValues Json.string texts, field.2.Distinct := by
    intro field isField
    obtain ⟨text, -, rfl⟩ := List.mem_map.mp isField
    exact Json.distinct_string _
  unfold toJson
  cases found : tool.headers with
  | none => simp [Entries.keys, input]
  | some texts =>
    have nodup := headers texts found
    rw [← Entries.keys_mapValues Json.string] at nodup
    simpa [Entries.keys, input] using And.intro nodup (strings texts)

end Tool

namespace Security

/-- There is one header at most. -/
theorem nodup_keys_headers? {security : Security} {headers : Entries String}
    (found : security.headers? = some headers) : (Entries.keys headers).Nodup := by
  cases security with
  | apiKey headerName location =>
    obtain rfl := Option.some.inj found
    simp [Entries.keys]
  | _ => contradiction

/-- A security scheme has no key twice if its flows have none. -/
theorem distinct_toJson {security : Security}
    (ofFlows : ∀ flows, security = .oauth2 flows → flows.Distinct) : security.toJson.Distinct := by
  cases security with
  | oauth2 flows =>
    have flowsDistinct := ofFlows flows rfl
    simp [toJson, details, kind?, Entries.keys, flowsDistinct]
  | _ => simp [toJson, details, kind?, Entries.keys]

/-- The flows of a scheme are those that it declares. -/
theorem eq_flows_of_ofScheme_eq {scheme found : Json} (isScheme : ofScheme scheme = .oauth2 found) :
    found = flows scheme := by
  -- Only one of the kinds of scheme has flows.
  simp only [ofScheme, ofHttpScheme] at isScheme
  repeat' split at isScheme
  all_goals first | exact (Security.oauth2.inj isScheme).symm | contradiction

/-- The flows of a scheme have no key twice if its declaration has none. -/
theorem distinct_flows {scheme : Json} (distinct : scheme.Distinct) : (flows scheme).Distinct := by
  unfold flows
  split
  · simp [Entries.keys]
  · simp [Entries.keys]
  · rename_i value found
    exact distinct.of_within (Json.within_of_get? found)

end Security

/-- A tool has no key twice if the declaration of its operation has none. -/
theorem Operation.distinct_tool {operation : Operation} (distinct : operation.declaration.Distinct)
    (context : ToolContext) : (operation.tool context).toJson.Distinct := by
  apply Tool.distinct_toJson
  · exact fun _ => Security.nodup_keys_headers?
  · apply InputSchema.distinct_ofOperation
    · intro parameter declared
      apply Parameter.distinct_property_of_mem_listOfJson _ declared
      exact fun _ isThere => distinct.of_within (Json.within_of_get? isThere)
    · intro body declared
      obtain ⟨declaration, isThere, isBody⟩ := Option.bind_eq_some_iff.mp declared
      exact RequestBody.distinct_entries_of_ofJson?
        (distinct.of_within (Json.within_of_get? isThere)) isBody

namespace Document

variable {document : Document}

/-- The declaration of an operation is inside the document. -/
theorem within_of_mem_operations {operation : Operation}
    (isThere : operation ∈ document.operations) :
    Json.Within operation.declaration (.object document.fields) := by
  obtain ⟨⟨path, item⟩, isPath, isOperation⟩ := List.mem_flatMap.mp isThere
  cases found : document.paths? with
  | none => simp [found] at isPath
  | some paths =>
    rw [found, Option.getD_some] at isPath
    have inItem := Json.within_of_get? (Operation.mem_ofPathItem.mp isOperation).2
    have inPaths := inItem.trans (Json.Within.field isPath .self)
    exact inPaths.trans (Json.within_object_of_get? (paths?_eq_some_iff.mp found))

/-- The declaration of a security scheme is inside the document. -/
theorem within_of_chosenScheme? {choice : SchemeChoice} {scheme : Json}
    (isChosen : document.chosenScheme? choice = some scheme) :
    Json.Within scheme (.object document.fields) := by
  obtain ⟨schemes, isSchemes, key, isScheme⟩ :
      ∃ schemes, document.securitySchemes? = some schemes ∧ ∃ key, (key, scheme) ∈ schemes := by
    cases choice with
    | first =>
      obtain ⟨schemes, isSchemes, isFirst⟩ := Option.bind_eq_some_iff.mp isChosen
      obtain ⟨⟨key, _⟩, isHead, rfl⟩ := Option.map_eq_some_iff.mp isFirst
      exact ⟨schemes, isSchemes, key, List.mem_of_mem_head? isHead⟩
    | named name =>
      obtain ⟨schemes, isSchemes, found⟩ := Option.bind_eq_some_iff.mp isChosen
      exact ⟨schemes, isSchemes, name, Entries.mem_of_get?_eq_some found⟩
  obtain ⟨value, isValue, isObject⟩ := Option.bind_eq_some_iff.mp isSchemes
  obtain rfl := Json.asObject?_eq_some_iff.mp isObject
  obtain ⟨components, isComponents, found⟩ := Option.bind_eq_some_iff.mp isValue
  have inComponents := (Json.Within.field isScheme .self).trans (Json.within_of_get? found)
  exact inComponents.trans (Json.within_object_of_get? isComponents)

/-- The security of a document has no key twice if the document has none. -/
theorem distinct_security (distinct : (Json.object document.fields).Distinct)
    (choice : SchemeChoice) : (document.security choice).toJson.Distinct := by
  unfold security
  cases found : document.chosenScheme? choice with
  | none => simp [Security.toJson, Security.details, Security.kind?, Entries.keys]
  | some scheme =>
    apply Security.distinct_toJson
    intro flows isOAuth2
    rw [Security.eq_flows_of_ofScheme_eq isOAuth2]
    exact Security.distinct_flows (distinct.of_within (within_of_chosenScheme? found))

end Document

/-- What a text reads as has no key twice, whatever the text repeats. -/
theorem Reads.distinct {text : String} {value : Json} (reads : Reads text value) :
    value.Distinct := by
  rcases reads with isJson | ⟨-, isYaml⟩
  · exact Json.distinct_of_parse? isJson
  · exact Yaml.distinct_of_parse? isYaml

namespace Toolset

variable {options : Options}

/-- A set of tools has no key twice if its document has none. -/
theorem distinct_of_ofDocument {document : Document} {toolset : Toolset}
    (distinct : (Json.object document.fields).Distinct)
    (imported : ofDocument options document = .ok toolset) : toolset.toJson.Distinct := by
  have security : toolset.security.toJson.Distinct := by
    rw [security_of_ofDocument imported]
    exact Document.distinct_security distinct options.security
  have tools : ∀ tool ∈ toolset.tools, tool.toJson.Distinct := by
    intro tool isTool
    rw [Document.eq_of_tools_eq_ok (parts_of_ofDocument imported).2] at isTool
    obtain ⟨operation, isThere, rfl⟩ := List.mem_map.mp isTool
    exact Operation.distinct_tool
      (distinct.of_within (Document.within_of_mem_operations isThere)) _
  simpa [toJson, Entries.keys, security] using tools

/-- A set of tools has no key twice, whatever its text repeats. -/
theorem distinct_of_ofText {text : String} {toolset : Toolset}
    (imported : ofText options text = .ok toolset) : toolset.toJson.Distinct := by
  obtain ⟨document, reads, ofDocument⟩ := exists_reads_of_ofText imported
  exact distinct_of_ofDocument reads.distinct ofDocument

end Toolset

end OpenApiTools
