import OpenApiTools.Proofs.InputChange

/-!
# Histories of input schemas

What changes make from the empty input schema depends on two things alone: the properties that they
set, in their order, and the names that they require, in theirs. How the two are interleaved does
not matter. A property stands where its name was first set and has the schema that it was given
last; a required name stands where it was first required.
-/

namespace OpenApiTools

namespace Entries

variable {α : Type} {key : String} {value : α}

/-- Entries are searched from the front. -/
theorem get?_eq_findSome? (key : String) (entries : Entries α) :
    get? key entries =
      entries.findSome? fun entry => if entry.1 = key then some entry.2 else none := by
  induction entries with
  | nil => rfl
  | cons first rest inductionHypothesis =>
    by_cases same : first.1 = key
    · simp [get?, same]
    · simpa [get?, same] using inductionHypothesis

/-- An entry is found where no entry before it has its key. -/
theorem get?_eq_some_iff {entries : Entries α} :
    get? key entries = some value ↔
      ∃ before after, entries = before ++ (key, value) :: after ∧ key ∉ keys before := by
  rw [get?_eq_findSome?, List.findSome?_eq_some_iff]
  constructor
  · rintro ⟨before, ⟨name, held⟩, after, rfl, isHeld, others⟩
    obtain ⟨rfl, rfl⟩ : name = key ∧ held = value := by simpa using isHeld
    refine ⟨before, after, rfl, fun isThere => ?_⟩
    obtain ⟨entry, isEntry, rfl⟩ := List.mem_map.mp isThere
    simpa using others entry isEntry
  · rintro ⟨before, after, rfl, absent⟩
    refine ⟨before, (key, value), after, rfl, if_pos rfl, fun entry isEntry => if_neg ?_⟩
    rintro rfl
    exact absent (List.mem_map_of_mem isEntry)

/-- An entry is the last with its key where no entry after it has the key. -/
theorem last?_eq_some_iff {entries : Entries α} :
    last? key entries = some value ↔
      ∃ before after, entries = before ++ (key, value) :: after ∧ key ∉ keys after := by
  rw [last?, get?_eq_some_iff]
  constructor
  · rintro ⟨before, after, split, absent⟩
    refine ⟨after.reverse, before.reverse, ?_, ?_⟩
    · simpa using congrArg List.reverse split
    · simpa [keys] using absent
  · rintro ⟨before, after, rfl, absent⟩
    refine ⟨after.reverse, before.reverse, ?_, ?_⟩
    · simp
    · simpa [keys] using absent

/-- No entry is the last with a key where no entry has the key. -/
theorem last?_eq_none_iff {entries : Entries α} :
    last? key entries = none ↔ key ∉ keys entries := by
  rw [← Option.not_isSome_iff_eq_none, last?]
  have found : (get? key entries.reverse).isSome = true ↔ key ∈ keys entries.reverse :=
    has_iff_mem_keys
  rw [found]
  simp [keys]

end Entries

namespace InputSchema

namespace Change

/-- The property that is set, if one is. -/
def setting? : Change → Option (String × SchemaNode)
  | insert name schema => some (name, schema)
  | require _ => none

/-- The name that is required, if one is. -/
def required? : Change → Option String
  | insert _ _ => none
  | require name => some name

variable {change : Change} {name : String} {schema : SchemaNode}

theorem setting?_eq_some_iff :
    change.setting? = some (name, schema) ↔ change = .insert name schema := by
  cases change <;> simp [setting?]

theorem required?_eq_some_iff : change.required? = some name ↔ change = .require name := by
  cases change <;> simp [required?]

end Change

/-- The properties that changes set, in order. -/
def settings (changes : List Change) : Entries SchemaNode :=
  changes.filterMap Change.setting?

/-- The names that changes require, in order. -/
def requirements (changes : List Change) : List String :=
  changes.filterMap Change.required?

/-- A name is among those set if a change sets it. -/
theorem mem_keys_settings {changes : List Change} {name : String} :
    name ∈ (settings changes).keys ↔ ∃ schema, .insert name schema ∈ changes := by
  simp [settings, Entries.keys, Change.setting?_eq_some_iff]

/-- A name is among those required if a change requires it. -/
theorem mem_requirements {changes : List Change} {name : String} :
    name ∈ requirements changes ↔ .require name ∈ changes := by
  simp [requirements, Change.required?_eq_some_iff]

/-- The properties after a change. -/
theorem properties_apply (input : InputSchema) (change : Change) :
    (input.apply change).properties =
      change.setting?.elim input.properties
        fun entry => input.properties.insert entry.1 entry.2 := by
  cases change with
  | insert name schema => rfl
  | require name => exact properties_require input name

/-- The required names after a change. -/
theorem required_apply (input : InputSchema) (change : Change) :
    (input.apply change).required = appendNew input.required change.required?.toList := by
  cases change with
  | insert name schema => rfl
  | require name => exact required_require_eq_appendNew input name

/-- The properties after changes are those before, with those that are set entered in order. -/
theorem properties_foldl_apply (input : InputSchema) (changes : List Change) :
    (changes.foldl apply input).properties =
      (settings changes).foldl (fun entries (key, value) => entries.insert key value)
        input.properties := by
  induction changes generalizing input with
  | nil => rfl
  | cons change rest inductionHypothesis =>
    rw [List.foldl_cons, inductionHypothesis, properties_apply, settings, settings]
    cases change <;> rfl

/-- The required names after changes are those before and the new ones at their first places. -/
theorem required_foldl_apply (input : InputSchema) (changes : List Change) :
    (changes.foldl apply input).required = appendNew input.required (requirements changes) := by
  rw [requirements, List.filterMap_eq_flatMap_toList]
  exact foldl_eq_appendNew required _ required_apply input changes

/-- The two things that an input schema made by changes depends on. -/
theorem made_eq (changes : List Change) :
    made changes = ⟨Entries.ofList (settings changes), appendNew [] (requirements changes)⟩ := by
  have properties := properties_foldl_apply empty changes
  have required := required_foldl_apply empty changes
  rw [InputSchema.mk.injEq]
  exact ⟨properties, required⟩

/-- A property has the schema that it was given last. -/
theorem property?_made (changes : List Change) (name : String) :
    (made changes).property? name = Entries.last? name (settings changes) := by
  rw [made_eq, property?, Entries.ofList, Entries.get?_foldl_insert]
  exact Option.or_none

/-- A property was set last by the change after which no other sets it. -/
theorem last?_settings_eq_some_iff {changes : List Change} {name : String} {schema : SchemaNode} :
    Entries.last? name (settings changes) = some schema ↔
      ∃ before after, changes = before ++ .insert name schema :: after ∧
        ∀ later, .insert name later ∉ after := by
  rw [Entries.last?_eq_some_iff]
  constructor
  · rintro ⟨before, after, split, last⟩
    obtain ⟨former, latter, rfl, -, isLatter⟩ := List.filterMap_eq_append_iff.mp split
    obtain ⟨others, change, rest, rfl, -, isChange, rfl⟩ := List.filterMap_eq_cons_iff.mp isLatter
    obtain rfl := Change.setting?_eq_some_iff.mp isChange
    refine ⟨former ++ others, rest, (List.append_assoc ..).symm, fun later isLater => ?_⟩
    exact last (mem_keys_settings.mpr ⟨later, isLater⟩)
  · rintro ⟨before, after, rfl, last⟩
    refine ⟨settings before, settings after, by simp [settings, Change.setting?], ?_⟩
    rw [mem_keys_settings]
    exact not_exists.mpr last

/-- An input schema that shows what was changed: what stands in it, and at which place, goes back to
the changes that set it, and nothing that was set is missing. -/
structure Shows (changes : List Change) (input : InputSchema) : Prop where
  /-- The properties stand in the order in which their names were first set. -/
  names : ListsFirst (changes.flatMap Change.inserted) input.names
  /-- A property has the schema that it was given last. -/
  property : ∀ name schema, input.property? name = some schema ↔
    ∃ before after, changes = before ++ .insert name schema :: after ∧
      ∀ later, .insert name later ∉ after
  missing : ∀ name, input.property? name = none ↔ ∀ schema, .insert name schema ∉ changes
  hasProperty : ∀ name, input.hasProperty name = true ↔ ∃ schema, .insert name schema ∈ changes
  /-- The required names stand in the order in which they were first required. -/
  required : ListsFirst (requirements changes) input.required
  isRequired : ∀ name, input.isRequired name = true ↔ .require name ∈ changes

/-- What changes make from the empty input schema shows them. -/
theorem shows_made (changes : List Change) : Shows changes (made changes) where
  names := by
    rw [names_made]
    exact listsFirst_appendNew _
  property name schema := by
    rw [property?_made]
    exact last?_settings_eq_some_iff
  missing name := by
    rw [property?_made, Entries.last?_eq_none_iff, mem_keys_settings, not_exists]
  hasProperty name := by
    have found : (made changes).hasProperty name = ((made changes).property? name).isSome := rfl
    rw [found, Option.isSome_iff_ne_none, property?_made, ne_eq, Entries.last?_eq_none_iff,
      not_not, mem_keys_settings]
  required := by
    rw [made_eq]
    exact listsFirst_appendNew _
  isRequired name := by
    rw [isRequired, List.contains_iff_mem, made_eq, mem_appendNew, mem_requirements]
    simp

/-- Whatever changes make an input schema, it shows them. In any input schema, a change that sets no
property leaves the properties alone, and one that requires no name leaves the required names alone.
So changes of the two kinds may be interleaved in any way: what they make depends on the properties
that they set, in their order, and on the names that they require, in theirs. -/
theorem history_of_made (changes : List Change) :
    Shows changes (made changes) ∧
      (∀ (input : InputSchema) (change : Change),
        (change.setting? = none → (input.apply change).properties = input.properties) ∧
          (change.required? = none → (input.apply change).required = input.required)) ∧
      ∀ others, settings others = settings changes →
        requirements others = requirements changes → made others = made changes := by
  refine ⟨shows_made changes, fun input change => ⟨?_, ?_⟩, ?_⟩
  · intro setsNone
    rw [properties_apply, setsNone, Option.elim_none]
  · intro requiresNone
    rw [required_apply, requiresNone]
    rfl
  · intro others sameSettings sameRequirements
    rw [made_eq, made_eq, sameSettings, sameRequirements]

/-- A property that is set again keeps its place and has its last schema, and the same is made by
setting everything before anything is required. -/
theorem history_of_made_interleaved :
    let changes : List Change :=
      [.require "id", .insert "id" (.literal .null), .insert "limit" (.literal (.bool true)),
       .require "cursor", .insert "id" (.literal (.string "text")), .require "id"]
    let sorted : List Change :=
      [.insert "id" (.literal .null), .insert "limit" (.literal (.bool true)),
       .insert "id" (.literal (.string "text")), .require "id", .require "cursor", .require "id"]
    (made changes).names = ["id", "limit"] ∧ (made changes).required = ["id", "cursor"] ∧
      (made changes).property? "id" = some (.literal (.string "text")) ∧
      (made changes).isRequired "limit" = false ∧ made sorted = made changes := by
  intro changes sorted
  obtain ⟨shown, -, interleaved⟩ := history_of_made changes
  refine ⟨rfl, rfl, ?_, ?_, interleaved sorted rfl rfl⟩
  · refine (shown.property "id" _).mpr ⟨changes.take 4, [.require "id"], rfl, ?_⟩
    simp
  · rw [← Bool.not_eq_true, shown.isRequired]
    simp [changes]

end InputSchema

end OpenApiTools
