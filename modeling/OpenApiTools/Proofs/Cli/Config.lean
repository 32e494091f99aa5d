import OpenApiTools.Cli.Run
import OpenApiTools.Options
import OpenApiTools.Proofs.Json.Record

/-!
# Settings that are written and read

The settings of a configuration file are those that were written to it, whatever the strings in them
hold. Besides what the settings themselves are written as, a file may hold their fields in another
order, without those that are null and with others that are not known, or an array of the values
alone. The options of an import are read from what they are written as, too.
-/

namespace OpenApiTools

namespace Options

/-- Options are read from the value that they are written as. -/
theorem ofJson?_toJson (options : Options) : ofJson? options.toJson = some options := by
  obtain ⟨nameSpace, security⟩ := options
  cases nameSpace <;> cases security <;> rfl

/-- Options are read from the text that they are written as, in either layout. -/
theorem parse?_of_printed (options : Options) {text : String}
    (printed : text ∈ [options.toJson.compact, options.toJson.pretty]) :
    parse? text = some options := by
  have wellFormed : options.toJson.Integral ∧ options.toJson.Distinct ∧
      options.toJson.nesting ≤ Json.depthLimit := by
    obtain ⟨nameSpace, security⟩ := options
    cases nameSpace <;> cases security <;>
      simp [toJson, SchemeChoice.toJson, Entries.keys, Json.nesting, Json.nestingOfFields,
        Json.depthLimit]
  obtain ⟨integral, distinct, shallow⟩ := wellFormed
  rw [parse?, Json.parse?_of_printed integral distinct shallow printed]
  exact options.ofJson?_toJson

end Options

namespace Cli.Config

open Json.Record

variable {config : Config}

/-- What a field that is not known holds does not matter, and its strings need be no texts. -/
theorem ofTree?_append_cons {before after : List (List Json.Piece × Json.Tree)}
    {key : List Json.Piece} {name : String} (isKey : Json.Piece.text? key = some name)
    (unknown : name ∉ fieldNames) (tree : Json.Tree) :
    ofTree? (.object (before ++ (key, tree) :: after)) = ofTree? (.object (before ++ after)) := by
  unfold ofTree?
  rw [fields?_append_cons isKey unknown]

/-- A byte that is part of no character, in an unknown field. -/
example : ofBytes? ("\x7b\"note\":\"caf".toUTF8.push 0xE9 ++ "\"\x7d".toUTF8) = some empty := by
  decide +kernel

/-- The ways of writing settings: an object that says the same as their fields, or an array of the
values of the fields in order. -/
inductive Writes (config : Config) : Json → Prop
  | object {fields : Fields} (restates : Restates (fieldNames.zip config.fieldValues) fields) :
    Writes config (.object fields)
  | array : Writes config (.array config.fieldValues)

/-- A text holds settings: whoever loads a file with this text gets them. -/
def IsHeldBy (config : Config) (text : String) : Prop :=
  ∀ (surroundings : Surroundings) (path : String),
    surroundings.fileBytes path = .ok text.toUTF8 → loadConfig surroundings path = .ok config

/-- Settings hold integers that fit a word. -/
theorem integral_fieldValues (config : Config) : ∀ value ∈ config.fieldValues, value.Integral := by
  obtain ⟨nameSpace, securityScheme, fetchTimeout, digestPolicy⟩ := config
  have text {α : Type} (encode : α → String) (value : Option α) :
      (optional (fun value => .string (encode value)) value).Integral := by
    cases value <;> simp [optional]
  have number (value : Option UInt64) :
      (optional (fun seconds => .number (.integer seconds.toNat)) value).Integral := by
    cases value with
    | none => simp [optional]
    | some seconds =>
      have fits := seconds.toNat_lt
      simp only [optional, Option.map_some, Option.getD_some, Json.integral_number_iff,
        Json.Number.FitsWord, Nat.pow_eq]
      omega
  simp only [fieldValues, List.forall_mem_cons]
  exact ⟨text id _, text id _, number _, text DigestPolicy.name _, by simp⟩

/-- Whatever settings are written as holds integers that fit a word only. -/
theorem Writes.integral {value : Json} (writes : config.Writes value) : value.Integral := by
  cases writes with
  | object restates =>
    rw [Json.integral_object_iff]
    exact restates.integral fun field isField =>
      config.integral_fieldValues field.2 (List.of_mem_zip isField).2
  | array => exact Json.integral_array_iff.mpr config.integral_fieldValues

/-- A policy is read from its name. -/
theorem policyOfTree?_toTree (policy : DigestPolicy) :
    policyOfTree? (Json.toTree (.string policy.name)) = some policy := by
  rw [Json.toTree, policyOfTree?, alternative?, Json.Piece.text?_ofText]
  cases policy <;> rfl

/-- Settings are read from a record whose fields stand for their values. -/
theorem ofTree?_of_standsFor {tree : Json.Tree} {found : List (Option Json.Tree)}
    (isRecord : fields? fieldNames tree = some found)
    (stand : List.Forall₂ StandsFor config.fieldValues found) : ofTree? tree = some config := by
  rw [fieldValues] at stand
  obtain _ | ⟨nameSpace, _ | ⟨scheme, _ | ⟨timeout, _ | ⟨policy, _ | _⟩⟩⟩⟩ := stand
  have isNameSpace := optional?_of_standsFor string?_toTree nofun nameSpace
  have isScheme := optional?_of_standsFor string?_toTree nofun scheme
  have isTimeout := optional?_of_standsFor
    (fun seconds : UInt64 => natural?_toTree seconds.toNat_lt) nofun timeout
  have isPolicy := optional?_of_standsFor policyOfTree?_toTree nofun policy
  rw [ofTree?, isRecord]
  simp [isNameSpace, isScheme, isTimeout, isPolicy, Function.comp_def]

/-- Settings are read from the tree of whatever they are written as. -/
theorem Writes.ofTree?_toTree {value : Json} (writes : config.Writes value) :
    ofTree? value.toTree = some config := by
  have distinct : fieldNames.Nodup := by decide
  have complete : fieldNames.length = config.fieldValues.length := rfl
  obtain ⟨found, isRecord, stand⟩ :
      ∃ found, fields? fieldNames value.toTree = some found ∧
        List.Forall₂ StandsFor config.fieldValues found := by
    cases writes with
    | object restates => exact restates.exists_fields? distinct complete
    | array => exact exists_fields?_array complete
  exact ofTree?_of_standsFor isRecord stand

/-- A text of whatever settings are written as holds the settings. -/
theorem Writes.isHeldBy {value : Json} (writes : config.Writes value) {text : String}
    (printed : text ∈ [value.compact, value.pretty]) : config.IsHeldBy text := by
  intro surroundings path isRead
  have parsed : ofBytes? text.toUTF8 = some config := by
    rw [ofBytes?, Json.Tree.parseBytes?_toUTF8, Json.Tree.parse?_of_printed writes.integral printed,
      Option.bind_some, writes.ofTree?_toTree]
  simp only [loadConfig, isRead, parsed]

/-- Settings are loaded from what they are written as, which may also be rearranged, rid of null and
joined by unknown fields, or be an array; options of an import are read from what they are written
as. -/
theorem settings_survive_writing :
    (∀ config : Config, config.Writes config.toJson ∧
      ∀ value, config.Writes value → ∀ text ∈ [value.compact, value.pretty],
        config.IsHeldBy text) ∧
    ∀ options : Options, Options.ofJson? options.toJson = some options ∧
      ∀ text ∈ [options.toJson.compact, options.toJson.pretty],
        Options.parse? text = some options := by
  constructor
  · exact fun config => ⟨.object .written, fun _ writes _ printed => writes.isHeldBy printed⟩
  · exact fun options =>
      ⟨options.ofJson?_toJson, fun _ printed => options.parse?_of_printed printed⟩

/-- Settings with characters that are escaped and the longest timeout, from a file that leaves out
the scheme, turns the order round and begins with a field that is not known; and options that name a
scheme with a backslash. -/
theorem settings_survive_writing_rearranged :
    let config : Config := ⟨some "\"\\\n\x01", none, some 18446744073709551615, some .ignore⟩
    let value : Json := .object
      [("labels", .array [.object [("namespace", .null)], .number (.integer (-1))]),
       ("specHashPolicy", .string "ignore"),
       ("fetchTimeoutSecs", .number (.integer 18446744073709551615)),
       ("namespace", .string "\"\\\n\x01")]
    let options : Options := ⟨none, .named "\\"⟩
    (config.Writes value ∧ ∃ surroundings : Surroundings,
      surroundings.fileBytes "config.json" = .ok value.compact.toUTF8 ∧
      loadConfig surroundings "config.json" = .ok config) ∧
    Options.parse? options.toJson.pretty = some options := by
  intro config value options
  -- The scheme is left out between the namespace and the other two fields.
  have kept : Restates (fieldNames.zip config.fieldValues)
      [("namespace", .string "\"\\\n\x01"),
       ("fetchTimeoutSecs", .number (.integer 18446744073709551615)),
       ("specHashPolicy", .string "ignore")] :=
    @Restates.dropped _ [_] [_, _] "securityScheme" .written
  have reversed := kept.rearranged (List.reverse_perm _).symm
  have writes : config.Writes value :=
    .object (@Restates.added _ [] _ _ _ reversed (by decide) (by decide))
  have held := (settings_survive_writing.1 config).2 value writes value.compact List.mem_cons_self
  refine ⟨⟨writes, ⟨fun _ => none, fun _ => .ok value.compact.toUTF8, fun _ _ => none⟩, rfl,
    held _ _ rfl⟩, ?_⟩
  exact (settings_survive_writing.2 options).2 _ (List.mem_cons_of_mem _ List.mem_cons_self)

end Cli.Config

end OpenApiTools
