import Mathlib.Data.List.Basic
import OpenApiTools.Proofs.Lookup
import OpenApiTools.Schema.Node

/-!
# Schemas as they were written

A schema keeps the value that it was read from, whatever its views make of it. The views on its
properties are the schemas of the fields of an object inside it.
-/

namespace OpenApiTools

namespace Json

/-- The texts, if the value is an array that holds nothing but strings. -/
def texts? : Json → Option (List String)
  | .array items =>
    if ∀ item ∈ items, item.asString?.isSome then some (items.filterMap asString?) else none
  | _ => none

/-- Texts are those of an array of strings. -/
theorem texts?_eq_some_iff {value : Json} {texts : List String} :
    value.texts? = some texts ↔ value = .array (texts.map .string) := by
  cases value with
  | array items =>
    rw [texts?, array.injEq]
    constructor
    · intro areTexts
      split at areTexts
      · rename_i strings
        rw [← Option.some.inj areTexts, List.map_filterMap]
        have each : ∀ item ∈ items, item.asString?.map Json.string = some item := by
          intro item isItem
          obtain ⟨text, isText⟩ := Option.isSome_iff_exists.mp (strings item isItem)
          rw [isText, asString?_eq_some_iff.mp isText, Option.map_some]
        rw [List.filterMap_congr each, List.filterMap_some]
      · contradiction
    · rintro rfl
      have strings : ∀ item ∈ texts.map Json.string, item.asString?.isSome := by
        simp [asString?]
      rw [if_pos strings, List.filterMap_map]
      exact congrArg some List.filterMap_some
  | _ => simp [texts?]

end Json

namespace SchemaNode

/-- Items have texts if they are the strings with these texts. -/
theorem strings?_eq_some_iff {items : List Json} {texts : List String} :
    strings? items = some texts ↔ items = texts.map .string := by
  induction items generalizing texts with
  | nil => simp [strings?, eq_comm]
  | cons item rest inductionHypothesis =>
    cases item with
    | string text =>
      rw [strings?, Option.map_eq_some_iff]
      constructor
      · rintro ⟨others, areTexts, rfl⟩
        rw [inductionHypothesis.mp areTexts, List.map_cons]
      · intro areStrings
        obtain ⟨first, others, rfl, isText, areTexts⟩ := List.map_eq_cons_iff.mp areStrings.symm
        obtain rfl := Json.string.inj isText
        exact ⟨others, inductionHypothesis.mpr areTexts.symm, rfl⟩
    | _ =>
      cases texts <;> simp [strings?]

/-- The view on required names has the texts under their key, if they are an array of strings. -/
theorem requiredOf_eq (fields : Fields) :
    requiredOf fields = (Entries.get? "required" fields).bind Json.texts? := by
  unfold requiredOf
  congr 1
  funext value
  ext texts
  rw [Json.texts?_eq_some_iff, Option.bind_eq_some_iff]
  simp only [Json.asArray?_eq_some_iff, strings?_eq_some_iff]
  constructor
  · rintro ⟨items, rfl, rfl⟩
    rfl
  · rintro rfl
    exact ⟨_, rfl, rfl⟩

/-- A schema is written as it was read. -/
@[simp] theorem toJson_ofJson (value : Json) : (ofJson value).toJson = value := by
  cases value with
  | object fields =>
    rw [ofJson]
    split
    · rfl
    · split <;> rfl
  | _ => rfl

/-- A schema of objects was read from an object and has the views on it. -/
theorem of_ofJson_eq_object {value : Json} {properties : Option (Entries SchemaNode)}
    {required : Option (List String)} {fields : Fields}
    (read : ofJson value = .object properties required fields) :
    value = .object fields ∧ properties = propertiesOf fields ∧ required = requiredOf fields := by
  cases value with
  | object others =>
    rw [ofJson] at read
    split at read
    · obtain ⟨isProperties, isRequired, rfl⟩ := SchemaNode.object.inj read
      exact ⟨rfl, isProperties.symm, isRequired.symm⟩
    · split at read <;> contradiction
  | _ => exact nomatch read

/-- The schemas of fields are those of their values, under the same keys. -/
theorem ofFields_eq_mapValues (fields : Fields) :
    ofFields fields = Entries.mapValues ofJson fields := by
  induction fields with
  | nil => rfl
  | cons field rest inductionHypothesis =>
    rw [ofFields, inductionHypothesis]
    rfl

/-- The schemas of fields are written as the fields. -/
theorem mapValues_toJson_ofFields (fields : Fields) :
    Entries.mapValues toJson (ofFields fields) = fields := by
  rw [ofFields_eq_mapValues, Entries.mapValues, Entries.mapValues, List.map_map]
  exact (List.map_congr_left fun field _ => by simp).trans (List.map_id fields)

/-- The schemas of properties are those of the fields of the object under their key. -/
theorem propertiesOf_eq (fields : Fields) :
    propertiesOf fields =
      ((Entries.get? "properties" fields).bind Json.asObject?).map ofFields := by
  induction fields with
  | nil => rfl
  | cons field rest inductionHypothesis =>
    obtain ⟨key, value⟩ := field
    by_cases same : key = "properties"
    · cases value <;> simp [propertiesOf, Entries.get?, Json.asObject?, same]
    · cases value <;> simpa [propertiesOf, Entries.get?, same] using inductionHypothesis

/-- The schema of items is that of the value under their key. -/
theorem itemsOf_eq (fields : Fields) :
    itemsOf fields = (Entries.get? "items" fields).map ofJson := by
  induction fields with
  | nil => rfl
  | cons field rest inductionHypothesis =>
    obtain ⟨key, value⟩ := field
    by_cases same : key = "items"
    · simp [itemsOf, Entries.get?, same]
    · simpa [itemsOf, Entries.get?, same] using inductionHypothesis

/-- The schema of a value that has properties is one of objects, and has a view on the properties
if these are an object. -/
theorem exists_ofJson_of_get? {value properties : Json}
    (found : value.get? "properties" = some properties) :
    ∃ fields, value = .object fields ∧ Entries.has "properties" fields = true ∧
      ofJson value = .object (properties.asObject?.map ofFields) (requiredOf fields) fields := by
  obtain ⟨fields, rfl, isField⟩ := Json.get?_eq_some_iff.mp found
  have has : Entries.has "properties" fields = true := by rw [Entries.has, isField]; rfl
  refine ⟨fields, rfl, has, ?_⟩
  rw [ofJson, if_pos (by rw [describesObject, has, Bool.or_true]), propertiesOf_eq, isField]
  rfl

/-- A schema of objects that has no properties has no view on them. -/
theorem of_ofJson_eq_object_of_missing {value : Json} (missing : value.get? "properties" = none)
    {properties : Option (Entries SchemaNode)} {required : Option (List String)} {fields : Fields}
    (read : ofJson value = .object properties required fields) :
    properties = none ∧ Entries.has "properties" fields = false := by
  obtain ⟨rfl, rfl, -⟩ := of_ofJson_eq_object read
  have noField : Entries.get? "properties" fields = none := missing
  rw [propertiesOf_eq, Entries.has, noField]
  exact ⟨rfl, rfl⟩

end SchemaNode

end OpenApiTools
