import OpenApiTools.Proofs.Schema

/-!
# Views on schemas

The views of a schema lead to schemas inside it: to those of its properties and to that of its
items. Whatever they lead to is the schema of the value that the same steps lead to in the value
which the schema was read from. So no view is lost and none is made up at any depth, and every
schema that is reached can be written as it was found. A view exists only where the value has the
shape for it. Items of a value that describes objects are not viewed, though they are kept.
-/

namespace OpenApiTools

/-- A step into a schema: to one of its properties, or to its items. -/
inductive SchemaStep
  | property (name : String)
  | items

namespace Json

/-- The value describes objects: its type says so, or it has properties of whatever form. -/
def DescribesObjects (value : Json) : Prop :=
  value.getString? "type" = some "object" ∨ (value.get? "properties").isSome

/-- The value describes arrays, unless it describes objects. -/
def DescribesArrays (value : Json) : Prop :=
  value.getString? "type" = some "array" ∨ (value.get? "items").isSome

instance (value : Json) : Decidable value.DescribesObjects :=
  inferInstanceAs (Decidable (_ ∨ _))

/-- The value that a step leads to: the one under a name in the object of properties, or the one of
items, which count only where no objects are described. -/
def step? (value : Json) : SchemaStep → Option Json
  | .property name => (value.get? "properties").bind (·.get? name)
  | .items => if value.DescribesObjects then none else value.get? "items"

/-- The value that steps lead to. -/
def follow? (value : Json) (steps : List SchemaStep) : Option Json :=
  steps.foldlM step? value

end Json

namespace SchemaNode

/-- The schema that a step leads to through a view. -/
def step? : SchemaNode → SchemaStep → Option SchemaNode
  | .object (some properties) _ _, .property name => Entries.get? name properties
  | .array items _, .items => items
  | _, _ => none

/-- The schema that steps lead to through views. -/
def follow? (node : SchemaNode) (steps : List SchemaStep) : Option SchemaNode :=
  steps.foldlM step? node

/-- A schema gives back the value that it was read from: as a whole and in print, by its keys, and
by its type. -/
structure Reproduces (node : SchemaNode) (value : Json) : Prop where
  written : node.toJson = value
  printed : ∀ layout, node.toJson.render layout = value.render layout
  fields : ∀ key, node.field? key = value.get? key
  type : node.typeName? = value.getString? "type"

/-- A schema has those views that the value which it was read from has the shape for. -/
structure Views (node : SchemaNode) (value : Json) : Prop where
  /-- If objects are described, then there are views on properties exactly if these are an object,
  and they are those of its fields in order; and there is a view on required names exactly if these
  are an array of strings. -/
  object : ∀ fields, value = .object fields → value.DescribesObjects →
    ∃ properties required, node = .object properties required fields ∧
      (∀ views, properties = some views ↔ ∃ entries : Fields,
        value.get? "properties" = some (.object entries) ∧ views = entries.mapValues ofJson) ∧
      (∀ names, required = some names ↔
        value.get? "required" = some (.array (names.map .string)))
  /-- If arrays are described and not objects, then there is a view on items exactly if there are
  items. -/
  array : ∀ fields, value = .object fields → ¬ value.DescribesObjects → value.DescribesArrays →
    node = .array ((value.get? "items").map ofJson) fields
  /-- Of any other object the type is viewed if it is a string, and the allowed values if they are
  an array. -/
  scalar : ∀ fields, value = .object fields → ¬ value.DescribesObjects → ¬ value.DescribesArrays →
    ∃ kind enumeration, node = .scalar kind enumeration fields ∧
      (∀ text, kind = some text ↔ value.get? "type" = some (.string text)) ∧
      (∀ values, enumeration = some values ↔ value.get? "enum" = some (.array values))
  /-- What is no object has no views. -/
  literal : (∀ fields, value ≠ .object fields) → node = .literal value

theorem describesObject_iff {fields : Fields} :
    describesObject fields = true ↔ (Json.object fields).DescribesObjects := by
  rw [describesObject, Bool.or_eq_true, beq_iff_eq]
  rfl

theorem describesArray_iff {fields : Fields} :
    describesArray fields = true ↔ (Json.object fields).DescribesArrays := by
  rw [describesArray, Bool.or_eq_true, beq_iff_eq]
  rfl

section Shapes

variable {fields : Fields}

/-- The schema of an object that describes objects. -/
theorem ofJson_of_describesObjects (objects : (Json.object fields).DescribesObjects) :
    ofJson (.object fields) = .object (propertiesOf fields) (requiredOf fields) fields := by
  rw [ofJson, if_pos (describesObject_iff.mpr objects)]

/-- The schema of an object that describes arrays and not objects. -/
theorem ofJson_of_describesArrays (noObjects : ¬ (Json.object fields).DescribesObjects)
    (arrays : (Json.object fields).DescribesArrays) :
    ofJson (.object fields) = .array (itemsOf fields) fields := by
  rw [ofJson, if_neg (mt describesObject_iff.mp noObjects), if_pos (describesArray_iff.mpr arrays)]

/-- The schema of any other object. -/
theorem ofJson_of_not_describes (noObjects : ¬ (Json.object fields).DescribesObjects)
    (noArrays : ¬ (Json.object fields).DescribesArrays) :
    ofJson (.object fields) =
      .scalar (typeOf fields) ((Entries.get? "enum" fields).bind Json.asArray?) fields := by
  rw [ofJson, if_neg (mt describesObject_iff.mp noObjects),
    if_neg (mt describesArray_iff.mp noArrays)]

/-- The schema of a value that is no object. -/
theorem ofJson_of_ne_object {value : Json} (noObject : ∀ fields, value ≠ .object fields) :
    ofJson value = .literal value := by
  cases value with
  | object fields => exact absurd rfl (noObject fields)
  | _ => rfl

end Shapes

/-- What a schema has under a key is what the value has there. -/
theorem field?_ofJson (value : Json) (key : String) :
    (ofJson value).field? key = value.get? key := by
  cases value with
  | object fields =>
    rw [ofJson]
    split
    · rfl
    · split <;> rfl
  | _ => rfl

/-- A schema that was read from a value gives the value back. -/
theorem reproduces_ofJson (value : Json) : (ofJson value).Reproduces value where
  written := toJson_ofJson value
  printed layout := by rw [toJson_ofJson]
  fields key := field?_ofJson value key
  type := by
    rw [typeName?, field?_ofJson]
    rfl

/-- A schema that was read from a value has the views that the value has the shape for. -/
theorem views_ofJson (value : Json) : (ofJson value).Views value where
  object := by
    rintro fields rfl objects
    refine ⟨_, _, ofJson_of_describesObjects objects, fun views => ?_, fun names => ?_⟩
    · simp only [propertiesOf_eq, Option.map_eq_some_iff, Option.bind_eq_some_iff,
        Json.asObject?_eq_some_iff, ofFields_eq_mapValues, exists_eq_right]
      exact exists_congr fun entries => and_congr_right fun _ => eq_comm
    · rw [requiredOf_eq, Option.bind_eq_some_iff]
      simp only [Json.texts?_eq_some_iff, exists_eq_right]
      rfl
  array := by
    rintro fields rfl noObjects arrays
    rw [ofJson_of_describesArrays noObjects arrays, itemsOf_eq]
    rfl
  scalar := by
    rintro fields rfl noObjects noArrays
    refine ⟨_, _, ofJson_of_not_describes noObjects noArrays, fun text => ?_, fun values => ?_⟩
    · rw [typeOf, Option.bind_eq_some_iff]
      simp only [Json.asString?_eq_some_iff, exists_eq_right]
      rfl
    · rw [Option.bind_eq_some_iff]
      simp only [Json.asArray?_eq_some_iff, exists_eq_right]
      rfl
  literal noObject := ofJson_of_ne_object noObject

/-- A step to a property leads to the schema of the value under its name. -/
theorem step?_property_ofJson (value : Json) (name : String) :
    (ofJson value).step? (.property name) = (value.step? (.property name)).map ofJson := by
  cases value with
  | object fields =>
    by_cases objects : (Json.object fields).DescribesObjects
    · rw [ofJson_of_describesObjects objects, propertiesOf_eq, Json.step?]
      change _ = ((Entries.get? "properties" fields).bind (·.get? name)).map ofJson
      cases Entries.get? "properties" fields with
      | none => rfl
      | some value =>
        cases value with
        | object entries =>
          change Entries.get? name (ofFields entries) = (Entries.get? name entries).map ofJson
          rw [ofFields_eq_mapValues, Entries.get?_mapValues]
        | _ => rfl
    · have noProperties : (Json.object fields).get? "properties" = none :=
        Option.not_isSome_iff_eq_none.mp fun found => objects (.inr found)
      rw [Json.step?, noProperties]
      by_cases arrays : (Json.object fields).DescribesArrays
      · rw [ofJson_of_describesArrays objects arrays]
        rfl
      · rw [ofJson_of_not_describes objects arrays]
        rfl
  | _ => rfl

/-- A step to items leads to the schema of the items, unless objects are described. -/
theorem step?_items_ofJson (value : Json) :
    (ofJson value).step? .items = (value.step? .items).map ofJson := by
  cases value with
  | object fields =>
    by_cases objects : (Json.object fields).DescribesObjects
    · rw [ofJson_of_describesObjects objects, Json.step?, if_pos objects]
      cases propertiesOf fields <;> rfl
    · rw [Json.step?, if_neg objects]
      by_cases arrays : (Json.object fields).DescribesArrays
      · rw [ofJson_of_describesArrays objects arrays, itemsOf_eq]
        rfl
      · have noItems : (Json.object fields).get? "items" = none :=
          Option.not_isSome_iff_eq_none.mp fun found => arrays (.inr found)
        rw [ofJson_of_not_describes objects arrays, noItems]
        rfl
  | _ => rfl

/-- Steps through views lead to the schema of the value that the steps lead to. -/
theorem follow?_ofJson (value : Json) (steps : List SchemaStep) :
    (ofJson value).follow? steps = (value.follow? steps).map ofJson := by
  -- Each step moves on to another value, of which the steps that are left are taken.
  induction steps generalizing value with
  | nil => rfl
  | cons step rest inductionHypothesis =>
    have taken : (ofJson value).step? step = (value.step? step).map ofJson := by
      cases step with
      | property name => exact step?_property_ofJson value name
      | items => exact step?_items_ofJson value
    rw [follow?, Json.follow?, List.foldlM_cons, List.foldlM_cons, taken]
    cases value.step? step with
    | none => rfl
    | some inner => exact inductionHypothesis inner

/-- Whatever is reached through the views of a schema is the schema of the value that the same steps
lead to; and that schema gives back this value, and has the views that this value has the shape
for. -/
theorem follow?_ofJson_eq_some_iff (value : Json) (steps : List SchemaStep) (node : SchemaNode) :
    (ofJson value).follow? steps = some node ↔
      ∃ inner, value.follow? steps = some inner ∧ node = ofJson inner ∧
        node.Reproduces inner ∧ node.Views inner := by
  rw [follow?_ofJson, Option.map_eq_some_iff]
  constructor
  · rintro ⟨inner, reached, rfl⟩
    exact ⟨inner, reached, rfl, reproduces_ofJson inner, views_ofJson inner⟩
  · rintro ⟨inner, reached, rfl, -, -⟩
    exact ⟨inner, reached, rfl⟩

/-- A value that describes arrays by its type, but has properties: only these are viewed. Under one
of them, items make an array although no type says so. -/
example :
    let value : Json := .object
      [("type", .string "array"), ("items", .bool true), ("properties", .object
        [("tags", .object [("items", .object [("enum", .array [.null])])])])]
    (ofJson value).follow? [.items] = none ∧
      (ofJson value).follow? [.property "tags", .items] =
        some (.scalar none (some [.null]) [("enum", .array [.null])]) :=
  ⟨rfl, rfl⟩

end SchemaNode

end OpenApiTools
