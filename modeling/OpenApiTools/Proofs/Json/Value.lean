import OpenApiTools.Json.Basic

/-!
# Values inside values

A JSON value holds other values at every depth. An induction over values has a hypothesis for each
item of an array and each field of an object, and a property of a whole value says that all values
inside it have some property of their own: that no object has a key twice, or that every number is
an integer that fits a word.
-/

namespace OpenApiTools.Json

/-- An induction over values that goes through the items of arrays and the fields of objects. -/
@[elab_as_elim]
theorem inductionOn {motive : Json → Prop} (value : Json) (null : motive .null)
    (bool : ∀ value, motive (.bool value)) (number : ∀ value, motive (.number value))
    (string : ∀ value, motive (.string value))
    (array : ∀ items, (∀ item ∈ items, motive item) → motive (.array items))
    (object : ∀ fields : Fields, (∀ field ∈ fields, motive field.2) → motive (.object fields)) :
    motive value :=
  @Json.rec motive (fun items => ∀ item ∈ items, motive item)
    (fun fields => ∀ field ∈ fields, motive field.2) (fun field => motive field.2)
    null bool number string array object
    (fun _ isItem => absurd isItem List.not_mem_nil)
    (fun _ _ first others item isItem =>
      (List.mem_cons.mp isItem).elim (fun same => same ▸ first) (others item))
    (fun _ isField => absurd isField List.not_mem_nil)
    (fun _ _ first others field isField =>
      (List.mem_cons.mp isField).elim (fun same => same ▸ first) (others field))
    (fun _ _ found => found) value

/-- One value is the other or lies inside it, at any depth. -/
inductive Within (inner : Json) : Json → Prop
  | self : Within inner inner
  | item {items : List Json} {item : Json} (isItem : item ∈ items) (within : Within inner item) :
    Within inner (.array items)
  | field {fields : Fields} {field : String × Json} (isField : field ∈ fields)
    (within : Within inner field.2) : Within inner (.object fields)

/-- No object inside the value has a key twice. -/
def Distinct (value : Json) : Prop :=
  ∀ fields : Fields, Within (.object fields) value → (Entries.keys fields).Nodup

/-- A number is an integer that fits a word of 64 bits, with or without a sign. -/
def Number.FitsWord : Number → Prop
  | .integer value => -Nat.pow 2 63 ≤ value ∧ value < Nat.pow 2 64
  | .double _ => False

/-- All numbers inside the value are integers that fit a word. -/
def Integral (value : Json) : Prop :=
  ∀ number, Within (.number number) value → number.FitsWord

section Within

variable {inner value : Json} {items : List Json} {fields : Fields}

/-- Inside an array are the array itself and what is inside its items. -/
theorem within_array_iff :
    Within inner (.array items) ↔ inner = .array items ∨ ∃ item ∈ items, Within inner item := by
  constructor
  · intro within
    cases within with
    | self => exact .inl rfl
    | item isItem within => exact .inr ⟨_, isItem, within⟩
  · rintro (rfl | ⟨item, isItem, within⟩)
    · exact .self
    · exact .item isItem within

/-- Inside an object are the object itself and what is inside its fields. -/
theorem within_object_iff :
    Within inner (.object fields) ↔
      inner = .object fields ∨ ∃ field ∈ fields, Within inner field.2 := by
  constructor
  · intro within
    cases within with
    | self => exact .inl rfl
    | field isField within => exact .inr ⟨_, isField, within⟩
  · rintro (rfl | ⟨field, isField, within⟩)
    · exact .self
    · exact .field isField within

/-- What is inside a value is inside everything that the value is inside. -/
theorem Within.trans {outer : Json} (first : Within inner value) (second : Within value outer) :
    Within inner outer := by
  induction second with
  | self => exact first
  | item isItem _ inductionHypothesis => exact .item isItem inductionHypothesis
  | field isField _ inductionHypothesis => exact .field isField inductionHypothesis

end Within

section Distinct

variable {items : List Json} {fields : Fields}

/-- Keys are distinct in what is inside a value if they are in the value. -/
theorem Distinct.of_within {inner value : Json} (distinct : value.Distinct)
    (within : Within inner value) : inner.Distinct :=
  fun fields isInner => distinct fields (isInner.trans within)

@[simp] theorem distinct_null : Distinct .null := fun _ within => nomatch within

@[simp] theorem distinct_bool (value : Bool) : Distinct (.bool value) :=
  fun _ within => nomatch within

@[simp] theorem distinct_number (value : Number) : Distinct (.number value) :=
  fun _ within => nomatch within

@[simp] theorem distinct_string (value : String) : Distinct (.string value) :=
  fun _ within => nomatch within

/-- The keys in an array are distinct if they are in its items. -/
@[simp] theorem distinct_array_iff :
    Distinct (.array items) ↔ ∀ item ∈ items, Distinct item := by
  constructor
  · exact fun distinct item isItem fields within => distinct fields (.item isItem within)
  · intro distinct fields within
    obtain isArray | ⟨item, isItem, within⟩ := within_array_iff.mp within
    · exact nomatch isArray
    · exact distinct item isItem fields within

/-- The keys in an object are distinct if its own are and those in its fields. -/
@[simp] theorem distinct_object_iff :
    Distinct (.object fields) ↔
      (Entries.keys fields).Nodup ∧ ∀ field ∈ fields, Distinct field.2 := by
  constructor
  · intro distinct
    exact ⟨distinct fields .self,
      fun field isField inner within => distinct inner (.field isField within)⟩
  · rintro ⟨nodup, distinct⟩ inner within
    obtain isObject | ⟨field, isField, within⟩ := within_object_iff.mp within
    · obtain rfl := Json.object.inj isObject
      exact nodup
    · exact distinct field isField inner within

end Distinct

section Integral

variable {items : List Json} {fields : Fields}

@[simp] theorem integral_null : Integral .null := fun _ within => nomatch within

@[simp] theorem integral_bool (value : Bool) : Integral (.bool value) :=
  fun _ within => nomatch within

@[simp] theorem integral_string (value : String) : Integral (.string value) :=
  fun _ within => nomatch within

@[simp] theorem integral_number_iff {value : Number} :
    Integral (.number value) ↔ value.FitsWord := by
  constructor
  · exact fun integral => integral value .self
  · intro fits number within
    cases within with
    | self => exact fits

/-- The numbers in an array are those in its items. -/
@[simp] theorem integral_array_iff :
    Integral (.array items) ↔ ∀ item ∈ items, Integral item := by
  constructor
  · exact fun integral item isItem number within => integral number (.item isItem within)
  · intro integral number within
    obtain isArray | ⟨item, isItem, within⟩ := within_array_iff.mp within
    · exact nomatch isArray
    · exact integral item isItem number within

/-- The numbers in an object are those in its fields. -/
@[simp] theorem integral_object_iff :
    Integral (.object fields) ↔ ∀ field ∈ fields, Integral field.2 := by
  constructor
  · exact fun integral field isField number within => integral number (.field isField within)
  · intro integral number within
    obtain isObject | ⟨field, isField, within⟩ := within_object_iff.mp within
    · exact nomatch isObject
    · exact integral field isField number within

end Integral

mutual

/-- How deep arrays and objects nest in a value. -/
def nesting : Json → Nat
  | .array items => nestingOfItems items + 1
  | .object fields => nestingOfFields fields + 1
  | _ => 0

/-- How deep arrays and objects nest in the items of an array. -/
def nestingOfItems : List Json → Nat
  | [] => 0
  | item :: rest => max (nesting item) (nestingOfItems rest)

/-- How deep arrays and objects nest in the fields of an object. -/
def nestingOfFields : List (String × Json) → Nat
  | [] => 0
  | (_, value) :: rest => max (nesting value) (nestingOfFields rest)

end

theorem nestingOfItems_le_iff {items : List Json} {depth : Nat} :
    nestingOfItems items ≤ depth ↔ ∀ item ∈ items, nesting item ≤ depth := by
  induction items with
  | nil => simp [nestingOfItems]
  | cons item rest inductionHypothesis =>
    rw [nestingOfItems, Nat.max_le, inductionHypothesis, List.forall_mem_cons]

theorem nestingOfFields_le_iff {fields : Fields} {depth : Nat} :
    nestingOfFields fields ≤ depth ↔ ∀ field ∈ fields, nesting field.2 ≤ depth := by
  induction fields with
  | nil => simp [nestingOfFields]
  | cons field rest inductionHypothesis =>
    rw [nestingOfFields, Nat.max_le, inductionHypothesis, List.forall_mem_cons]

mutual

/-- All numbers inside a value. -/
def numbers : Json → List Number
  | .number value => [value]
  | .array items => numbersOfItems items
  | .object fields => numbersOfFields fields
  | _ => []

/-- All numbers inside the items of an array. -/
def numbersOfItems : List Json → List Number
  | [] => []
  | item :: rest => numbers item ++ numbersOfItems rest

/-- All numbers inside the fields of an object. -/
def numbersOfFields : List (String × Json) → List Number
  | [] => []
  | (_, value) :: rest => numbers value ++ numbersOfFields rest

end

theorem numbersOfItems_eq (items : List Json) : numbersOfItems items = items.flatMap numbers := by
  induction items with
  | nil => rfl
  | cons item rest inductionHypothesis =>
    rw [numbersOfItems, inductionHypothesis, List.flatMap_cons]

theorem numbersOfFields_eq (fields : Fields) :
    numbersOfFields fields = fields.flatMap fun field => numbers field.2 := by
  induction fields with
  | nil => rfl
  | cons field rest inductionHypothesis =>
    rw [numbersOfFields, inductionHypothesis, List.flatMap_cons]

/-- The numbers of a value can be listed to see whether they are integers that fit a word. -/
theorem integral_iff_numbers (value : Json) :
    Integral value ↔ ∀ number ∈ numbers value, number.FitsWord := by
  induction value using inductionOn with
  | null => simp [numbers]
  | bool value => simp [numbers]
  | number value => simp [numbers]
  | string value => simp [numbers]
  | array items inductionHypothesis =>
    rw [integral_array_iff, numbers, numbersOfItems_eq, List.forall_mem_flatMap]
    exact forall₂_congr inductionHypothesis
  | object fields inductionHypothesis =>
    rw [integral_object_iff, numbers, numbersOfFields_eq, List.forall_mem_flatMap]
    exact forall₂_congr inductionHypothesis

instance (number : Number) : Decidable number.FitsWord :=
  match number with
  | .integer value => inferInstanceAs (Decidable (-Nat.pow 2 63 ≤ value ∧ value < Nat.pow 2 64))
  | .double _ => .isFalse id

instance (value : Json) : Decidable (Integral value) :=
  decidable_of_iff _ (integral_iff_numbers value).symm

end OpenApiTools.Json
