import OpenApiTools.Proofs.Json.Reader
import OpenApiTools.Yaml.Reader

/-!
# Values read from YAML texts

The objects of a YAML text have no key twice either, at any depth and however many aliases are
replaced. What a computation that uses up replacements gives is followed through its steps, without
regard to how many of them are left.
-/

namespace OpenApiTools.Yaml

namespace Expansion

variable {α β : Type} {property : α → Prop} {result : β → Prop}

/-- Whatever a computation gives has a property. -/
def Yields (computation : Expansion α) (property : α → Prop) : Prop :=
  ∀ left value rest, computation left = some (value, rest) → property value

/-- A computation that always fails gives nothing. -/
theorem yields_failure : Yields (failure : Expansion α) property :=
  fun _ _ _ given => nomatch given

/-- A value that is given at once is all that is given. -/
theorem yields_pure {value : α} (holds : property value) :
    Yields (pure value : Expansion α) property := by
  intro left other rest given
  obtain ⟨rfl, -⟩ := Prod.mk.inj (Option.some.inj given)
  exact holds

/-- A value that may be missing is all that is given. -/
theorem yields_lift {option : Option α} (holds : ∀ value, option = some value → property value) :
    Yields (option : Expansion α) property := by
  intro left value rest given
  cases option with
  | none => exact nomatch given
  | some value =>
    obtain ⟨rfl, -⟩ := Prod.mk.inj (Option.some.inj given)
    exact holds value rfl

/-- What a second computation gives has a property if the first gives nothing else that the second
may start from. -/
theorem Yields.bind {computation : Expansion α} {next : α → Expansion β}
    (first : Yields computation property)
    (second : ∀ value, property value → Yields (next value) result) :
    Yields (computation >>= next) result := by
  intro left value rest given
  obtain ⟨⟨middle, remaining⟩, isMiddle, given⟩ := Option.bind_eq_some_iff.mp given
  exact second middle (first left middle remaining isMiddle) remaining value rest given

/-- Nothing need be known about what a computation gives. -/
theorem yields_true (computation : Expansion α) : Yields computation fun _ => True :=
  fun _ _ _ _ => trivial

/-- The values of several computations have the properties that each of them gives. -/
theorem yields_mapM {next : α → Expansion β} {items : List α}
    (each : ∀ item ∈ items, Yields (next item) result) :
    Yields (items.mapM next) fun values => ∀ value ∈ values, result value := by
  induction items with
  | nil => exact yields_pure fun _ isThere => absurd isThere List.not_mem_nil
  | cons item rest inductionHypothesis =>
    rw [List.mapM_cons]
    refine (each item List.mem_cons_self).bind fun first isFirst => ?_
    have later := inductionHypothesis fun item isThere => each item (List.mem_cons_of_mem _ isThere)
    refine later.bind fun others areOthers => ?_
    apply yields_pure
    exact List.forall_mem_cons.mpr ⟨isFirst, areOthers⟩

end Expansion

/-- A scalar without a tag has no objects in it. -/
theorem distinct_of_untaggedValue? {text : String} {plain : Bool} {value : Json}
    (read : untaggedValue? text plain = some value) : value.Distinct := by
  unfold untaggedValue? resolve? at read
  repeat' split at read
  all_goals
    first
    | cases Option.some.inj read
      simp
    | exact absurd read (Option.some_ne_none value).symm

/-- A scalar has no objects in it. -/
theorem distinct_of_scalarValue? {tag : Option Tag} {text : String} {plain : Bool} {value : Json}
    (read : scalarValue? tag text plain = some value) : value.Distinct := by
  cases tag with
  | none => exact distinct_of_untaggedValue? read
  | some tag =>
    rw [scalarValue?] at read
    split at read
    · exact nomatch read
    split at read
    · exact distinct_of_untaggedValue? read
    split at read
    · obtain ⟨truth, -, rfl⟩ := Option.map_eq_some_iff.mp read
      exact Json.distinct_bool truth
    split at read
    · split at read
      · obtain rfl := Option.some.inj read
        exact Json.distinct_number _
      · exact nomatch read
    split at read
    · split at read
      · obtain rfl := Option.some.inj read
        exact Json.distinct_number _
      · obtain rfl := Option.some.inj read
        exact Json.distinct_null
      · exact nomatch read
    split at read
    · split at read
      · obtain rfl := Option.some.inj read
        exact Json.distinct_null
      · exact nomatch read
    · obtain rfl := Option.some.inj read
      exact Json.distinct_string _

namespace Graph

open Expansion

/-- Inside no more collections there are only scalars. -/
theorem expand_zero (graph : Graph) (node : Node) :
    graph.expand 0 node = (do
      match ← graph.follow node with
      | .scalar tag text plain => (scalarValue? tag text plain : Option Json)
      | _ => failure) := by
  delta expand
  apply congrArg (graph.follow node >>= ·)
  funext followed
  cases followed <;> rfl

/-- Inside one more collection there are collections of what is inside one less. -/
theorem expand_succ (graph : Graph) (depth : Nat) (node : Node) :
    graph.expand (depth + 1) node = (do
      match ← graph.follow node with
      | .scalar tag text plain => (scalarValue? tag text plain : Option Json)
      | .sequence tag items =>
        if allowsCollection tag then
          return .array (← items.mapM (graph.expand depth))
        else
          failure
      | .mapping tag entries =>
        if allowsCollection tag then
          let fields ← entries.mapM fun (key, value) => do
            return (← graph.keyText key, ← graph.expand depth value)
          return .object (Entries.ofList fields)
        else
          failure
      | .alias _ => failure) := by
  delta expand
  apply congrArg (graph.follow node >>= ·)
  funext followed
  cases followed <;> rfl

/-- No object in the value of a node has a key twice. -/
theorem yields_expand (graph : Graph) (depth : Nat) (node : Node) :
    Yields (graph.expand depth node) Json.Distinct := by
  induction depth generalizing node with
  | zero =>
    rw [expand_zero]
    refine (yields_true _).bind fun followed _ => ?_
    cases followed with
    | scalar => exact yields_lift fun _ read => distinct_of_scalarValue? read
    | _ => exact yields_failure
  | succ depth inductionHypothesis =>
    rw [expand_succ]
    refine (yields_true _).bind fun followed _ => ?_
    cases followed with
    | scalar => exact yields_lift fun _ read => distinct_of_scalarValue? read
    | sequence tag items =>
      dsimp only
      split
      · have each := yields_mapM fun item (_ : item ∈ items) => inductionHypothesis item
        refine each.bind fun values areDistinct => ?_
        exact yields_pure (Json.distinct_array_iff.mpr areDistinct)
      · exact yields_failure
    | mapping tag entries =>
      dsimp only
      split
      · have each : ∀ entry ∈ entries, Yields (do
            return (← graph.keyText entry.1, ← graph.expand depth entry.2))
            fun field => field.2.Distinct := by
          intro entry _
          refine (yields_true _).bind fun name _ => ?_
          refine (inductionHypothesis entry.2).bind fun value isDistinct => ?_
          exact yields_pure isDistinct
        refine (yields_mapM each).bind fun fields areDistinct => ?_
        exact yields_pure (Json.distinct_object_ofList areDistinct)
      · exact yields_failure
    | _ => exact yields_failure

end Graph

/-- No object in the value of a YAML text has a key twice. -/
theorem distinct_of_parse? {text : String} {value : Json} (read : parse? text = some value) :
    value.Distinct := by
  simp only [parse?, Option.bind_eq_bind, Option.bind_eq_some_iff] at read
  obtain ⟨_, -, _, -, graph, -, isValue⟩ := read
  obtain ⟨⟨result, rest⟩, given, rfl⟩ := Option.map_eq_some_iff.mp isValue
  exact graph.yields_expand depthLimit graph.root _ _ _ given

end OpenApiTools.Yaml
