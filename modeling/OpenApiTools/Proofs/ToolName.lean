import Mathlib.Data.List.Count
import Mathlib.Data.List.Nodup
import OpenApiTools.Proofs.FirstOccurrence
import OpenApiTools.Tool

/-!
# Names and namespaces

A namespace that is not empty goes in front of the name that a tool would have without it, and this
is all that it does. Tools that share a name without the namespace share one with it, so that the
repeated names change in the same way as the names themselves.
-/

namespace OpenApiTools

namespace ToolName

/-- Without a namespace a name stays as it is. -/
@[simp] theorem withNamespace_none (name : String) : withNamespace name none = name := rfl

/-- The empty namespace counts as none. -/
@[simp] theorem withNamespace_empty (name : String) : withNamespace name (some "") = name := rfl

/-- Any other namespace goes in front. -/
theorem withNamespace_of_ne_empty {outer : String} (nonempty : outer ≠ "") (name : String) :
    withNamespace name (some outer) = outer ++ "_" ++ name := by
  have kept : (some outer).filter (!·.isEmpty) = some outer := by
    simpa [Option.filter, String.isEmpty] using nonempty
  rw [withNamespace, kept]

/-- The name of an operation is the name that it has without a namespace, with the namespace in
front. -/
theorem resolve_eq_withNamespace (operationId : Option String) (method path : String)
    (nameSpace : Option String) :
    resolve operationId method path nameSpace =
      withNamespace (resolve operationId method path none) nameSpace := by
  unfold resolve
  split <;> rfl

/-- A namespace keeps different names different. -/
theorem injective_namespace (outer : String) : Function.Injective (outer ++ "_" ++ ·) :=
  fun _ _ equal => (String.append_right_inj _).mp equal

/-- Whatever the namespace, different names stay different. -/
theorem withNamespace_injective (nameSpace : Option String) :
    Function.Injective (withNamespace · nameSpace) := by
  intro left right same
  cases outer : nameSpace.filter (!·.isEmpty) with
  | none => simpa only [withNamespace, outer] using same
  | some outer =>
    simp only [withNamespace, outer] at same
    exact injective_namespace _ same

end ToolName

namespace Tool

/-- The repeated names are the names that occur more than once, each at its first occurrence. -/
theorem repeatedNames_eq (tools : List Tool) :
    repeatedNames tools =
      appendNew [] ((tools.map Tool.name).filter fun name =>
        1 < (tools.map Tool.name).count name) := by
  unfold repeatedNames
  generalize tools.map Tool.name = names
  -- A name is added where it is repeated and has not been found before.
  have noted (found : List String) (name : String) :
      (if (1 < names.count name && !found.contains name) = true then found ++ [name] else found) =
        appendNew found ([name].filter fun name => 1 < names.count name) := by
    by_cases repeated : 1 < names.count name
    · rw [List.filter_cons_of_pos (by simpa using repeated), appendNew]
      by_cases known : name ∈ found <;> simp [repeated, known]
    · rw [List.filter_cons_of_neg (by simpa using repeated)]
      simp [repeated]
  have whole := foldl_eq_appendNew id _ noted [] names
  rwa [← List.filter_flatMap, List.flatMap_singleton'] at whole

/-- A name is repeated if it occurs more than once. -/
theorem mem_repeatedNames {tools : List Tool} {name : String} :
    name ∈ repeatedNames tools ↔ 1 < (tools.map Tool.name).count name := by
  rw [repeatedNames_eq, mem_appendNew, List.mem_filter, decide_eq_true_eq]
  constructor
  · rintro (none | ⟨-, several⟩)
    · exact absurd none List.not_mem_nil
    · exact several
  · intro several
    exact .inr ⟨List.count_pos_iff.mp (Nat.lt_of_succ_lt several), several⟩

/-- No names are repeated exactly if the names are distinct. -/
theorem repeatedNames_eq_nil_iff (tools : List Tool) :
    repeatedNames tools = [] ↔ (tools.map Tool.name).Nodup := by
  rw [List.eq_nil_iff_forall_not_mem, List.nodup_iff_count_le_one]
  simp only [mem_repeatedNames, Nat.not_lt]

/-- Names that are all changed in the same way, and stay different if they were, are repeated as
before. -/
theorem repeatedNames_of_names_eq_map {rename : String → String}
    (injective : Function.Injective rename) {left right : List Tool}
    (renamed : left.map Tool.name = (right.map Tool.name).map rename) :
    repeatedNames left = (repeatedNames right).map rename := by
  rw [repeatedNames_eq, repeatedNames_eq, renamed, List.filter_map]
  have counts : (fun name => decide (1 < ((right.map Tool.name).map rename).count name)) ∘ rename =
      fun name => decide (1 < (right.map Tool.name).count name) := by
    funext name
    rw [Function.comp_apply, List.count_map_of_injective _ _ injective]
  rw [counts]
  exact appendNew_map injective [] _

end Tool

end OpenApiTools
