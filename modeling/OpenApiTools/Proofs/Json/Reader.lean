import OpenApiTools.Json.Reader
import OpenApiTools.Proofs.Entries
import OpenApiTools.Proofs.Json.Tree
import OpenApiTools.Proofs.Json.Value

/-!
# Values read from JSON texts

An object that has been read has no key twice at any depth, whatever its text repeats: its entries
have been entered one after the other.
-/

namespace OpenApiTools.Json

/-- Every item that has been read is the value of a tree. -/
theorem exists_of_mem_itemsOfTrees? {depth : Nat} {trees : List Tree} {items : List Json}
    (read : itemsOfTrees? depth trees = some items) {item : Json} (isItem : item ∈ items) :
    ∃ tree ∈ trees, ofTree? depth tree = some item := by
  induction trees generalizing items with
  | nil =>
    obtain rfl := Option.some.inj read
    exact absurd isItem List.not_mem_nil
  | cons tree rest inductionHypothesis =>
    rw [itemsOfTrees?] at read
    split at read
    · contradiction
    · rename_i first isFirst
      obtain ⟨others, areOthers, rfl⟩ := Option.map_eq_some_iff.mp read
      rcases List.mem_cons.mp isItem with rfl | later
      · exact ⟨tree, List.mem_cons_self, isFirst⟩
      · obtain ⟨tree, isTree, isValue⟩ := inductionHypothesis areOthers later
        exact ⟨tree, List.mem_cons_of_mem _ isTree, isValue⟩

/-- Every entry that has been read has the value of a tree. -/
theorem exists_of_mem_entriesOfTrees? {depth : Nat} {trees : List (List Piece × Tree)}
    {fields : List (String × Json)} (read : entriesOfTrees? depth trees = some fields)
    {field : String × Json} (isField : field ∈ fields) :
    ∃ entry ∈ trees, ofTree? depth entry.2 = some field.2 := by
  induction trees generalizing fields with
  | nil =>
    obtain rfl := Option.some.inj read
    exact absurd isField List.not_mem_nil
  | cons entry rest inductionHypothesis =>
    rw [entriesOfTrees?] at read
    split at read
    · rename_i name value _ isValue
      obtain ⟨others, areOthers, rfl⟩ := Option.map_eq_some_iff.mp read
      rcases List.mem_cons.mp isField with rfl | later
      · exact ⟨entry, List.mem_cons_self, isValue⟩
      · obtain ⟨entry, isEntry, isValue⟩ := inductionHypothesis areOthers later
        exact ⟨entry, List.mem_cons_of_mem _ isEntry, isValue⟩
    · contradiction

/-- An object whose entries have been entered one after the other has no key twice, if its values
have none. -/
theorem distinct_object_ofList {fields : List (String × Json)}
    (distinct : ∀ field ∈ fields, field.2.Distinct) :
    (object (Entries.ofList fields)).Distinct := by
  rw [distinct_object_iff]
  exact ⟨Entries.nodup_keys_ofList fields,
    fun field isField => distinct field (Entries.mem_of_mem_ofList isField)⟩

/-- No object in the value of a tree has a key twice. -/
theorem distinct_of_ofTree? {depth : Nat} {tree : Tree} {value : Json}
    (read : ofTree? depth tree = some value) : value.Distinct := by
  induction tree using Tree.inductionOn generalizing depth value with
  | null =>
    obtain rfl := Option.some.inj read
    exact distinct_null
  | bool truth =>
    obtain rfl := Option.some.inj read
    exact distinct_bool truth
  | numeral numeral =>
    obtain ⟨number, -, rfl⟩ := Option.map_eq_some_iff.mp read
    exact distinct_number number
  | string pieces =>
    obtain ⟨text, -, rfl⟩ := Option.map_eq_some_iff.mp read
    exact distinct_string text
  | array trees inductionHypothesis =>
    rw [ofTree?] at read
    split at read
    · contradiction
    · obtain ⟨items, areItems, rfl⟩ := Option.map_eq_some_iff.mp read
      rw [distinct_array_iff]
      intro item isItem
      obtain ⟨tree, isTree, isValue⟩ := exists_of_mem_itemsOfTrees? areItems isItem
      exact inductionHypothesis tree isTree isValue
  | object entries inductionHypothesis =>
    rw [ofTree?] at read
    split at read
    · contradiction
    · obtain ⟨fields, areFields, rfl⟩ := Option.map_eq_some_iff.mp read
      apply distinct_object_ofList
      intro field isField
      obtain ⟨entry, isEntry, isValue⟩ := exists_of_mem_entriesOfTrees? areFields isField
      exact inductionHypothesis entry isEntry isValue

/-- No object in the value of a JSON text has a key twice. -/
theorem distinct_of_parse? {text : String} {value : Json} (read : parse? text = some value) :
    value.Distinct := by
  obtain ⟨tree, -, isValue⟩ := Option.bind_eq_some_iff.mp read
  exact distinct_of_ofTree? isValue

end OpenApiTools.Json
