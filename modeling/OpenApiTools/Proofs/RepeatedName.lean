import Mathlib.Data.List.NodupEquivFin
import OpenApiTools.Proofs.Entries
import OpenApiTools.Proofs.ToolName

/-!
# Repeated names

The names that several tools have are reported once each, in the order of the tools that have them
first. What is reported depends on the names and their places alone: counting the tools with each
name in a table beforehand gives the same, in whatever order the table lists the names.
-/

namespace OpenApiTools.Tool

/-- The tool at a place has this name. -/
def HasNameAt (tools : List Tool) (name : String) (place : Nat) : Prop :=
  ∃ tool, tools[place]? = some tool ∧ tool.name = name

/-- The place of the first tool that has a name. -/
def firstPlace (tools : List Tool) (name : String) : Nat :=
  (tools.map Tool.name).idxOf name

/-- A report of the names that several tools have. -/
structure ReportsRepeated (tools : List Tool) (report : List String) : Prop where
  nodup : report.Nodup
  mem_iff : ∀ name, name ∈ report ↔
    ∃ first second, first < second ∧ HasNameAt tools name first ∧ HasNameAt tools name second
  /-- Names stand in the order of the tools that have them first. -/
  ordered : report.Pairwise fun former latter => firstPlace tools former < firstPlace tools latter
  eq_nil_iff : report = [] ↔ (tools.map Tool.name).Nodup

/-- How many tools have each name, counted tool by tool. -/
def tally (tools : List Tool) : Entries Nat :=
  tools.foldl (fun counts tool => counts.insert tool.name ((counts.get? tool.name).getD 0 + 1)) []

/-- The names that are repeated according to a table of numbers, found tool by tool. -/
def repeatedBy (counts : Entries Nat) (tools : List Tool) : List String :=
  tools.foldl (fun found tool =>
    if 1 < (counts.get? tool.name).getD 0 && !found.contains tool.name then found ++ [tool.name]
    else found) []

/-- The repeated names are the names at their first places less those that occur once. -/
theorem repeatedNames_eq_filter (tools : List Tool) :
    repeatedNames tools =
      (appendNew [] (tools.map Tool.name)).filter
        fun name => 1 < (tools.map Tool.name).count name := by
  rw [repeatedNames_eq]
  exact appendNew_filter _ [] _

/-- The names of tools are read off at their places. -/
theorem hasNameAt_iff {tools : List Tool} {name : String} {place : Nat} :
    HasNameAt tools name place ↔ (tools.map Tool.name)[place]? = some name := by
  rw [HasNameAt, List.getElem?_map, Option.map_eq_some_iff]

/-- A name occurs more than once if two tools have it. -/
theorem one_lt_count_iff {tools : List Tool} {name : String} :
    1 < (tools.map Tool.name).count name ↔
      ∃ first second, first < second ∧ HasNameAt tools name first ∧
        HasNameAt tools name second := by
  simp only [hasNameAt_iff, List.getElem?_eq_some_iff]
  have twice := List.duplicate_iff_two_le_count (l := tools.map Tool.name) (x := name)
  rw [← Nat.succ_le_iff, Nat.succ_eq_add_one, ← twice, List.duplicate_iff_exists_distinct_get]
  constructor
  · rintro ⟨first, second, earlier, isFirst, isSecond⟩
    exact ⟨first, second, earlier, ⟨first.isLt, isFirst.symm⟩, second.isLt, isSecond.symm⟩
  · rintro ⟨first, second, earlier, ⟨firstInside, isFirst⟩, secondInside, isSecond⟩
    exact ⟨⟨first, firstInside⟩, ⟨second, secondInside⟩, earlier, isFirst.symm, isSecond.symm⟩

/-- The repeated names are a report of the names that several tools have. -/
theorem reportsRepeated_repeatedNames (tools : List Tool) :
    ReportsRepeated tools (repeatedNames tools) where
  nodup := by
    rw [repeatedNames_eq]
    exact nodup_appendNew List.nodup_nil _
  mem_iff name := mem_repeatedNames.trans one_lt_count_iff
  ordered := by
    rw [repeatedNames_eq_filter]
    exact (listsFirst_appendNew (tools.map Tool.name)).ordered.filter _
  eq_nil_iff := repeatedNames_eq_nil_iff tools

section Tally

/-- Counting adds to the numbers of a table how often each name occurs. -/
theorem getD_get?_foldl_tally (tools : List Tool) (counts : Entries Nat) (name : String) :
    ((tools.foldl (fun counts tool =>
        counts.insert tool.name ((counts.get? tool.name).getD 0 + 1)) counts).get? name).getD 0 =
      (counts.get? name).getD 0 + (tools.map Tool.name).count name := by
  induction tools generalizing counts with
  | nil => rfl
  | cons tool rest inductionHypothesis =>
    rw [List.foldl_cons, inductionHypothesis, Entries.get?_insert, List.map_cons, List.count_cons]
    by_cases same : tool.name = name
    · simp [same]
      omega
    · simp [same]

/-- No name is counted in two places. -/
theorem nodup_keys_tally (tools : List Tool) : (tally tools).keys.Nodup := by
  refine List.foldlRecOn (motive := fun counts => (Entries.keys counts).Nodup) tools _
    List.nodup_nil ?_
  intro counts distinct tool _
  exact Entries.nodup_keys_insert distinct _ _

/-- A table lists how often each name occurs, in whatever order it lists the names. -/
theorem getD_get?_of_perm_tally {tools : List Tool} {counts : Entries Nat}
    (rearranged : counts.Perm (tally tools)) (name : String) :
    (counts.get? name).getD 0 = (tools.map Tool.name).count name := by
  rw [← Entries.get?_eq_of_perm (nodup_keys_tally tools) rearranged.symm, tally,
    getD_get?_foldl_tally, Entries.get?, Option.getD_none, Nat.zero_add]

/-- The repeated names may be found with any table that lists how often each name occurs. -/
theorem repeatedBy_eq_repeatedNames {tools : List Tool} {counts : Entries Nat}
    (rearranged : counts.Perm (tally tools)) : repeatedBy counts tools = repeatedNames tools := by
  simp only [repeatedBy, repeatedNames, List.foldl_map, getD_get?_of_perm_tally rearranged]

end Tally

section Append

variable {tools : List Tool} {tool : Tool}

/-- How often a name occurs once a tool has been added. -/
theorem count_map_name_append (tools : List Tool) (tool : Tool) (name : String) :
    ((tools ++ [tool]).map Tool.name).count name =
      (tools.map Tool.name).count name + if tool.name = name then 1 else 0 := by
  rw [List.map_append, List.count_append, List.map_singleton, List.count_singleton]
  simp

/-- A tool whose name does not occur once changes nothing: the name is new, or it is repeated. -/
theorem repeatedNames_append_of_count_ne_one
    (notOnce : (tools.map Tool.name).count tool.name ≠ 1) :
    repeatedNames (tools ++ [tool]) = repeatedNames tools := by
  have unchanged (name : String) :
      decide (1 < ((tools ++ [tool]).map Tool.name).count name) =
        decide (1 < (tools.map Tool.name).count name) := by
    rw [decide_eq_decide, count_map_name_append]
    split
    · rename_i same
      subst same
      omega
    · rfl
  rw [repeatedNames_eq, repeatedNames_eq]
  simp only [unchanged]
  rw [List.map_append, List.filter_append, appendNew_append, List.map_singleton]
  by_cases several : 1 < (tools.map Tool.name).count tool.name
  · have known : tool.name ∈ repeatedNames tools := mem_repeatedNames.mpr several
    rw [repeatedNames_eq] at known
    rw [List.filter_cons_of_pos (by simpa using several), List.filter_nil, appendNew, if_pos known,
      appendNew_nil]
  · rw [List.filter_cons_of_neg (by simpa using several), List.filter_nil, appendNew_nil]

/-- A tool whose name occurs once makes it a repeated name, at its first place. -/
theorem repeatedNames_append_of_count_eq_one (once : (tools.map Tool.name).count tool.name = 1) :
    ∃ before after, repeatedNames tools = before ++ after ∧
      repeatedNames (tools ++ [tool]) = before ++ tool.name :: after ∧
      (∀ former ∈ before, firstPlace tools former < firstPlace tools tool.name) ∧
      ∀ latter ∈ after, firstPlace tools tool.name < firstPlace tools latter := by
  have lists := listsFirst_appendNew (tools.map Tool.name)
  have known : tool.name ∈ appendNew [] (tools.map Tool.name) :=
    (lists.mem_iff tool.name).mpr (List.count_pos_iff.mp (by omega))
  obtain ⟨before, after, split, isFormer, isLatter⟩ := lists.exists_split_of_mem known
  have sameNames :
      appendNew [] ((tools ++ [tool]).map Tool.name) = appendNew [] (tools.map Tool.name) := by
    rw [List.map_append, appendNew_append, List.map_singleton, appendNew, if_pos known,
      appendNew_nil]
  -- The other names are repeated as before.
  have unchanged {others : List String} (different : ∀ other ∈ others, tool.name ≠ other) :
      (others.filter fun name => 1 < ((tools ++ [tool]).map Tool.name).count name) =
        others.filter fun name => 1 < (tools.map Tool.name).count name := by
    apply List.filter_congr
    intro other isOther
    rw [count_map_name_append, if_neg (different other isOther), Nat.add_zero]
  have notFormer : ∀ former ∈ before, tool.name ≠ former := by
    rintro former isThere rfl
    exact Nat.lt_irrefl _ (isFormer _ isThere)
  have notLatter : ∀ latter ∈ after, tool.name ≠ latter := by
    rintro latter isThere rfl
    exact Nat.lt_irrefl _ (isLatter _ isThere)
  refine ⟨before.filter fun name => 1 < (tools.map Tool.name).count name,
    after.filter fun name => 1 < (tools.map Tool.name).count name, ?_, ?_, ?_, ?_⟩
  · rw [repeatedNames_eq_filter, split, List.filter_append, List.filter_cons_of_neg]
    simp [once]
  · rw [repeatedNames_eq_filter, sameNames, split, List.filter_append, unchanged notFormer,
      List.filter_cons_of_pos, unchanged notLatter]
    simp [once]
  · exact fun former isThere => isFormer former (List.mem_of_mem_filter isThere)
  · exact fun latter isThere => isLatter latter (List.mem_of_mem_filter isThere)

end Append

/-- The repeated names are those that at least two tools have, each once and in the order of the
tools that have them first; there are none exactly if no two tools have the same name. A table of
how often each name occurs leads to the same, in whatever order it lists the names. A tool that is
added changes nothing unless its name occurs exactly once so far: then the name joins the others
where it belongs according to its first place. -/
theorem repeatedNames_at_first_places (tools : List Tool) :
    ReportsRepeated tools (repeatedNames tools) ∧
      (∀ counts : Entries Nat, counts.Perm (tally tools) →
        repeatedBy counts tools = repeatedNames tools) ∧
      ∀ tool : Tool,
        ((tools.map Tool.name).count tool.name ≠ 1 →
          repeatedNames (tools ++ [tool]) = repeatedNames tools) ∧
        ((tools.map Tool.name).count tool.name = 1 →
          ∃ before after, repeatedNames tools = before ++ after ∧
            repeatedNames (tools ++ [tool]) = before ++ tool.name :: after ∧
            (∀ former ∈ before, firstPlace tools former < firstPlace tools tool.name) ∧
            ∀ latter ∈ after, firstPlace tools tool.name < firstPlace tools latter) := by
  refine ⟨reportsRepeated_repeatedNames tools, ?_, ?_⟩
  · intro counts rearranged
    exact repeatedBy_eq_repeatedNames rearranged
  · intro tool
    exact ⟨repeatedNames_append_of_count_ne_one, repeatedNames_append_of_count_eq_one⟩

/-- Names that are repeated in another order than they first come in, and a name that a further tool
puts between them. -/
theorem repeatedNames_at_first_places_interleaved :
    let tool (name : String) : Tool :=
      { name, displayName := name, url := "", description := "", method := .get, headers := none
        input := .empty, tags := [] }
    let tools := ["list", "get", "add", "add", "list"].map tool
    repeatedNames tools = ["list", "add"] ∧
      repeatedBy [("add", 2), ("get", 1), ("list", 2)] tools = ["list", "add"] ∧
      repeatedNames (tools ++ [tool "drop"]) = ["list", "add"] ∧
      ∃ before after, repeatedNames tools = before ++ after ∧
        repeatedNames (tools ++ [tool "get"]) = before ++ "get" :: after := by
  intro tool tools
  obtain ⟨-, counted, appended⟩ := repeatedNames_at_first_places tools
  have names : repeatedNames tools = ["list", "add"] := by decide
  obtain ⟨before, after, split, joined, -⟩ := (appended (tool "get")).2 (by decide)
  refine ⟨names, ?_, ?_, before, after, split, joined⟩
  · rw [counted _ (by decide), names]
  · rw [(appended (tool "drop")).1 (by decide), names]

end OpenApiTools.Tool
