import Mathlib.Data.List.Forall2
import OpenApiTools.Proofs.Import
import OpenApiTools.Proofs.Placeholder
import OpenApiTools.Proofs.Slash

/-!
# Addresses of tools

A base address has no slash at its end, and the address of a tool joins it with the path by exactly
one, whatever slashes the server and the path were written with. The join neither makes nor breaks a
placeholder.
-/

namespace OpenApiTools

/-- Slashes at the end of the base address do not matter to the tools. -/
theorem Document.tools_append_slashes (document : Document) (context : ToolContext) (count : Nat) :
    document.tools { context with baseUrl := context.baseUrl ++ slashes count } =
      document.tools context := by
  have same (operation : Operation) :
      operation.tool { context with baseUrl := context.baseUrl ++ slashes count } =
        operation.tool context := by
    rw [Operation.tool, Operation.tool, Tool.ofOperation, Tool.ofOperation, joinUrl, joinUrl,
      trimTrailingSlashes_append_slashes]
  rw [tools_eq, tools_eq, funext same]

namespace Toolset

/-- In every import the base address is that of the first server without the slashes at its end,
each tool's address joins it with the path of its operation by a single slash, and the placeholders
of the address are those of the two parts. More slashes at the end of the base address would make
the same tools. -/
theorem urls_join {options : Options} {document : Document} {toolset : Toolset}
    (imported : ofDocument options document = .ok toolset) :
    toolset.baseUrl.toList.getLast? ≠ some '/' ∧
      (∃ count, document.DeclaresUrl (toolset.baseUrl ++ slashes count)) ∧
      List.Forall₂
        (fun operation tool =>
          ∃ count rest, operation.path = slashes count ++ rest ∧ rest.toList.head? ≠ some '/' ∧
            tool.url = toolset.baseUrl ++ "/" ++ rest ∧
            Placeholder.names tool.url =
              Placeholder.names toolset.baseUrl ++ Placeholder.names operation.path)
        document.operations toolset.tools ∧
      ∀ count, document.tools
        { toolset.context options with baseUrl := toolset.baseUrl ++ slashes count } =
          .ok toolset.tools := by
  obtain ⟨base, made⟩ := parts_of_ofDocument imported
  obtain ⟨address, declared, trimmed⟩ := Document.exists_declaresUrl_of_baseUrl base
  refine ⟨?_, ?_, ?_, fun count => ?_⟩
  · rw [trimmed]
    exact getLast?_trimTrailingSlashes_ne address
  · obtain ⟨count, parts⟩ := exists_eq_trimTrailingSlashes_append address
    refine ⟨count, ?_⟩
    rwa [trimmed, ← parts]
  · rw [Document.eq_of_tools_eq_ok made, List.forall₂_map_right_iff, List.forall₂_same]
    intro operation _
    have url : (operation.tool (toolset.context options)).url =
        joinUrl toolset.baseUrl operation.path := rfl
    have untrimmed : trimTrailingSlashes toolset.baseUrl = toolset.baseUrl := by
      rw [trimmed, trimTrailingSlashes_trimTrailingSlashes]
    obtain ⟨count, parts, first⟩ := exists_eq_slashes_append operation.path
    refine ⟨count, trimLeadingSlashes operation.path, parts, first, ?_, ?_⟩
    · rw [url, joinUrl, untrimmed]
    · rw [url, Placeholder.names_joinUrl]
  · rw [← made]
    exact document.tools_append_slashes (toolset.context options) count

/-- A server and a path with slashes on both sides of the join and with braces that do not match:
the address keeps the placeholders of both and closes none of the open braces. -/
theorem urls_join_braces :
    let path : String := "//\x7bid\x7d\x7d/\x7bx\x7by\x7d/"
    let document : Document :=
      ⟨[("openapi", .string "3.0.0"),
        ("servers", .array [.object
          [("url", .string "https://api.example.com/\x7bregion\x7d/\x7bopen//")]]),
        ("paths", .object [(path, .object [("get", .null)])])]⟩
    ∃ toolset tool count, ofDocument .default document = .ok toolset ∧ toolset.tools = [tool] ∧
      document.DeclaresUrl (toolset.baseUrl ++ slashes count) ∧
      Placeholder.names tool.url = ["region", "id", "y"] ∧
      document.tools { toolset.context .default with baseUrl := toolset.baseUrl ++ slashes 3 } =
        .ok [tool] := by
  intro path document
  obtain ⟨toolset, imported⟩ : ∃ toolset, ofDocument .default document = .ok toolset := ⟨_, rfl⟩
  obtain ⟨-, ⟨count, declared⟩, addresses, more⟩ := urls_join imported
  have operations : document.operations = [⟨path, .get, .null⟩] := rfl
  have base : document.baseUrl = .ok "https://api.example.com/\x7bregion\x7d/\x7bopen" := by
    decide +kernel
  have isBase := Except.ok.inj (base.symm.trans (parts_of_ofDocument imported).1)
  rw [operations, List.forall₂_cons_left_iff] at addresses
  obtain ⟨tool, others, ⟨_, _, -, -, -, placeholders⟩, nothing, tools⟩ := addresses
  rw [List.forall₂_nil_left_iff.mp nothing] at tools
  refine ⟨toolset, tool, count, imported, tools, declared, ?_, ?_⟩
  · rw [placeholders, ← isBase]
    decide +kernel
  · rw [← tools]
    exact more 3

end Toolset

end OpenApiTools
