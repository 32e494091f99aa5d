import OpenApiTools.Proofs.Argument
import OpenApiTools.Proofs.Import
import OpenApiTools.Proofs.Placeholder

/-!
# Placeholders of addresses as arguments

Every placeholder of a tool's address is an argument of the tool. It is required as well, whether it
is declared for the path, for a place that is no input, or not at all. The only placeholder that may
be left out is one whose name an optional parameter of the query bears: the parameter takes the
placeholder's place among the arguments and is required no more than it says.
-/

namespace OpenApiTools

namespace Parameter

/-- An argument is not required exactly if it is a parameter of the query that is not marked. -/
theorem isRequired_eq_false_iff {parameter : Parameter}
    (input : parameter.location.isToolInput = true) :
    parameter.isRequired = false ↔ parameter.location = .query ∧ parameter.required = false := by
  rw [isRequired, Bool.or_eq_false_iff, beq_eq_false_iff_ne]
  cases location : parameter.location <;> simp_all [ParameterLocation.isToolInput]

end Parameter

namespace Operation

variable (operation : Operation)

/-- An operation leaves an argument optional although it declares it: all of its parameters of that
name are parameters of the query that are not marked as required, there is at least one of them, and
the body does not require the name. -/
def LeavesOptional (name : String) : Prop :=
  (∃ parameter ∈ operation.arguments, parameter.name = name) ∧
    (∀ parameter ∈ operation.arguments, parameter.name = name →
      parameter.location = .query ∧ parameter.required = false) ∧
    ∀ body ∈ operation.body?, name ∉ body.requiredNames

variable {operation}

/-- Every placeholder of the path is the name of a property. -/
theorem mem_names_of_placeholder {name : String} (context : ToolContext)
    (placeholder : name ∈ Placeholder.names operation.path) :
    name ∈ (operation.tool context).input.names := by
  rw [tool, Tool.ofOperation, InputSchema.names_ofOperation]
  simp [placeholder]

/-- A name is required if a required parameter bears it, if it is a placeholder and no parameter
bears it, or if the body requires it. -/
theorem mem_required_iff {name : String} (context : ToolContext) :
    name ∈ (operation.tool context).input.required ↔
      (∃ parameter ∈ operation.arguments, parameter.isRequired = true ∧ parameter.name = name) ∨
        (name ∈ Placeholder.names operation.path ∧
          ∀ parameter ∈ operation.arguments, parameter.name ≠ name) ∨
        ∃ body ∈ operation.body?, name ∈ body.requiredNames := by
  rw [tool, Tool.ofOperation, InputSchema.required_ofOperation]
  simp [arguments, body?, and_assoc]

/-- A placeholder of the path is required unless the operation leaves it optional. -/
theorem mem_required_iff_not_leavesOptional {name : String} (context : ToolContext)
    (placeholder : name ∈ Placeholder.names operation.path) :
    name ∈ (operation.tool context).input.required ↔ ¬ operation.LeavesOptional name := by
  rw [mem_required_iff]
  constructor
  · rintro required ⟨⟨parameter, isArgument, named⟩, optional, notInBody⟩
    rcases required with ⟨other, inArguments, isRequired, otherNamed⟩ | ⟨-, undeclared⟩ | inBody
    · have input := (List.mem_filter.mp inArguments).2
      have unmarked := (Parameter.isRequired_eq_false_iff input).mpr
        (optional other inArguments otherNamed)
      exact Bool.false_ne_true (unmarked.symm.trans isRequired)
    · exact undeclared parameter isArgument named
    · obtain ⟨body, isBody, inBody⟩ := inBody
      exact notInBody body isBody inBody
  · intro notOptional
    by_cases marked : ∃ parameter ∈ operation.arguments,
        parameter.isRequired = true ∧ parameter.name = name
    · exact .inl marked
    by_cases inBody : ∃ body ∈ operation.body?, name ∈ body.requiredNames
    · exact .inr (.inr inBody)
    -- Nothing else requires the name, so that a parameter that bears it would leave it optional.
    refine .inr (.inl ⟨placeholder, fun parameter isArgument named => notOptional ⟨?_, ?_, ?_⟩⟩)
    · exact ⟨parameter, isArgument, named⟩
    · intro other inArguments otherNamed
      have input := (List.mem_filter.mp inArguments).2
      have unmarked : other.isRequired = false := Bool.eq_false_iff.mpr fun isRequired =>
        marked ⟨other, inArguments, isRequired, otherNamed⟩
      exact (Parameter.isRequired_eq_false_iff input).mp unmarked
    · exact fun body isBody required => inBody ⟨body, isBody, required⟩

end Operation

namespace Toolset

/-- If the address of the first server holds no placeholder, then every placeholder of a tool's
address is an argument of the tool, and it is a required one unless the operation that the tool is
made from leaves it optional. -/
theorem url_placeholders_required {options : Options} {document : Document} {toolset : Toolset}
    (imported : ofDocument options document = .ok toolset)
    (plain : ∀ address, document.DeclaresUrl address → Placeholder.names address = [])
    {tool : Tool} (emitted : tool ∈ toolset.tools) :
    ∃ operation ∈ document.operations, tool = operation.tool (toolset.context options) ∧
      ∀ name ∈ Placeholder.names tool.url,
        name ∈ tool.input.names ∧
          (name ∈ tool.input.required ↔ ¬ operation.LeavesOptional name) := by
  obtain ⟨base, made⟩ := parts_of_ofDocument imported
  rw [Document.eq_of_tools_eq_ok made] at emitted
  obtain ⟨operation, isOperation, rfl⟩ := List.mem_map.mp emitted
  refine ⟨operation, isOperation, rfl, fun name inUrl => ?_⟩
  have placeholder : name ∈ Placeholder.names operation.path := by
    have url : (operation.tool (toolset.context options)).url =
        joinUrl toolset.baseUrl operation.path := rfl
    have noPlaceholder : Placeholder.names toolset.baseUrl = [] := by
      obtain ⟨address, declared, trimmed⟩ := Document.exists_declaresUrl_of_baseUrl base
      rw [trimmed, Placeholder.names_trimTrailingSlashes, plain address declared]
    rwa [url, Placeholder.names_joinUrl, noPlaceholder, List.nil_append] at inUrl
  exact ⟨operation.mem_names_of_placeholder _ placeholder,
    operation.mem_required_iff_not_leavesOptional _ placeholder⟩

/-- A document with one operation, whose path has two placeholders. A parameter of the query that is
not marked as required bears the name of the first, and a header bears that of the second. -/
def shadowed : Document where
  fields :=
    [("openapi", .string "3.0.0"),
     ("servers", .array [.object [("url", .string "https://api.example.com/")]]),
     ("paths", .object
       [("/users/{user}/items/{item}", .object
         [("get", .object
           [("parameters", .array
             [.object [("name", .string "user"), ("in", .string "query")],
              .object [("name", .string "item"), ("in", .string "header")]])])])])]

/-- The address of its server holds no placeholder. -/
theorem shadowed_plain (address : String) (declared : shadowed.DeclaresUrl address) :
    Placeholder.names address = [] := by
  obtain ⟨server, others, servers, url⟩ := declared
  simp only [shadowed, Entries.get?, String.reduceEq, if_false, if_true, Option.some.injEq,
    Json.array.injEq, List.cons.injEq, Json.object.injEq] at servers
  obtain ⟨rfl, -⟩ := servers
  simp only [Entries.get?, if_true, Option.some.injEq, Json.string.injEq] at url
  subst url
  decide +kernel

/-- Its tool requires the second placeholder only. -/
theorem exists_shadowed_tool :
    ∃ toolset tool, ofDocument .default shadowed = .ok toolset ∧ tool ∈ toolset.tools ∧
      Placeholder.names tool.url = ["user", "item"] ∧ tool.input.required = ["item"] := by
  refine ⟨_, _, rfl, List.mem_cons_self, ?_, ?_⟩
  · decide +kernel
  · decide +kernel

/-- The one tool of the document has both placeholders as arguments, and only the first of them is
left optional. -/
theorem url_placeholders_required_shadowed :
    ∃ toolset tool, ofDocument .default shadowed = .ok toolset ∧
      (∀ address, shadowed.DeclaresUrl address → Placeholder.names address = []) ∧
      tool ∈ toolset.tools ∧ Placeholder.names tool.url = ["user", "item"] ∧
      ∃ operation ∈ shadowed.operations, tool = operation.tool (toolset.context .default) ∧
        "user" ∈ tool.input.names ∧ operation.LeavesOptional "user" ∧
        "item" ∈ tool.input.names ∧ ¬ operation.LeavesOptional "item" := by
  obtain ⟨toolset, tool, imported, emitted, placeholders, required⟩ := exists_shadowed_tool
  obtain ⟨operation, isOperation, made, arguments⟩ :=
    url_placeholders_required imported shadowed_plain emitted
  rw [placeholders] at arguments
  obtain ⟨userArgument, userRequired⟩ := arguments "user" (by decide)
  obtain ⟨itemArgument, itemRequired⟩ := arguments "item" (by decide)
  rw [required] at userRequired itemRequired
  have userOptional : operation.LeavesOptional "user" :=
    Classical.not_not.mp (mt userRequired.mpr (by decide))
  have itemNotOptional : ¬ operation.LeavesOptional "item" := itemRequired.mp (by decide)
  exact ⟨toolset, tool, imported, shadowed_plain, emitted, placeholders, operation, isOperation,
    made, userArgument, userOptional, itemArgument, itemNotOptional⟩

/-- Not every placeholder of a tool's address is required, even if the address of the first server
holds none. -/
theorem url_placeholder_not_required :
    ¬ ∀ (options : Options) (document : Document) (toolset : Toolset),
      ofDocument options document = .ok toolset →
      (∀ address, document.DeclaresUrl address → Placeholder.names address = []) →
      ∀ tool ∈ toolset.tools, ∀ name ∈ Placeholder.names tool.url,
        name ∈ tool.input.names ∧ name ∈ tool.input.required := by
  intro always
  obtain ⟨toolset, tool, imported, emitted, placeholders, required⟩ := exists_shadowed_tool
  have userRequired := (always .default shadowed toolset imported shadowed_plain tool emitted "user"
    (by rw [placeholders]; decide)).2
  rw [required] at userRequired
  exact absurd userRequired (by decide)

end Toolset

end OpenApiTools
