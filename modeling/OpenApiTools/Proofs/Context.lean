import OpenApiTools.Proofs.Operation
import OpenApiTools.Proofs.ToolName

/-!
# Tools in two contexts

What tools of one document have in common does not mix with what they take from their operations.
The tools of a document are compared here in two contexts: each field depends on one part of the
context or on none, and a namespace changes names alone.
-/

namespace OpenApiTools

/-- The left context has this namespace, and the right one has none. -/
def ToolContext.AddsNamespace (left right : ToolContext) (nameSpace : String) : Prop :=
  nameSpace ≠ "" ∧ left.nameSpace = some nameSpace ∧
    (right.nameSpace = none ∨ right.nameSpace = some "")

namespace Tool

/-- All tools are invoked in the same way. -/
theorem toJson_integrationType (tool : Tool) :
    tool.toJson.get? "integrationType" = some (.string integrationType) := rfl

/-- What is the same in two tools of one operation, and which part of their contexts each of the
other fields depends on. -/
structure AgreeUpTo (left right : ToolContext) (leftTool rightTool : Tool) : Prop where
  description : leftTool.description = rightTool.description
  integrationType :
    leftTool.toJson.get? "integrationType" = rightTool.toJson.get? "integrationType"
  method : leftTool.method = rightTool.method
  input : leftTool.input = rightTool.input
  tags : leftTool.tags = rightTool.tags
  /-- Addresses differ only if the base addresses do, slashes at their end aside. -/
  url : leftTool.url ≠ rightTool.url →
    trimTrailingSlashes left.baseUrl ≠ trimTrailingSlashes right.baseUrl
  /-- Headers come from the security alone. -/
  headers : leftTool.headers = left.security.headers? ∧ rightTool.headers = right.security.headers?
  name : left.nameSpace = right.nameSpace → leftTool.name = rightTool.name
  displayName : left.nameSpace = right.nameSpace → leftTool.displayName = rightTool.displayName

/-- What a namespace does to the tool of an operation. -/
structure InNamespace (nameSpace : String) (operation : Operation) (inside outside : Tool) :
    Prop where
  name : inside.name = nameSpace ++ "_" ++ outside.name
  /-- A summary that is a string is displayed in either case. -/
  displayed : ∀ summary, operation.declaration.getString? "summary" = some summary →
    inside.displayName = outside.displayName
  /-- Without one the name is displayed, with the namespace if it has one. -/
  undisplayed : operation.declaration.getString? "summary" = none →
    inside.displayName = inside.name ∧ outside.displayName = outside.name

end Tool

namespace Operation

variable (operation : Operation) (left right : ToolContext)

/-- The name of an operation where there is no namespace. -/
def plainName : String :=
  ToolName.resolve (Tool.nonEmptyString? operation.declaration "operationId") operation.method.name
    operation.path none

/-- A tool is named after its operation, with the namespace in front. -/
theorem tool_name (context : ToolContext) :
    (operation.tool context).name =
      ToolName.withNamespace operation.plainName context.nameSpace :=
  ToolName.resolve_eq_withNamespace _ _ _ _

/-- A tool displays its summary, or else its name. -/
theorem tool_displayName (context : ToolContext) :
    (operation.tool context).displayName =
      (operation.declaration.getString? "summary").getD (operation.tool context).name := rfl

/-- The tools of one operation in two contexts agree but for what the contexts decide. -/
theorem agreeUpTo_tool :
    Tool.AgreeUpTo left right (operation.tool left) (operation.tool right) where
  description := rfl
  integrationType := by
    rw [Tool.toJson_integrationType, Tool.toJson_integrationType]
  method := rfl
  input := rfl
  tags := rfl
  url := by
    intro different equal
    have leftUrl : (operation.tool left).url =
        trimTrailingSlashes left.baseUrl ++ "/" ++ trimLeadingSlashes operation.path := rfl
    rw [equal] at leftUrl
    exact different leftUrl
  headers := ⟨rfl, rfl⟩
  name := by
    intro same
    rw [tool_name, tool_name, same]
  displayName := by
    intro same
    rw [tool_displayName, tool_displayName, tool_name, tool_name, same]

variable {left right} {nameSpace : String}

/-- Where only one of two contexts has a namespace, it goes in front of the names in the other. -/
theorem tool_name_of_addsNamespace (adds : left.AddsNamespace right nameSpace) :
    (operation.tool left).name = nameSpace ++ "_" ++ (operation.tool right).name := by
  obtain ⟨nonempty, inside, outside⟩ := adds
  have plain : (operation.tool right).name = operation.plainName := by
    rw [tool_name]
    rcases outside with outside | outside <;> rw [outside] <;> simp
  rw [plain, tool_name, inside, ToolName.withNamespace_of_ne_empty nonempty]

/-- A namespace changes the name of a tool, and what is displayed where that is the name. -/
theorem inNamespace_tool (adds : left.AddsNamespace right nameSpace) :
    Tool.InNamespace nameSpace operation (operation.tool left) (operation.tool right) where
  name := operation.tool_name_of_addsNamespace adds
  displayed := by
    intro summary declared
    rw [tool_displayName, tool_displayName, declared]
    rfl
  undisplayed := by
    intro undeclared
    rw [tool_displayName, tool_displayName, undeclared]
    exact ⟨rfl, rfl⟩

end Operation

/-- In any two contexts, either a document has tools in neither, or it has tools for the same
operations in both, which agree but for what the contexts decide. Where one of the contexts adds a
namespace, it adds it to every name and to every repeated name. -/
theorem Document.tools_in_two_contexts (document : Document) (left right : ToolContext) :
    document.tools left = .error .noPaths ∧ document.tools right = .error .noPaths ∨
      ∃ leftTools rightTools : List Tool,
        document.tools left = .ok leftTools ∧ document.tools right = .ok rightTools ∧
        leftTools.length = document.operations.length ∧
        rightTools.length = document.operations.length ∧
        (∀ (index : Nat) operation, document.operations[index]? = some operation →
          ∃ leftTool rightTool,
            leftTools[index]? = some leftTool ∧ rightTools[index]? = some rightTool ∧
            Tool.AgreeUpTo left right leftTool rightTool ∧
            ∀ nameSpace, left.AddsNamespace right nameSpace →
              Tool.InNamespace nameSpace operation leftTool rightTool) ∧
        ∀ nameSpace, left.AddsNamespace right nameSpace →
          Tool.repeatedNames leftTools =
            (Tool.repeatedNames rightTools).map (nameSpace ++ "_" ++ ·) := by
  rw [tools_eq, tools_eq]
  split
  · exact .inl ⟨rfl, rfl⟩
  · refine .inr ⟨_, _, rfl, rfl, List.length_map _, List.length_map _, ?_, ?_⟩
    · intro index operation found
      refine ⟨operation.tool left, operation.tool right, ?_, ?_,
        operation.agreeUpTo_tool left right, fun nameSpace adds => operation.inNamespace_tool adds⟩
      · rw [List.getElem?_map, found, Option.map_some]
      · rw [List.getElem?_map, found, Option.map_some]
    · intro nameSpace adds
      refine Tool.repeatedNames_of_names_eq_map (ToolName.injective_namespace nameSpace) ?_
      rw [List.map_map, List.map_map, List.map_map]
      exact List.map_congr_left fun operation _ => operation.tool_name_of_addsNamespace adds

end OpenApiTools
