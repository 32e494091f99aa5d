import OpenApiTools.Proofs.Lookup
import OpenApiTools.Tool

/-!
# Operations of a document

The operations that become tools, with the path and the method under which a document declares each.
They are listed by themselves here, apart from what is made of them, so that statements about tools
can name the operation that a tool comes from. The listing forgets whether a document declares paths
at all; that alone decides whether there are tools.
-/

namespace OpenApiTools

/-- Every method is listed. -/
theorem Method.mem_all (method : Method) : method ∈ Method.all := by
  cases method <;> decide

/-- An operation as a document declares it. -/
structure Operation where
  path : String
  method : Method
  declaration : Json

namespace Operation

/-- The operations of a path item. -/
def ofPathItem (path : String) (item : Json) : List Operation :=
  Method.all.filterMap fun method => (item.get? method.key).map (⟨path, method, ·⟩)

/-- The tool of an operation. -/
def tool (context : ToolContext) (operation : Operation) : Tool :=
  Tool.ofOperation context operation.path operation.method operation.declaration

/-- A path item has an operation for each method whose key it has. -/
theorem mem_ofPathItem {path : String} {item : Json} {operation : Operation} :
    operation ∈ ofPathItem path item ↔
      operation.path = path ∧ item.get? operation.method.key = some operation.declaration := by
  constructor
  · intro listed
    obtain ⟨method, -, found⟩ := List.mem_filterMap.mp listed
    obtain ⟨declaration, declared, rfl⟩ := Option.map_eq_some_iff.mp found
    exact ⟨rfl, declared⟩
  · rintro ⟨rfl, declared⟩
    exact List.mem_filterMap.mpr ⟨operation.method, Method.mem_all _, by rw [declared]; rfl⟩

end Operation

/-- The tools of a path item are those of its operations. -/
theorem Tool.ofPathItem_eq (context : ToolContext) (path : String) (item : Json) :
    Tool.ofPathItem context path item =
      (Operation.ofPathItem path item).map (Operation.tool context) := by
  rw [Tool.ofPathItem, Operation.ofPathItem, List.map_filterMap]
  congr
  funext method
  rw [Option.map_map]
  rfl

namespace Document

/-- The operations of a document: the paths in order, and the methods of a path in order. -/
def operations (document : Document) : List Operation :=
  (document.paths?.getD []).flatMap fun (path, item) => Operation.ofPathItem path item

/-- A document that declares paths has the tools of its operations; any other has none. -/
theorem tools_eq (document : Document) (context : ToolContext) :
    document.tools context =
      if (document.paths?.getD []).isEmpty then .error .noPaths
      else .ok (document.operations.map (Operation.tool context)) := by
  unfold tools operations
  cases document.paths? with
  | none => rfl
  | some paths =>
    cases paths with
    | nil => rfl
    | cons entry rest =>
      simp only [Tool.ofPathItem_eq, List.map_flatMap]
      rfl

/-- Tools that have been made are those of the operations. -/
theorem eq_of_tools_eq_ok {document : Document} {context : ToolContext} {tools : List Tool}
    (made : document.tools context = .ok tools) :
    tools = document.operations.map (Operation.tool context) := by
  rw [tools_eq] at made
  split at made
  · contradiction
  · exact (Except.ok.inj made).symm

end Document

end OpenApiTools
