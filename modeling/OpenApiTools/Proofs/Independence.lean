import Mathlib.Data.List.Perm.Basic
import OpenApiTools.Proofs.Entries
import OpenApiTools.Proofs.Place

/-!
# Operations one by one

An operation becomes a tool without regard to anything else in its document. What it is read for are
six of its keys, beside its path and its method. So a place has the same tool in all documents that
declare it alike, and the tools of a document fall into blocks, one to each path, that move with
their paths.
-/

namespace OpenApiTools

namespace Operation

/-- The keys that an operation is read for. -/
def keys : List String :=
  ["operationId", "summary", "description", "parameters", "requestBody", "tags"]

/-- Two operations under the same path and method, in which the same is found under all keys that
they are read for. -/
structure Agree (left right : Operation) : Prop where
  path : left.path = right.path
  method : left.method = right.method
  found : ∀ key ∈ keys, left.declaration.get? key = right.declaration.get? key

/-- Operations that agree have the same tool. -/
theorem tool_eq_of_agree {left right : Operation} (agree : left.Agree right)
    (context : ToolContext) : left.tool context = right.tool context := by
  obtain ⟨path, method, declaration⟩ := left
  obtain ⟨_, _, other⟩ := right
  obtain ⟨rfl, rfl, found⟩ := agree
  have identifier := found "operationId" (by decide)
  have summary := found "summary" (by decide)
  have description := found "description" (by decide)
  have parameters := found "parameters" (by decide)
  have body := found "requestBody" (by decide)
  have tags := found "tags" (by decide)
  simp only at identifier summary description parameters body tags
  simp only [tool, Tool.ofOperation, Tool.descriptionOf, Tool.tagsOf, Tool.nonEmptyString?,
    Json.getString?, identifier, summary, description, parameters, body, tags]

end Operation

/-- Two path items that declare the same operations. An object keeps its operations however its
fields are ordered, and whatever fields it has under other keys. -/
inductive SameOperations : Json → Json → Prop
  | object {left right : Fields} (distinct : (Entries.keys left).Nodup)
      (rearranged : (left.filter fun field => field.1 ∈ Method.all.map Method.key).Perm
        (right.filter fun field => field.1 ∈ Method.all.map Method.key)) :
      SameOperations (.object left) (.object right)
  | same (item : Json) : SameOperations item item

namespace SameOperations

variable {left right : Json}

/-- The same is found under the key of a method. -/
theorem get?_eq (same : SameOperations left right) (method : Method) :
    left.get? method.key = right.get? method.key := by
  cases same with
  | same => rfl
  | object distinct rearranged =>
    have isMethod : method.key ∈ Method.all.map Method.key := List.mem_map_of_mem method.mem_all
    exact Entries.get?_eq_of_filter_perm distinct isMethod rearranged

/-- Path items with the same operations have the same tools. -/
theorem ofPathItem_eq (same : SameOperations left right) (context : ToolContext) (path : String) :
    Tool.ofPathItem context path left = Tool.ofPathItem context path right := by
  unfold Tool.ofPathItem
  congr
  funext method
  rw [same.get?_eq]

end SameOperations

namespace Place

variable {paths : Fields} {place : Place}

/-- A place holds one operation. -/
theorem Holds.unique {left right : Operation} (isLeft : place.Holds paths left)
    (isRight : place.Holds paths right) : left = right := by
  obtain ⟨leftMethod, leftFields, leftEntry, leftFound⟩ := isLeft
  obtain ⟨rightMethod, rightFields, rightEntry, rightFound⟩ := isRight
  rw [leftEntry] at rightEntry
  obtain ⟨path, item⟩ := Prod.mk.inj (Option.some.inj rightEntry)
  obtain rfl := Json.object.inj item
  have declaration := Option.some.inj (leftFound.symm.trans rightFound)
  cases left
  cases right
  simp_all

end Place

/-- The tools of a path with its path item. -/
def Tool.ofEntry (context : ToolContext) (entry : String × Json) : List Tool :=
  ofPathItem context entry.1 entry.2

/-- A document has a tool at a place: the places that hold an operation are taken in order, and the
tool is at the position of this one. -/
def Document.EmitsAt (document : Document) (context : ToolContext) (place : Place) (tool : Tool) :
    Prop :=
  ∃ (paths : Fields) (tools : List Tool) (index : Nat),
    document.paths? = some paths ∧ document.tools context = .ok tools ∧
      ((Place.listing paths).map Prod.fst)[index]? = some place ∧ tools[index]? = some tool

namespace Document

variable {document : Document} {paths : Fields} {context : ToolContext}

/-- The tool at a place is that of the operation that the place holds. -/
theorem emitsAt_iff (declared : document.paths? = some paths) {place : Place} {tool : Tool} :
    document.EmitsAt context place tool ↔
      ∃ operation, place.Holds paths operation ∧ tool = operation.tool context := by
  have listed : document.operations = (Place.listing paths).map Prod.snd := by
    rw [operations, declared, Option.getD_some, Place.map_snd_listing]
  constructor
  · rintro ⟨others, tools, index, same, made, atIndex, isTool⟩
    obtain rfl := Option.some.inj (declared.symm.trans same)
    rw [eq_of_tools_eq_ok made, listed, List.getElem?_map, List.getElem?_map] at isTool
    rw [List.getElem?_map] at atIndex
    obtain ⟨⟨_, operation⟩, found, rfl⟩ := Option.map_eq_some_iff.mp atIndex
    rw [found] at isTool
    refine ⟨operation, Place.mem_listing.mp (List.mem_of_getElem? found), ?_⟩
    exact (Option.some.inj isTool).symm
  · rintro ⟨operation, holds, rfl⟩
    obtain ⟨index, found⟩ := List.getElem?_of_mem (Place.mem_listing.mpr holds)
    have nonempty : paths ≠ [] := by
      rintro rfl
      simp [Place.listing] at found
    refine ⟨paths, document.operations.map (Operation.tool context), index, declared, ?_, ?_, ?_⟩
    · rw [tools_eq, declared, Option.getD_some]
      exact if_neg (by simpa using nonempty)
    · rw [List.getElem?_map, found]
      rfl
    · rw [listed, List.getElem?_map, List.getElem?_map, found]
      rfl

/-- A place that holds an operation has its tool and no other. -/
theorem emitsAt_iff_of_holds (declared : document.paths? = some paths) {place : Place}
    {operation : Operation} (holds : place.Holds paths operation) (tool : Tool) :
    document.EmitsAt context place tool ↔ tool = operation.tool context := by
  rw [emitsAt_iff declared]
  constructor
  · rintro ⟨other, alsoHolds, rfl⟩
    rw [holds.unique alsoHolds]
  · exact fun isTool => ⟨operation, holds, isTool⟩

/-- The tools of a document stand block by block, in the order of the paths. -/
theorem tools_eq_blocks (declared : document.paths? = some paths) (nonempty : paths ≠ [])
    (context : ToolContext) :
    document.tools context = .ok (paths.map (Tool.ofEntry context)).flatten := by
  unfold tools
  rw [declared, ← List.flatMap_def]
  cases paths with
  | nil => contradiction
  | cons entry rest => rfl

end Document

/-- Paths that correspond one to one and declare the same operations have the same blocks. -/
theorem Tool.map_ofEntry_eq {leftPaths rightPaths : Fields}
    (corresponding : List.Forall₂
      (fun entry other => entry.1 = other.1 ∧ SameOperations entry.2 other.2) leftPaths rightPaths)
    (context : ToolContext) :
    leftPaths.map (Tool.ofEntry context) = rightPaths.map (Tool.ofEntry context) := by
  induction corresponding with
  | nil => rfl
  | @cons entry other _ _ same _ inductionHypothesis =>
    have block : Tool.ofEntry context entry = Tool.ofEntry context other := by
      rw [Tool.ofEntry, Tool.ofEntry, same.1, same.2.ofPathItem_eq]
    rw [List.map_cons, List.map_cons, block, inductionHypothesis]

/-- Operations become tools one by one in a context. -/
structure ToolContext.Separates (context : ToolContext) : Prop where
  /-- Places of any two documents whose operations agree have the same tool, and only that. -/
  agreeing : ∀ {left right : Document} {leftPaths rightPaths : Fields}
    {leftPlace rightPlace : Place} {leftOperation rightOperation : Operation},
    left.paths? = some leftPaths → right.paths? = some rightPaths →
    leftPlace.Holds leftPaths leftOperation → rightPlace.Holds rightPaths rightOperation →
    leftOperation.Agree rightOperation →
    ∃ tool, (∀ other, left.EmitsAt context leftPlace other ↔ other = tool) ∧
      ∀ other, right.EmitsAt context rightPlace other ↔ other = tool
  /-- Each path has a block of tools, and a document that declares paths has the blocks of all. -/
  blocks : ∀ {document : Document} {paths : Fields},
    document.paths? = some paths → paths ≠ [] →
    document.tools context = .ok (paths.map (Tool.ofEntry context)).flatten
  /-- Paths that are appended append their blocks. -/
  appended : ∀ {shorter longer : Document} {paths added : Fields} {tools : List Tool},
    shorter.paths? = some paths → longer.paths? = some (paths ++ added) →
    shorter.tools context = .ok tools →
    longer.tools context = .ok (tools ++ (added.map (Tool.ofEntry context)).flatten)
  /-- A path that is deleted takes its block with it and nothing else, unless no path is left. -/
  deleted : ∀ {longer shorter : Document} {before after : Fields} {entry : String × Json},
    longer.paths? = some (before ++ entry :: after) →
    shorter.paths? = some (before ++ after) →
    ∃ earlier later, earlier = (before.map (Tool.ofEntry context)).flatten ∧
      later = (after.map (Tool.ofEntry context)).flatten ∧
      longer.tools context = .ok (earlier ++ Tool.ofEntry context entry ++ later) ∧
      (before ++ after ≠ [] → shorter.tools context = .ok (earlier ++ later)) ∧
      (before ++ after = [] → shorter.tools context = .error .noPaths)
  /-- Paths that are permuted permute their blocks. -/
  permuted : ∀ {left right : Document} {leftPaths rightPaths : Fields},
    left.paths? = some leftPaths → right.paths? = some rightPaths →
    leftPaths.Perm rightPaths → leftPaths ≠ [] →
    ∃ leftBlocks rightBlocks, leftBlocks.Perm rightBlocks ∧
      leftBlocks = leftPaths.map (Tool.ofEntry context) ∧
      rightBlocks = rightPaths.map (Tool.ofEntry context) ∧
      left.tools context = .ok leftBlocks.flatten ∧
      right.tools context = .ok rightBlocks.flatten
  /-- The order of the keys of a path item and its keys that are no methods do not matter. -/
  rearranged : ∀ {left right : Document} {leftPaths rightPaths : Fields},
    left.paths? = some leftPaths → right.paths? = some rightPaths →
    List.Forall₂ (fun entry other => entry.1 = other.1 ∧ SameOperations entry.2 other.2)
      leftPaths rightPaths →
    left.tools context = right.tools context

/-- Every context converts the operations of documents one by one. -/
theorem ToolContext.separates (context : ToolContext) : context.Separates where
  agreeing := by
    intro left right leftPaths rightPaths leftPlace rightPlace leftOperation rightOperation
      leftDeclared rightDeclared leftHolds rightHolds agree
    refine ⟨leftOperation.tool context, fun other => ?_, fun other => ?_⟩
    · exact Document.emitsAt_iff_of_holds leftDeclared leftHolds other
    · rw [Operation.tool_eq_of_agree agree]
      exact Document.emitsAt_iff_of_holds rightDeclared rightHolds other
  blocks := fun declared nonempty => Document.tools_eq_blocks declared nonempty context
  appended := by
    intro shorter longer paths added tools shorterDeclared longerDeclared made
    have nonempty : paths ≠ [] := by
      rintro rfl
      simp [Document.tools, shorterDeclared] at made
    rw [Document.tools_eq_blocks shorterDeclared nonempty] at made
    obtain rfl := Except.ok.inj made
    have longerNonempty : paths ++ added ≠ [] := List.append_ne_nil_of_left_ne_nil nonempty added
    rw [Document.tools_eq_blocks longerDeclared longerNonempty, List.map_append,
      List.flatten_append]
  deleted := by
    intro longer shorter before after entry longerDeclared shorterDeclared
    refine ⟨_, _, rfl, rfl, ?_, fun nonempty => ?_, fun empty => ?_⟩
    · rw [Document.tools_eq_blocks longerDeclared (by simp), List.map_append, List.map_cons,
        List.flatten_append, List.flatten_cons, List.append_assoc]
    · rw [Document.tools_eq_blocks shorterDeclared nonempty, List.map_append, List.flatten_append]
    · rw [Document.tools, shorterDeclared, empty]
  permuted := by
    intro left right leftPaths rightPaths leftDeclared rightDeclared permuted nonempty
    have rightNonempty : rightPaths ≠ [] := by
      rintro rfl
      exact nonempty permuted.eq_nil
    exact ⟨_, _, permuted.map (Tool.ofEntry context), rfl, rfl,
      Document.tools_eq_blocks leftDeclared nonempty context,
      Document.tools_eq_blocks rightDeclared rightNonempty context⟩
  rearranged := by
    intro left right leftPaths rightPaths leftDeclared rightDeclared corresponding
    have blocks := Tool.map_ofEntry_eq corresponding context
    cases corresponding with
    | nil => rw [Document.tools, Document.tools, leftDeclared, rightDeclared]
    | cons =>
      rw [Document.tools_eq_blocks leftDeclared (List.cons_ne_nil _ _),
        Document.tools_eq_blocks rightDeclared (List.cons_ne_nil _ _), blocks]

/-- A path that one document declares after another path, and a second document by itself: there the
keys of the operation come in another order and with others among them. The tool is the same. -/
theorem ToolContext.separates_reordered :
    let leftOperation : Json := .object
      [("tags", .array [.string "read"]), ("summary", .string "Users")]
    let rightOperation : Json := .object
      [("summary", .string "Users"), ("deprecated", .bool true), ("tags", .array [.string "read"])]
    let leftPaths : Fields :=
      [("/pets", .object [("post", .null)]), ("/users", .object [("get", leftOperation)])]
    let rightPaths : Fields :=
      [("/users", .object [("summary", .string "All of them"), ("get", rightOperation)])]
    let left : Document := ⟨[("openapi", .string "3.0.0"), ("paths", .object leftPaths)]⟩
    let right : Document := ⟨[("swagger", .string "2.0"), ("paths", .object rightPaths)]⟩
    let context : ToolContext := ⟨"https://api.example.com", .none, none⟩
    left.paths? = some leftPaths ∧ right.paths? = some rightPaths ∧
      ∃ tool, left.EmitsAt context ⟨1, .get⟩ tool ∧ right.EmitsAt context ⟨0, .get⟩ tool := by
  intro leftOperation rightOperation leftPaths rightPaths left right context
  have leftDeclared : left.paths? = some leftPaths := rfl
  have rightDeclared : right.paths? = some rightPaths := rfl
  have leftHolds : Place.Holds leftPaths ⟨1, .get⟩ ⟨"/users", .get, leftOperation⟩ :=
    ⟨rfl, _, rfl, rfl⟩
  have rightHolds : Place.Holds rightPaths ⟨0, .get⟩ ⟨"/users", .get, rightOperation⟩ :=
    ⟨rfl, _, rfl, rfl⟩
  have agree : Operation.Agree ⟨"/users", .get, leftOperation⟩ ⟨"/users", .get, rightOperation⟩ :=
    ⟨rfl, rfl, by simp [Operation.keys, leftOperation, rightOperation, Json.get?, Json.asObject?,
      Entries.get?]⟩
  obtain ⟨tool, isLeft, isRight⟩ :=
    context.separates.agreeing leftDeclared rightDeclared leftHolds rightHolds agree
  exact ⟨leftDeclared, rightDeclared, tool, (isLeft tool).mpr rfl, (isRight tool).mpr rfl⟩

end OpenApiTools
