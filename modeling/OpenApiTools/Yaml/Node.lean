import OpenApiTools.Yaml.Event

/-!
# The graph of a document

The events of a document as a tree of nodes in which aliases are leaves, and the nodes that aliases
stand for. An anchor gets as its number how many names had been given before it; an alias means the
last node with the number that its name has at that point.
-/

namespace OpenApiTools.Yaml

/-- A node of a document. -/
inductive Node
  | scalar (tag : Option Tag) (text : String) (plain : Bool)
  | sequence (tag : Option Tag) (items : List Node)
  | mapping (tag : Option Tag) (entries : List (Node × Node))
  | alias (number : Nat)

/-- A node that aliases may stand for. -/
structure Anchored where
  number : Nat
  /-- How many anchors come before it in the document. -/
  position : Nat
  node : Node

/-- A document: its root, its anchored nodes, and how many events it consists of. -/
structure Graph where
  root : Node
  anchored : List Anchored
  size : Nat

namespace Graph

/-- The number and position of an anchor. -/
structure Label where
  number : Nat
  position : Nat

/-- A collection whose end has not been read; its contents are in reverse. A mapping may wait for
the value of a key. -/
inductive Frame
  | sequence (label : Option Label) (tag : Option Tag) (items : List Node)
  | mapping (label : Option Label) (tag : Option Tag) (entries : List (Node × Node))
    (key : Option Node)

/-- A document that has been read in part. -/
structure Builder where
  frames : List Frame
  root : Option Node
  /-- The numbers of the names given so far. -/
  names : List (String × Nat)
  /-- How many anchors have been read. -/
  anchors : Nat
  anchored : List Anchored

/-- Gives a node its label, if its properties hold an anchor. -/
def Builder.label (builder : Builder) (properties : Properties) : Option Label × Builder :=
  match properties.anchor with
  | none => (none, builder)
  | some name =>
    let number := builder.names.length
    let others := builder.names.filter (·.1 != name)
    (some ⟨number, builder.anchors⟩,
      { builder with names := (name, number) :: others, anchors := builder.anchors + 1 })

/-- Puts a complete node where it belongs. -/
def Builder.place (builder : Builder) (label : Option Label) (node : Node) : Builder :=
  let anchored := match label with
    | none => builder.anchored
    | some ⟨number, position⟩ => ⟨number, position, node⟩ :: builder.anchored
  match builder.frames with
  | [] => { builder with anchored, root := some node }
  | .sequence outer tag items :: frames =>
    { builder with anchored, frames := .sequence outer tag (node :: items) :: frames }
  | .mapping outer tag entries none :: frames =>
    { builder with anchored, frames := .mapping outer tag entries (some node) :: frames }
  | .mapping outer tag entries (some key) :: frames =>
    { builder with anchored, frames := .mapping outer tag ((key, node) :: entries) none :: frames }

/-- Reads an event. An alias needs an anchor before it. -/
def Builder.step? (builder : Builder) (event : Event) : Option Builder :=
  match event with
  | .alias name =>
    (builder.names.lookup name).map fun number => builder.place none (.alias number)
  | .scalar properties text plain =>
    let (label, builder) := builder.label properties
    some (builder.place label (.scalar properties.tag text plain))
  | .sequenceStart properties =>
    let (label, builder) := builder.label properties
    some { builder with frames := .sequence label properties.tag [] :: builder.frames }
  | .mappingStart properties =>
    let (label, builder) := builder.label properties
    some { builder with frames := .mapping label properties.tag [] none :: builder.frames }
  | .sequenceEnd =>
    match builder.frames with
    | .sequence label tag items :: frames =>
      some ({ builder with frames }.place label (.sequence tag items.reverse))
    | _ => none
  | .mappingEnd =>
    match builder.frames with
    | .mapping label tag entries none :: frames =>
      some ({ builder with frames }.place label (.mapping tag entries.reverse))
    | _ => none

/-- The graph that events describe. A document without events is an empty scalar. -/
def ofEvents? (events : List Event) : Option Graph :=
  match events with
  | [] => some ⟨.scalar none "" true, [], 0⟩
  | _ => do
    let builder ← events.foldlM Builder.step? ⟨[], none, [], 0, []⟩
    some ⟨← builder.root, builder.anchored, events.length⟩

/-- The node that an alias stands for. -/
def target? (graph : Graph) (number : Nat) : Option Node :=
  let later (best : Option Anchored) (next : Anchored) : Option Anchored :=
    if next.number != number then best
    else if best.all (·.position < next.position) then some next
    else best
  (graph.anchored.foldl later none).map Anchored.node

end Graph

end OpenApiTools.Yaml
