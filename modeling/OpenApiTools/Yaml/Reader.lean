import OpenApiTools.Yaml.Node
import OpenApiTools.Yaml.Scalar
import OpenApiTools.Yaml.Scanner

/-!
# Reading YAML values

The JSON value of a YAML text of one document. Aliases are replaced by copies of what they stand
for; collections nest to a bounded depth, and the number of replacements is bounded by the size of
the document, so that every text has a finite reading or none.
-/

namespace OpenApiTools.Yaml

/-- How deep collections may nest. -/
def depthLimit : Nat := 128

/-- How many aliases may be replaced for each event of the document. -/
def replacementsPerEvent : Nat := 100

/-- A computation that may fail and uses up replacements. -/
abbrev Expansion := StateT Nat Option

namespace Graph

/-- Uses up one replacement. -/
def spend : Expansion Unit := fun left =>
  match left with
  | 0 => none
  | left + 1 => some ((), left)

/-- The node itself, or the one that it stands for if it is an alias. -/
def follow (graph : Graph) (node : Node) : Expansion Node :=
  match node with
  | .alias number => do
    spend
    (graph.target? number : Option Node)
  | _ => pure node

/-- The text of a key, which must be a scalar; its tag does not matter. -/
def keyText (graph : Graph) (key : Node) : Expansion String := do
  match ← graph.follow key with
  | .scalar _ text _ => pure text
  | _ => failure

/-- Whether a collection may have a tag, or none. -/
def allowsCollection (tag : Option Tag) : Bool :=
  tag.all Tag.isAdmissible

/-- The value of a node inside at most `depth` more collections. -/
def expand (graph : Graph) : Nat → Node → Expansion Json
  | depth, node => do
    match ← graph.follow node, depth with
    | .scalar tag text plain, _ => (scalarValue? tag text plain : Option Json)
    | .sequence tag items, depth + 1 =>
      if allowsCollection tag then
        return .array (← items.mapM (expand graph depth))
      else
        failure
    | .mapping tag entries, depth + 1 =>
      if allowsCollection tag then
        let fields ← entries.mapM fun (key, value) => do
          return (← graph.keyText key, ← expand graph depth value)
        return .object (Entries.ofList fields)
      else
        failure
    | _, _ => failure

/-- The value of a document. -/
def toJson? (graph : Graph) : Option Json :=
  ((graph.expand depthLimit graph.root).run (replacementsPerEvent * graph.size)).map Prod.fst

end Graph

/-- The value of a YAML text, if it has one. -/
def parse? (text : String) : Option Json := do
  let tokens ← Token.scan? text.toList
  let events ← Event.ofTokens? tokens
  let graph ← Graph.ofEvents? events
  graph.toJson?

end OpenApiTools.Yaml
