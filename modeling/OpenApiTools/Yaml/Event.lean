import OpenApiTools.Yaml.Token

/-!
# Events of a document

The tokens of a text, read as the events of its one document: scalars, aliases, and the starts and
ends of collections. What is still to come is kept as a stack of goals, and missing nodes become
empty scalars.
-/

namespace OpenApiTools.Yaml

/-- The anchor and the tag of a node. -/
structure Properties where
  anchor : Option String
  tag : Option Tag
  deriving Repr

/-- An event of a document. -/
inductive Event
  | alias (name : String)
  | scalar (properties : Properties) (text : String) (plain : Bool)
  | sequenceStart (properties : Properties)
  | sequenceEnd
  | mappingStart (properties : Properties)
  | mappingEnd
  deriving Repr

namespace Event

/-- An empty scalar, where a node has been left out. -/
def empty (properties : Properties) : Event :=
  .scalar properties "" true

/-- What is still to be read. -/
inductive Goal
  /-- A node; `inBlock` if it may be a block collection, `indentless` if it may be a sequence that
  is not indented. -/
  | node (inBlock indentless : Bool)
  | blockSequence
  | indentlessSequence
  | blockMappingKey
  | blockMappingValue
  | flowSequence (first : Bool)
  /-- The key of a mapping of one pair inside a flow sequence. -/
  | pairKey
  | pairValue
  | pairEnd
  | flowMappingKey (first : Bool)
  | flowMappingValue
  /-- The value of a key that has no question mark and no colon. -/
  | absentValue

/-- The handles that may be used in tags, and what they stand for. -/
abbrev TagHandles := List (List Char × List UInt8)

/-- The handles that need no directive. -/
def standardHandles : TagHandles :=
  [(['!'], octets ['!']), (['!', '!'], octets Tag.coreStart.toList)]

/-- The full form of a tag; none if its handle is unknown. -/
def fullTag? (handles : TagHandles) (handle : List Char) (suffix : List UInt8) : Option Tag :=
  if handle.isEmpty then some (.join [] suffix) else (handles.lookup handle).map (.join · suffix)

/-- Reads an anchor and a tag, in either order. -/
def readProperties? (handles : TagHandles) : List Token → Option (Properties × List Token)
  | .anchor name :: .tag handle suffix :: rest => do
    some (⟨some name, some (← fullTag? handles handle suffix)⟩, rest)
  | .tag handle suffix :: .anchor name :: rest => do
    some (⟨some name, some (← fullTag? handles handle suffix)⟩, rest)
  | .anchor name :: rest => some (⟨some name, none⟩, rest)
  | .tag handle suffix :: rest => do
    some (⟨none, some (← fullTag? handles handle suffix)⟩, rest)
  | tokens => some (⟨none, none⟩, tokens)

/-- What one goal yields: an event unless the goal is given up for others, the goals that take its
place, and the tokens that are left. -/
structure Outcome where
  event : Option Event
  goals : List Goal
  rest : List Token

/-- Reads the start of a node without alias. -/
def readContent? (properties : Properties) (inBlock indentless : Bool) (tokens : List Token) :
    Option Outcome :=
  match tokens with
  | .blockEntry :: _ =>
    if indentless then some ⟨some (.sequenceStart properties), [.indentlessSequence], tokens⟩
    else absent
  | .scalar text plain :: rest => some ⟨some (.scalar properties text plain), [], rest⟩
  | .flowSequenceStart :: rest =>
    some ⟨some (.sequenceStart properties), [.flowSequence true], rest⟩
  | .flowMappingStart :: rest =>
    some ⟨some (.mappingStart properties), [.flowMappingKey true], rest⟩
  | .blockSequenceStart :: rest =>
    if inBlock then some ⟨some (.sequenceStart properties), [.blockSequence], rest⟩ else absent
  | .blockMappingStart :: rest =>
    if inBlock then some ⟨some (.mappingStart properties), [.blockMappingKey], rest⟩ else absent
  | _ => absent
where
  /-- A node may be left out after an anchor or a tag. -/
  absent : Option Outcome :=
    if properties.anchor.isSome || properties.tag.isSome then
      some ⟨some (.empty properties), [], tokens⟩
    else
      none

/-- Reads the start of a node. -/
def readNode? (handles : TagHandles) (inBlock indentless : Bool) (tokens : List Token) :
    Option Outcome :=
  match tokens with
  | .alias name :: rest => some ⟨some (.alias name), [], rest⟩
  | _ => do
    let (properties, rest) ← readProperties? handles tokens
    readContent? properties inBlock indentless rest

/-- Whether a block mapping goes on where a node could start. -/
def endsMappingNode : Token → Bool
  | .key | .value | .blockEnd => true
  | _ => false

/-- A missing node, followed by a goal. -/
def omitted (next : Goal) (tokens : List Token) : Outcome :=
  ⟨some (.empty ⟨none, none⟩), [next], tokens⟩

/-- A node unless the next token passes the test, and then a goal. -/
def nodeUnless (isAbsent : Token → Bool) (node next : Goal) (tokens : List Token) : Outcome :=
  match tokens with
  | token :: _ => if isAbsent token then omitted next tokens else ⟨none, [node, next], tokens⟩
  | [] => ⟨none, [node, next], tokens⟩

/-- Reads an item of a flow sequence, or its end. -/
def readFlowItem? (tokens : List Token) : Option Outcome :=
  match tokens with
  | .flowSequenceEnd :: rest => some ⟨some .sequenceEnd, [], rest⟩
  | .key :: rest => some ⟨some (.mappingStart ⟨none, none⟩), [.pairKey, .flowSequence false], rest⟩
  | _ => some ⟨none, [.node false false, .flowSequence false], tokens⟩

/-- Reads a key of a flow mapping, or the end of the mapping. -/
def readFlowKey? (tokens : List Token) : Option Outcome :=
  match tokens with
  | .flowMappingEnd :: rest => some ⟨some .mappingEnd, [], rest⟩
  | .key :: rest =>
    some (nodeUnless (· ∈ [.value, .flowEntry, .flowMappingEnd]) (.node false false)
      .flowMappingValue rest)
  | _ => some ⟨none, [.node false false, .absentValue], tokens⟩

/-- Reads what a goal asks for. -/
def readGoal? (handles : TagHandles) (goal : Goal) (tokens : List Token) : Option Outcome :=
  match goal, tokens with
  | .node inBlock indentless, _ => readNode? handles inBlock indentless tokens
  | .blockSequence, .blockEntry :: rest =>
    some (nodeUnless (· ∈ [.blockEntry, .blockEnd]) (.node true false) .blockSequence rest)
  | .blockSequence, .blockEnd :: rest => some ⟨some .sequenceEnd, [], rest⟩
  | .indentlessSequence, .blockEntry :: rest =>
    some (nodeUnless (· ∈ [.blockEntry, .key, .value, .blockEnd]) (.node true false)
      .indentlessSequence rest)
  | .indentlessSequence, _ => some ⟨some .sequenceEnd, [], tokens⟩
  | .blockMappingKey, .key :: rest =>
    some (nodeUnless endsMappingNode (.node true true) .blockMappingValue rest)
  | .blockMappingKey, .blockEnd :: rest => some ⟨some .mappingEnd, [], rest⟩
  | .blockMappingValue, .value :: rest =>
    some (nodeUnless endsMappingNode (.node true true) .blockMappingKey rest)
  | .blockMappingValue, _ => some (omitted .blockMappingKey tokens)
  | .flowSequence true, _ => readFlowItem? tokens
  | .flowSequence false, .flowSequenceEnd :: rest => some ⟨some .sequenceEnd, [], rest⟩
  | .flowSequence false, .flowEntry :: rest => readFlowItem? rest
  | .pairKey, token :: rest =>
    if token ∈ [.value, .flowEntry, .flowSequenceEnd] then some (omitted .pairValue rest)
    else some ⟨none, [.node false false, .pairValue], tokens⟩
  | .pairValue, .value :: rest =>
    some (nodeUnless (· ∈ [.flowEntry, .flowSequenceEnd]) (.node false false) .pairEnd rest)
  | .pairValue, _ => some (omitted .pairEnd tokens)
  | .pairEnd, _ => some ⟨some .mappingEnd, [], tokens⟩
  | .flowMappingKey true, _ => readFlowKey? tokens
  | .flowMappingKey false, .flowMappingEnd :: rest => some ⟨some .mappingEnd, [], rest⟩
  | .flowMappingKey false, .flowEntry :: rest => readFlowKey? rest
  | .flowMappingValue, .value :: rest =>
    some (nodeUnless (· ∈ [.flowEntry, .flowMappingEnd]) (.node false false)
      (.flowMappingKey false) rest)
  | .flowMappingValue, _ => some (omitted (.flowMappingKey false) tokens)
  | .absentValue, _ => some (omitted (.flowMappingKey false) tokens)
  | _, _ => none

/-- Reads events until no goal is left; those read so far are in reverse. -/
def readGoals? (handles : TagHandles) :
    Nat → List Event → List Goal → List Token → Option (List Event × List Token)
  | _, events, [], tokens => some (events.reverse, tokens)
  | 0, _, _, _ => none
  | rounds + 1, events, goal :: goals, tokens =>
    match readGoal? handles goal tokens with
    | none => none
    | some outcome =>
      readGoals? handles rounds (outcome.event.toList ++ events) (outcome.goals ++ goals)
        outcome.rest

/-- A bound on the goals that tokens can give rise to. -/
def goalBound (tokens : List Token) : Nat := 8 * tokens.length + 8

/-- The directives before a document. -/
structure Directives where
  hasVersion : Bool
  handles : TagHandles

/-- Reads the directives before a document. There is at most one version, a supported one, and at
most one meaning for each handle. -/
def readDirectives? (directives : Directives) : List Token → Option (Directives × List Token)
  | .versionDirective major minor :: rest =>
    if directives.hasVersion || major != 1 || !(minor == 1 || minor == 2) then none
    else readDirectives? { directives with hasVersion := true } rest
  | .tagDirective handle start :: rest =>
    if (directives.handles.lookup handle).isSome then none
    else readDirectives? { directives with handles := directives.handles ++ [(handle, start)] } rest
  | tokens => some (directives, tokens)

/-- Reads the document that follows its start marker, where the content may be left out. -/
def readExplicit? (handles : TagHandles) (tokens : List Token) :
    Option (List Event × List Token) :=
  match tokens with
  | .versionDirective .. :: _ | .tagDirective .. :: _ | .documentStart :: _ | .documentEnd :: _
  | .streamEnd :: _ => some ([.empty ⟨none, none⟩], tokens)
  | _ => readGoals? handles (goalBound tokens) [] [.node true false] tokens

/-- Whether nothing but document ends and the end of the text are left. -/
def isFinished (tokens : List Token) : Bool :=
  tokens.dropWhile (· == .documentEnd) == [.streamEnd]

/-- The events of the one document of a text; no events if the text is empty. -/
def ofTokens? (tokens : List Token) : Option (List Event) := do
  let (events, rest) ←
    match tokens with
    | [.streamEnd] => some ([], tokens)
    | .versionDirective .. :: _ | .tagDirective .. :: _ | .documentStart :: _ => do
      let (directives, afterDirectives) ← readDirectives? ⟨false, []⟩ tokens
      match afterDirectives with
      | .documentStart :: content => readExplicit? (directives.handles ++ standardHandles) content
      | _ => none
    | _ => readGoals? standardHandles (goalBound tokens) [] [.node true false] tokens
  if isFinished rest then some events else none

end Event

end OpenApiTools.Yaml
