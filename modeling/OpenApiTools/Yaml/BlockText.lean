import OpenApiTools.Text.Digit
import OpenApiTools.Yaml.Glyph

/-!
# Literal and folded scalars

The text of a block scalar: lines from a common column on. A literal scalar keeps its line breaks; a
folded one joins neighbouring lines that do not start with a blank.
-/

namespace OpenApiTools.Yaml

/-- What becomes of the line breaks at the end. -/
inductive Chomping
  /-- All go. -/
  | strip
  /-- The one after the last line stays. -/
  | clip
  /-- All stay. -/
  | keep
  deriving DecidableEq, Repr

/-- The indicators after the opening character. -/
structure BlockHeader where
  chomping : Chomping
  /-- The indentation relative to the parent, if it is given. -/
  increment : Option Nat

/-- Reads a chomping indicator. -/
def readChomping? : List Glyph → Option (Chomping × List Glyph)
  | glyph :: rest =>
    if glyph.char == '+' then some (.keep, rest)
    else if glyph.char == '-' then some (.strip, rest)
    else none
  | [] => none

/-- Reads an indentation indicator: no digit, or one that is not zero. -/
def readIncrement? : List Glyph → Option (Option Nat × List Glyph)
  | glyph :: rest =>
    match Text.digit? 10 glyph.char with
    | some 0 => none
    | some columns => some (some columns, rest)
    | none => some (none, glyph :: rest)
  | [] => some (none, [])

/-- Reads both indicators, in either order, and the rest of their line. -/
def readBlockHeader? (glyphs : List Glyph) : Option (BlockHeader × List Glyph) :=
  match readChomping? glyphs with
  | some (chomping, afterChomping) => do
    let (increment, afterIncrement) ← readIncrement? afterChomping
    let rest ← dropLineEnd? afterIncrement
    some (⟨chomping, increment⟩, rest)
  | none => do
    let (increment, afterIncrement) ← readIncrement? glyphs
    let (chomping, afterChomping) :=
      match increment with
      | some _ => (readChomping? afterIncrement).getD (.clip, afterIncrement)
      | none => (.clip, afterIncrement)
    let rest ← dropLineEnd? afterChomping
    some (⟨chomping, increment⟩, rest)

/-- Lines without content at the start of a scalar: their breaks in reverse, and the greatest column
their spaces reach. -/
structure LeadingLines where
  breaks : List Char
  widest : Nat
  rest : List Glyph

/-- Reads leading lines without content. A tab may not stand for indentation. -/
def readLeadingLines? (breaks : List Char) (widest : Nat) : List Glyph → Option LeadingLines
  | [] => some ⟨breaks, widest, []⟩
  | glyph :: rest =>
    if glyph.char == ' ' then readLeadingLines? breaks widest rest
    else if glyph.char == '\t' then none
    else if glyph.isBreak then
      readLeadingLines? (glyph.char :: breaks) (max widest glyph.column) rest
    else some ⟨breaks, max widest glyph.column, glyph :: rest⟩

/-- A block scalar that is being read. Texts are in reverse. -/
structure BlockState where
  text : List Char
  /-- The break at the end of the last line. -/
  lineBreak : List Char
  /-- Breaks of lines without content after it. -/
  emptyLines : List Char
  /-- Whether the last line started with a blank. -/
  blankStart : Bool
  /-- Whether the glyphs being read are content, not indentation. -/
  inLine : Bool

namespace BlockState

/-- Starts a line: settles what the breaks before it amount to. -/
def startLine (state : BlockState) (folded : Bool) (glyph : Glyph) : BlockState :=
  let joins := folded && state.lineBreak == ['\n'] && !state.blankStart && !glyph.isBlank
  let joined :=
    if joins then (if state.emptyLines.isEmpty then ' ' :: state.text else state.text)
    else state.lineBreak ++ state.text
  { text := glyph.char :: (state.emptyLines ++ joined)
    lineBreak := []
    emptyLines := []
    blankStart := glyph.isBlank
    inLine := true }

/-- The text of a scalar that has ended. -/
def finish (state : BlockState) (chomping : Chomping) : String :=
  let kept := match chomping with
    | .strip => state.text
    | .clip => state.lineBreak ++ state.text
    | .keep => state.emptyLines ++ (state.lineBreak ++ state.text)
  String.ofList kept.reverse

end BlockState

/-- Reads the lines of a block scalar whose content starts at a column. -/
def readBlockLines? (folded : Bool) (chomping : Chomping) (indent : Nat) (state : BlockState) :
    List Glyph → Option (String × List Glyph)
  | [] => some (state.finish chomping, [])
  | glyph :: rest =>
    let c := glyph.char
    if state.inLine then
      if glyph.isBreak then
        readBlockLines? folded chomping indent { state with lineBreak := [c], inLine := false } rest
      else
        readBlockLines? folded chomping indent { state with text := c :: state.text } rest
    else if c == ' ' && glyph.column < indent then
      readBlockLines? folded chomping indent state rest
    else if c == '\t' && glyph.column < indent then
      none
    else if glyph.isBreak then
      readBlockLines? folded chomping indent
        { state with emptyLines := c :: state.emptyLines } rest
    else if glyph.column == indent then
      readBlockLines? folded chomping indent (state.startLine folded glyph) rest
    else
      some (state.finish chomping, glyph :: rest)

/-- Reads a block scalar after its opening character. `parent` is the column of the enclosing block
collection, if there is one. -/
def readBlock? (folded : Bool) (parent : Option Nat) (glyphs : List Glyph) :
    Option (String × List Glyph) := do
  let (header, content) ← readBlockHeader? glyphs
  let start : BlockState := ⟨[], [], [], false, false⟩
  match header.increment with
  | some increment =>
    readBlockLines? folded header.chomping (parent.getD 0 + increment) start content
  | none =>
    let leading ← readLeadingLines? [] 0 content
    let least := match parent with
      | some column => column + 1
      | none => 1
    readBlockLines? folded header.chomping (max leading.widest least)
      { start with emptyLines := leading.breaks } leading.rest

end OpenApiTools.Yaml
