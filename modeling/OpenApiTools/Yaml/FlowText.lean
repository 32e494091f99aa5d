import OpenApiTools.Text.Digit
import OpenApiTools.Yaml.Glyph

/-!
# Plain and quoted scalars

The text of a scalar that may run over several lines: a line break between words reads as a space,
and further breaks stand for themselves. Blanks and breaks are held back until the next word shows
what they amount to.
-/

namespace OpenApiTools.Yaml

/-- White space that has been read but not yet given a meaning. Lists are in reverse. -/
inductive Gap
  | blanks (chars : List Char)
  | breaks (first : List Char) (later : List Char)
  deriving Repr

namespace Gap

/-- Nothing held back. -/
def empty : Gap := .blanks []

/-- Whether something is held back. -/
def isPending : Gap → Bool
  | .blanks chars => !chars.isEmpty
  | .breaks _ _ => true

/-- Whether a line break is held back. -/
def hasBreak : Gap → Bool
  | .blanks _ => false
  | .breaks _ _ => true

/-- Adds a blank; after a line break it is indentation and counts for nothing. -/
def addBlank (c : Char) : Gap → Gap
  | .blanks chars => .blanks (c :: chars)
  | .breaks first later => .breaks first later

/-- Adds a line break; blanks before the first one count for nothing. -/
def addBreak (c : Char) : Gap → Gap
  | .blanks _ => .breaks [c] []
  | .breaks first later => .breaks first (c :: later)

/-- What the gap contributes to the text, in reverse. A single ordinary break reads as a space. -/
def text : Gap → List Char
  | .blanks chars => chars
  | .breaks first later =>
    if first == ['\n'] then (if later.isEmpty then [' '] else later) else later ++ first

end Gap

/-- Where a plain scalar is read. -/
structure PlainContext where
  inFlow : Bool
  /-- The column that continuation lines of a block scalar have to reach. -/
  indent : Nat

/-- A plain scalar that has been read, and whether a line break follows it. -/
structure PlainScalar where
  text : String
  brokenAfter : Bool
  rest : List Glyph

/-- Characters that structure flow collections. -/
def isFlowIndicator (c : Char) : Bool :=
  c == ',' || c == '[' || c == ']' || c == '\x7b' || c == '\x7d'

/-- Whether a plain scalar ends before the word at this glyph: the line is not indented enough, or
is a document marker, or the word starts a comment. -/
def endsBeforeWord (context : PlainContext) (gap : Gap) (glyph : Glyph) (rest : List Glyph) :
    Bool :=
  (gap.isPending && !context.inFlow && glyph.column < context.indent) ||
    atDocumentMarker (glyph :: rest) ||
    (gap.isPending && glyph.char == '#')

/-- Whether a colon in a flow collection stands before an indicator, where it is an error. -/
def isStrayColon (context : PlainContext) (glyph : Glyph) (rest : List Glyph) : Bool :=
  context.inFlow && glyph.char == ':' &&
    match rest with
    | next :: _ => isFlowIndicator next.char || next.char == '?'
    | [] => false

/-- Whether a plain scalar ends at this glyph: a colon before white space, or an indicator in a flow
collection. -/
def endsAtIndicator (context : PlainContext) (glyph : Glyph) (rest : List Glyph) : Bool :=
  (glyph.char == ':' && atGap rest) || (context.inFlow && isFlowIndicator glyph.char)

/-- Reads a plain scalar; the text read so far is in reverse. -/
def readPlain (context : PlainContext) (text : List Char) (gap : Gap) :
    List Glyph → Option PlainScalar
  | [] => some ⟨String.ofList text.reverse, gap.hasBreak, []⟩
  | glyph :: rest =>
    let c := glyph.char
    if glyph.isBlank then
      if c == '\t' && gap.hasBreak && glyph.column < context.indent then none
      else readPlain context text (gap.addBlank c) rest
    else if glyph.isBreak then
      readPlain context text (gap.addBreak c) rest
    else if endsBeforeWord context gap glyph rest then
      some ⟨String.ofList text.reverse, gap.hasBreak, glyph :: rest⟩
    else if isStrayColon context glyph rest then
      none
    else if endsAtIndicator context glyph rest then
      some ⟨String.ofList text.reverse, gap.hasBreak, glyph :: rest⟩
    else
      readPlain context (c :: (gap.text ++ text)) .empty rest

/-- Reads a single-quoted scalar after its opening quote. Two quotes stand for one. -/
def readSingleQuoted (text : List Char) (gap : Gap) : List Glyph → Option (String × List Glyph)
  | [] => none
  | glyph :: rest =>
    let c := glyph.char
    if glyph.isBlank then
      readSingleQuoted text (gap.addBlank c) rest
    else if glyph.isBreak then
      readSingleQuoted text (gap.addBreak c) rest
    else if atDocumentMarker (glyph :: rest) then
      none
    else if c == '\'' then
      match rest with
      | next :: after =>
        if next.char == '\'' then readSingleQuoted ('\'' :: (gap.text ++ text)) .empty after
        else some (String.ofList (gap.text ++ text).reverse, rest)
      | [] => some (String.ofList (gap.text ++ text).reverse, [])
    else
      readSingleQuoted (c :: (gap.text ++ text)) .empty rest

/-- What the last characters of a double-quoted scalar belong to. -/
inductive QuotedMode
  | plain
  | escape
  | code (digitsLeft : Nat) (value : Nat)

/-- The character of an escape that has no digits. -/
def namedEscape? (c : Char) : Option Char :=
  if c == '0' then some '\x00'
  else if c == 'a' then some '\x07'
  else if c == 'b' then some '\x08'
  else if c == 't' || c == '\t' then some '\t'
  else if c == 'n' then some '\n'
  else if c == 'v' then some '\x0b'
  else if c == 'f' then some '\x0c'
  else if c == 'r' then some '\r'
  else if c == 'e' then some '\x1b'
  else if c == ' ' || c == '\"' || c == '/' || c == '\\' then some c
  else if c == 'N' then some '\u0085'
  else if c == '_' then some '\u00A0'
  else if c == 'L' then some '\u2028'
  else if c == 'P' then some '\u2029'
  else none

/-- How many hexadecimal digits follow an escape. -/
def escapeLength? (c : Char) : Option Nat :=
  if c == 'x' then some 2 else if c == 'u' then some 4 else if c == 'U' then some 8 else none

/-- The character with a code, unless the code is a surrogate's or too great. -/
def charOfCode? (code : Nat) : Option Char :=
  if code.isValidChar then some (Char.ofNat code) else none

/-- Reads a double-quoted scalar after its opening quote. An escaped line break joins the lines. -/
def readDoubleQuoted (text : List Char) (gap : Gap) (mode : QuotedMode) :
    List Glyph → Option (String × List Glyph)
  | [] => none
  | glyph :: rest =>
    let c := glyph.char
    match mode with
    | .plain =>
      if glyph.isBlank then
        readDoubleQuoted text (gap.addBlank c) .plain rest
      else if glyph.isBreak then
        readDoubleQuoted text (gap.addBreak c) .plain rest
      else if atDocumentMarker (glyph :: rest) then
        none
      else if c == '\"' then
        some (String.ofList (gap.text ++ text).reverse, rest)
      else if c == '\\' then
        readDoubleQuoted (gap.text ++ text) .empty .escape rest
      else
        readDoubleQuoted (c :: (gap.text ++ text)) .empty .plain rest
    | .escape =>
      if glyph.isBreak then
        readDoubleQuoted text (.breaks [] []) .plain rest
      else
        match namedEscape? c, escapeLength? c with
        | some plain, _ => readDoubleQuoted (plain :: text) .empty .plain rest
        | none, some length => readDoubleQuoted text .empty (.code length 0) rest
        | none, none => none
    | .code digitsLeft value =>
      match Text.digit? 16 c with
      | none => none
      | some digit =>
        let code := value * 16 + digit
        if digitsLeft ≤ 1 then
          match charOfCode? code with
          | some decoded => readDoubleQuoted (decoded :: text) .empty .plain rest
          | none => none
        else
          readDoubleQuoted text .empty (.code (digitsLeft - 1) code) rest

end OpenApiTools.Yaml
