import OpenApiTools.Yaml.BlockText
import OpenApiTools.Yaml.FlowText
import OpenApiTools.Yaml.Property

/-!
# Cutting a text into tokens

Tokens are read one after the other. Indentation opens and closes block collections, and whatever
may be a key is remembered until a colon on the same line shows that it is one: the tokens that
announce it are then inserted before it.
-/

namespace OpenApiTools.Yaml

/-- A place where a key without a question mark may have started. -/
structure KeyCandidate where
  /-- How many tokens come before it. -/
  position : Nat
  line : Nat
  column : Nat
  offset : Nat
  /-- Whether the layout admits nothing but a key there. -/
  required : Bool

/-- A text that has been read in part. -/
structure Scanner where
  rest : List Glyph
  tokens : Array Token
  /-- The columns of the open block collections, innermost first. -/
  levels : List Nat
  /-- The key candidates of the open flow collections, innermost first, and of the block context. -/
  candidates : List (Option KeyCandidate)
  /-- Whether a key may start here. -/
  keyAllowed : Bool

namespace Scanner

/-- The scanner at the start of a text. -/
def start (glyphs : List Glyph) : Scanner where
  rest := glyphs
  tokens := #[]
  levels := []
  candidates := [none]
  keyAllowed := true

/-- Whether some flow collection is open. -/
def inFlow (scanner : Scanner) : Bool :=
  2 ≤ scanner.candidates.length

/-- Adds a token at the end. -/
def push (scanner : Scanner) (token : Token) : Scanner :=
  { scanner with tokens := scanner.tokens.push token }

/-- Inserts a token before those from a position on. -/
def insert (scanner : Scanner) (position : Nat) (token : Token) : Scanner :=
  { scanner with tokens := scanner.tokens.insertIdxIfInBounds position token }

/-- Closes the block collections that start right of a column. -/
def unrollTo (least : Nat) (scanner : Scanner) : List Nat → Scanner
  | [] => { scanner with levels := [] }
  | level :: outer =>
    if least ≤ level then unrollTo least (scanner.push .blockEnd) outer
    else { scanner with levels := level :: outer }

/-- Closes the block collections that the column of the next token ends. Flow collections ignore
indentation. -/
def unroll (scanner : Scanner) (column : Nat) : Scanner :=
  if scanner.inFlow then scanner else unrollTo (column + 1) scanner scanner.levels

/-- Closes all block collections. -/
def unrollAll (scanner : Scanner) : Scanner :=
  if scanner.inFlow then scanner else unrollTo 0 scanner scanner.levels

/-- Opens a block collection at a column if the column is right of those that are open. Its start
is inserted at a position among the tokens. -/
def roll (scanner : Scanner) (column position : Nat) (token : Token) : Scanner :=
  let opens := match scanner.levels with
    | [] => true
    | level :: _ => level < column
  if !scanner.inFlow && opens then
    { scanner.insert position token with levels := column :: scanner.levels }
  else
    scanner

/-- Gives up the innermost key candidate; one that is required may not be given up. -/
def dropCandidate? (scanner : Scanner) : Option Scanner :=
  match scanner.candidates with
  | some candidate :: outer =>
    if candidate.required then none else some { scanner with candidates := none :: outer }
  | _ => some scanner

/-- Remembers that a key may start at a glyph, if keys are allowed there. -/
def noteCandidate? (scanner : Scanner) (glyph : Glyph) : Option Scanner :=
  if scanner.keyAllowed then do
    let required := !scanner.inFlow && scanner.levels.head? == some glyph.column
    let candidate : KeyCandidate :=
      ⟨scanner.tokens.size, glyph.line, glyph.column, glyph.offset, required⟩
    let scanner ← scanner.dropCandidate?
    some { scanner with candidates := some candidate :: scanner.candidates.tail }
  else
    some scanner

/-- Whether a colon at a glyph comes too late for a candidate: on a later line or more than 1024
octets on. -/
def isStale (glyph : Glyph) (candidate : KeyCandidate) : Bool :=
  candidate.line < glyph.line || candidate.offset + 1024 < glyph.offset

/-- Gives up the candidates for which it is too late at a glyph. -/
def dropStale? (scanner : Scanner) (glyph : Glyph) : Option Scanner :=
  let isLost (candidate : Option KeyCandidate) : Bool :=
    candidate.any fun candidate => isStale glyph candidate && candidate.required
  if scanner.candidates.any isLost then none
  else some { scanner with candidates := scanner.candidates.map (·.filter (!isStale glyph ·)) }

/-- Skips blanks, comments and line breaks before the next token, and a byte order mark where it is
the first character of a line. A new line of a block collection may start a key. Tabs do not count
as blanks where a key may start. -/
def skipToToken (inFlow : Bool) (keyAllowed inComment : Bool) : List Glyph → Bool × List Glyph
  | [] => (keyAllowed, [])
  | glyph :: rest =>
    if glyph.isBreak then skipToToken inFlow (keyAllowed || !inFlow) false rest
    else if inComment || glyph.char == ' ' then skipToToken inFlow keyAllowed inComment rest
    else if glyph.char == '\t' && (inFlow || !keyAllowed) then
      skipToToken inFlow keyAllowed inComment rest
    else if glyph.char == '#' then skipToToken inFlow keyAllowed true rest
    else if glyph.char == byteOrderMark && glyph.column == 0 then
      skipToToken inFlow keyAllowed false rest
    else (keyAllowed, glyph :: rest)

/-- Adds a token that stands at the next glyphs and is followed by `rest`. -/
def take (scanner : Scanner) (token : Token) (rest : List Glyph) (keyAllowed : Bool) : Scanner :=
  { scanner.push token with rest, keyAllowed }

/-- Reads a directive or document marker, which closes all block collections. -/
def readMarker? (scanner : Scanner) (token : Token) (rest : List Glyph) : Option Scanner := do
  let scanner ← scanner.unrollAll.dropCandidate?
  some (scanner.take token rest false)

/-- Reads the start of a flow collection. -/
def readFlowStart? (scanner : Scanner) (glyph : Glyph) (rest : List Glyph) (token : Token) :
    Option Scanner := do
  let scanner ← scanner.noteCandidate? glyph
  let scanner := scanner.take token rest true
  some { scanner with candidates := none :: scanner.candidates }

/-- Reads the end of a flow collection. -/
def readFlowEnd? (scanner : Scanner) (rest : List Glyph) (token : Token) : Option Scanner := do
  let scanner ← scanner.dropCandidate?
  let candidates := if scanner.inFlow then scanner.candidates.tail else scanner.candidates
  some { scanner.take token rest false with candidates }

/-- Reads a comma of a flow collection. -/
def readFlowEntry? (scanner : Scanner) (rest : List Glyph) : Option Scanner := do
  let scanner ← scanner.dropCandidate?
  some (scanner.take .flowEntry rest true)

/-- Opens a block collection at a glyph, where the layout has to allow one. -/
def openBlock? (scanner : Scanner) (glyph : Glyph) (token : Token) : Option Scanner :=
  if scanner.inFlow then some scanner
  else if scanner.keyAllowed then some (scanner.roll glyph.column scanner.tokens.size token)
  else none

/-- Reads the dash of a sequence item. -/
def readBlockEntry? (scanner : Scanner) (glyph : Glyph) (rest : List Glyph) : Option Scanner := do
  let scanner ← scanner.openBlock? glyph .blockSequenceStart
  let scanner ← scanner.dropCandidate?
  some (scanner.take .blockEntry rest true)

/-- Reads the question mark of a key. -/
def readKey? (scanner : Scanner) (glyph : Glyph) (rest : List Glyph) : Option Scanner := do
  let scanner ← scanner.openBlock? glyph .blockMappingStart
  let scanner ← scanner.dropCandidate?
  some (scanner.take .key rest (!scanner.inFlow))

/-- Reads the colon of a value. If a candidate is there, it is the key. -/
def readValue? (scanner : Scanner) (glyph : Glyph) (rest : List Glyph) : Option Scanner :=
  match scanner.candidates with
  | some candidate :: outer =>
    let announced := scanner.insert candidate.position .key
    let rolled := announced.roll candidate.column candidate.position .blockMappingStart
    some ({ rolled with candidates := none :: outer }.take .value rest false)
  | _ => do
    let scanner ← scanner.openBlock? glyph .blockMappingStart
    some (scanner.take .value rest (!scanner.inFlow))

/-- Reads a token that may be a key. -/
def readKeyable? (scanner : Scanner) (glyph : Glyph) (token : Token) (rest : List Glyph) :
    Option Scanner := do
  let scanner ← scanner.noteCandidate? glyph
  some (scanner.take token rest false)

/-- Reads a literal or folded scalar. -/
def readBlockScalar? (scanner : Scanner) (folded : Bool) (rest : List Glyph) :
    Option Scanner := do
  let scanner ← scanner.dropCandidate?
  let (text, rest) ← readBlock? folded scanner.levels.head? rest
  some (scanner.take (.scalar text false) rest true)

/-- Reads a plain scalar. A line break after it allows a key again. -/
def readPlainScalar? (scanner : Scanner) (glyph : Glyph) (rest : List Glyph) : Option Scanner := do
  let indent := match scanner.levels with
    | [] => 0
    | level :: _ => level + 1
  let scanner ← scanner.noteCandidate? glyph
  let scalar ← readPlain ⟨scanner.inFlow, indent⟩ [] .empty (glyph :: rest)
  some (scanner.take (.scalar scalar.text true) scalar.rest scalar.brokenAfter)

/-- Characters that start no plain scalar, whatever follows them. -/
def isIndicator (c : Char) : Bool :=
  c ∈ ['-', '?', ':', ',', '[', ']', '\x7b', '\x7d', '#', '&', '*', '!', '|', '>', '\'', '\"', '%',
    '@', '\x60']

/-- Whether a plain scalar may start at a glyph. -/
def startsPlain (inFlow : Bool) (glyph : Glyph) (rest : List Glyph) : Bool :=
  let c := glyph.char
  !(glyph.isBlank || isIndicator c) ||
    (c == '-' && !rest.head?.any Glyph.isBlank) ||
    (!inFlow && (c == '?' || c == ':') && !atGap rest)

/-- Reads the token at a glyph. -/
def readToken? (scanner : Scanner) (glyph : Glyph) (rest : List Glyph) : Option Scanner :=
  let c := glyph.char
  let inFlow := scanner.inFlow
  if glyph.column == 0 && c == '%' then do
    let (token, after) ← readDirective? rest
    scanner.readMarker? token after
  else if marksDocument '-' (glyph :: rest) then
    scanner.readMarker? .documentStart (rest.drop 2)
  else if marksDocument '.' (glyph :: rest) then
    scanner.readMarker? .documentEnd (rest.drop 2)
  else if c == '[' then scanner.readFlowStart? glyph rest .flowSequenceStart
  else if c == '\x7b' then scanner.readFlowStart? glyph rest .flowMappingStart
  else if c == ']' then scanner.readFlowEnd? rest .flowSequenceEnd
  else if c == '\x7d' then scanner.readFlowEnd? rest .flowMappingEnd
  else if c == ',' then scanner.readFlowEntry? rest
  else if c == '-' && atGap rest then scanner.readBlockEntry? glyph rest
  else if c == '?' && (inFlow || atGap rest) then scanner.readKey? glyph rest
  else if c == ':' && (inFlow || atGap rest) then scanner.readValue? glyph rest
  else if c == '*' then do
    let (name, after) ← readAnchorName? rest
    scanner.readKeyable? glyph (.alias name) after
  else if c == '&' then do
    let (name, after) ← readAnchorName? rest
    scanner.readKeyable? glyph (.anchor name) after
  else if c == '!' then do
    let (token, after) ← readTag? inFlow (glyph :: rest)
    scanner.readKeyable? glyph token after
  else if c == '|' && !inFlow then scanner.readBlockScalar? false rest
  else if c == '>' && !inFlow then scanner.readBlockScalar? true rest
  else if c == '\'' then do
    let (text, after) ← readSingleQuoted [] .empty rest
    scanner.readKeyable? glyph (.scalar text false) after
  else if c == '\"' then do
    let (text, after) ← readDoubleQuoted [] .empty .plain rest
    scanner.readKeyable? glyph (.scalar text false) after
  else if startsPlain inFlow glyph rest then scanner.readPlainScalar? glyph rest
  else none

/-- Reads the end of the text. -/
def readEnd? (scanner : Scanner) : Option (Array Token) := do
  let scanner ← scanner.unrollAll.dropCandidate?
  some (scanner.tokens.push .streamEnd)

/-- Reads all tokens. Every round but the last reads at least one glyph. -/
def run? : Nat → Scanner → Option (Array Token)
  | 0, _ => none
  | rounds + 1, scanner =>
    let (keyAllowed, rest) :=
      skipToToken scanner.inFlow scanner.keyAllowed false scanner.rest
    match rest with
    | [] => scanner.readEnd?
    | glyph :: after => do
      let scanner ← { scanner with rest, keyAllowed }.dropStale? glyph
      run? rounds (← (scanner.unroll glyph.column).readToken? glyph after)

end Scanner

/-- The tokens of a text. -/
def Token.scan? (chars : List Char) : Option (List Token) :=
  if chars.all isAllowed then
    let glyphs := Glyph.place chars
    ((Scanner.start glyphs).run? (glyphs.length + 1)).map Array.toList
  else
    none

end OpenApiTools.Yaml
