import OpenApiTools.Text.Digit
import OpenApiTools.Yaml.Glyph
import OpenApiTools.Yaml.Token

/-!
# Directives, tags, anchors and aliases

The tokens that start with a percent sign, an exclamation mark, an ampersand or an asterisk.
-/

namespace OpenApiTools.Yaml

/-- The characters at the start of a text that satisfy a test, and the rest of it. -/
def takeChars (accepts : Char → Bool) (glyphs : List Glyph) : List Char × List Glyph :=
  let (taken, rest) := glyphs.span fun glyph => accepts glyph.char
  (taken.map Glyph.char, rest)

/-- The octet that two hexadecimal digits spell. -/
def octet? (high low : Glyph) : Option Nat :=
  Text.ofDigits? 16 [high.char, low.char]

/-- How many octets of UTF-8 follow a leading one. -/
def following? (octet : Nat) : Option Nat :=
  if octet < 0x80 then some 0
  else if 0xC0 ≤ octet && octet < 0xE0 then some 1
  else if 0xE0 ≤ octet && octet < 0xF0 then some 2
  else if 0xF0 ≤ octet && octet < 0xF8 then some 3
  else none

/-- How many octets are missing after an escaped one, when some were missing before it. Only the
number of octets is checked, not whether they spell a character. -/
def missingAfter? (missing octet : Nat) : Option Nat :=
  if missing = 0 then following? octet
  else if 0x80 ≤ octet && octet < 0xC0 then some (missing - 1)
  else none

/-- Reads the octets of a tag, percent escapes included, when so many octets of an escaped character
are missing. The octets read so far are in reverse. -/
def readTagOctets? (accepts : Char → Bool) (done : List UInt8) (missing : Nat) :
    List Glyph → Option (List UInt8 × List Glyph)
  | [] => if missing = 0 then some (done.reverse, []) else none
  | glyph :: rest =>
    if glyph.char == '%' then
      match rest with
      | high :: low :: after =>
        match octet? high low with
        | none => none
        | some octet =>
          match missingAfter? missing octet with
          | none => none
          | some missing => readTagOctets? accepts (UInt8.ofNat octet :: done) missing after
      | _ => none
    else if missing ≠ 0 then none
    else if accepts glyph.char then
      readTagOctets? accepts ((octets [glyph.char]).reverse ++ done) 0 rest
    else some (done.reverse, glyph :: rest)

/-- The characters of a tag in short form. -/
def isTagChar (c : Char) : Bool :=
  isNameChar c ||
    c ∈ [';', '/', '?', ':', '@', '&', '=', '+', '$', '.', '!', '~', '*', '\'', '(', ')']

/-- The characters of a tag in full form. -/
def isFullTagChar (c : Char) : Bool :=
  isTagChar c || c == ',' || c == '[' || c == ']'

/-- Reads a tag handle: an exclamation mark, and name characters with another mark if they end in
one. -/
def readHandle? (glyphs : List Glyph) : Option (List Char × List Glyph) :=
  match glyphs with
  | [] => none
  | first :: rest =>
    if first.char == '!' then
      let (name, after) := takeChars isNameChar rest
      match after with
      | next :: remaining =>
        if next.char == '!' then some ('!' :: name ++ ['!'], remaining)
        else some ('!' :: name, after)
      | [] => some ('!' :: name, [])
    else
      none

/-- Whether a handle stands between two exclamation marks. -/
def isNamedHandle (handle : List Char) : Bool :=
  2 ≤ handle.length && handle.getLast? == some '!'

/-- Reads a tag in full form after its opening bracket. -/
def readFullTag? (glyphs : List Glyph) : Option (Token × List Glyph) := do
  let (suffix, rest) ← readTagOctets? isFullTagChar [] 0 glyphs
  if suffix.isEmpty || !startsWith '>' rest then none else some (.tag [] suffix, rest.tail)

/-- Reads a tag in short form. Without a second exclamation mark the handle is the first one, and
the mark with nothing behind it is a tag of its own. -/
def readShortTag? (glyphs : List Glyph) : Option (Token × List Glyph) := do
  let (handle, afterHandle) ← readHandle? glyphs
  let (read, rest) ← readTagOctets? isTagChar [] 0 afterHandle
  if isNamedHandle handle then
    if read.isEmpty then none else some (.tag handle read, rest)
  else
    let suffix := octets handle.tail ++ read
    if (beforeZero suffix).isEmpty then some (.tag [] (octets ['!']), rest)
    else some (.tag ['!'] suffix, rest)

/-- Reads a tag. It ends at white space, or before a comma in a flow collection. -/
def readTag? (inFlow : Bool) (glyphs : List Glyph) : Option (Token × List Glyph) := do
  let (token, rest) ←
    match glyphs with
    | _ :: second :: after =>
      if second.char == '<' then readFullTag? after else readShortTag? glyphs
    | _ => readShortTag? glyphs
  if atGap rest || (inFlow && startsWith ',' rest) then some (token, rest) else none

/-- Reads the name of an anchor or alias after its mark. -/
def readAnchorName? (glyphs : List Glyph) : Option (String × List Glyph) :=
  let (name, rest) := takeChars isNameChar glyphs
  let ends := atGap rest ||
    match rest with
    | next :: _ => next.char ∈ ['?', ':', ',', ']', '\x7d', '%', '@', '\x60']
    | [] => true
  if name.isEmpty || !ends then none else some (String.ofList name, rest)

/-- Reads a number of a version: one to nine digits. -/
def readVersionNumber? (glyphs : List Glyph) : Option (Nat × List Glyph) :=
  let (digits, rest) := takeChars Char.isDigit glyphs
  if 9 < digits.length then none else (Text.natural? 10 digits).map (·, rest)

/-- Reads the value of a version directive. -/
def readVersion? (glyphs : List Glyph) : Option (Token × List Glyph) := do
  let (major, afterMajor) ← readVersionNumber? (dropBlanks glyphs)
  if startsWith '.' afterMajor then
    let (minor, rest) ← readVersionNumber? afterMajor.tail
    some (.versionDirective major minor, rest)
  else
    none

/-- Reads the value of a tag directive: a handle and what it stands for. -/
def readTagDirective? (glyphs : List Glyph) : Option (Token × List Glyph) := do
  let (handle, afterHandle) ← readHandle? (dropBlanks glyphs)
  if !(isNamedHandle handle || handle == ['!']) || !afterHandle.head?.any Glyph.isBlank then
    none
  else
    let (start, rest) ← readTagOctets? isFullTagChar [] 0 (dropBlanks afterHandle)
    if start.isEmpty || !atGap rest then none else some (.tagDirective handle start, rest)

/-- Reads a directive after its percent sign, with the rest of its line. -/
def readDirective? (glyphs : List Glyph) : Option (Token × List Glyph) := do
  let (name, value) := takeChars isNameChar glyphs
  if !atGap value then
    none
  else
    let (token, rest) ←
      if name == ['Y', 'A', 'M', 'L'] then readVersion? value
      else if name == ['T', 'A', 'G'] then readTagDirective? value
      else none
    some (token, ← dropLineEnd? rest)

end OpenApiTools.Yaml
