/-!
# Placed characters

A YAML text is read as a list of characters that know where they stand, because indentation, single
line keys and document markers depend on position. The four spellings of an ordinary line break are
made one beforehand; the two Unicode separators are line breaks that stay what they are.
-/

namespace OpenApiTools.Yaml

/-- A character with its place in the text. -/
structure Glyph where
  char : Char
  line : Nat
  /-- How many characters come before it on its line. -/
  column : Nat
  /-- How many octets come before it in the text. -/
  offset : Nat
  deriving Repr

/-- A byte order mark. -/
def byteOrderMark : Char := '\uFEFF'

/-- Spaces and tabs. -/
def isBlank (c : Char) : Bool := c == ' ' || c == '\t'

/-- Line breaks, once ordinary ones are line feeds. -/
def isBreak (c : Char) : Bool := c == '\n' || c == '\u2028' || c == '\u2029'

/-- The characters of anchors and tag handles. -/
def isNameChar (c : Char) : Bool := c.isAlphanum || c == '_' || c == '-'

/-- The characters a YAML text may hold. -/
def isAllowed (c : Char) : Bool :=
  c == '\t' || c == '\n' || c == '\r' || (' ' ≤ c && c ≤ '~') || c == '\u0085' ||
    ('\u00A0' ≤ c && c ≤ '\uFFFD') || 0x10000 ≤ c.toNat

/-- Replaces carriage returns, with or without a line feed, and next-line characters by line
feeds. The result is in reverse. -/
def unifyBreaks (done : List Char) : List Char → List Char
  | [] => done
  | '\r' :: '\n' :: rest => unifyBreaks ('\n' :: done) rest
  | c :: rest => unifyBreaks ((if c == '\r' || c == '\u0085' then '\n' else c) :: done) rest

namespace Glyph

/-- Whether the glyph is a space or a tab. -/
def isBlank (glyph : Glyph) : Bool := Yaml.isBlank glyph.char

/-- Whether the glyph is a line break. -/
def isBreak (glyph : Glyph) : Bool := Yaml.isBreak glyph.char

/-- The glyphs of characters that follow the given place; those before are in reverse. -/
def placeFrom (line column offset : Nat) (done : List Glyph) : List Char → List Glyph
  | [] => done.reverse
  | c :: rest =>
    let glyph : Glyph := ⟨c, line, column, offset⟩
    if Yaml.isBreak c then placeFrom (line + 1) 0 (offset + c.utf8Size) (glyph :: done) rest
    else placeFrom line (column + 1) (offset + c.utf8Size) (glyph :: done) rest

/-- The glyphs of a text. -/
def place (chars : List Char) : List Glyph :=
  placeFrom 0 0 0 [] (unifyBreaks [] chars).reverse

end Glyph

/-- Whether a text stops here or goes on with a blank or a line break. -/
def atGap : List Glyph → Bool
  | [] => true
  | glyph :: _ => glyph.isBlank || glyph.isBreak

/-- Whether a text stops here or goes on with a line break. -/
def atLineEnd : List Glyph → Bool
  | [] => true
  | glyph :: _ => glyph.isBreak

/-- Whether a text goes on with this character. -/
def startsWith (c : Char) : List Glyph → Bool
  | [] => false
  | glyph :: _ => glyph.char == c

/-- Whether a line starts here with three times this character, standing alone. -/
def marksDocument (mark : Char) : List Glyph → Bool
  | first :: second :: third :: rest =>
    first.column == 0 && first.char == mark && second.char == mark && third.char == mark &&
      atGap rest
  | _ => false

/-- Whether a document starts or ends here. -/
def atDocumentMarker (glyphs : List Glyph) : Bool :=
  marksDocument '-' glyphs || marksDocument '.' glyphs

/-- Drops spaces and tabs. -/
def dropBlanks (glyphs : List Glyph) : List Glyph :=
  glyphs.dropWhile Glyph.isBlank

/-- Drops a comment, if one starts here, up to the end of the line. -/
def dropComment (glyphs : List Glyph) : List Glyph :=
  if startsWith '#' glyphs then glyphs.dropWhile (!·.isBreak) else glyphs

/-- Drops blanks and a comment up to the end of the line and the break there; none if anything
else is on the line. -/
def dropLineEnd? (glyphs : List Glyph) : Option (List Glyph) :=
  let rest := dropComment (dropBlanks glyphs)
  if atLineEnd rest then some rest.tail else none

end OpenApiTools.Yaml
