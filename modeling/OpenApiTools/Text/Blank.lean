import OpenApiTools.Text.Ranges

/-!
# Blank text and trimming

Blank characters are those with the Unicode property of white space. A text is blank when it holds
no other character.
-/

namespace OpenApiTools.Text

/-- The characters that count as white space. -/
def blankRanges : Ranges :=
  [(0x9, 0xD), (0x20, 0x20), (0x85, 0x85), (0xA0, 0xA0), (0x1680, 0x1680), (0x2000, 0x200A),
   (0x2028, 0x2029), (0x202F, 0x202F), (0x205F, 0x205F), (0x3000, 0x3000)]

/-- Whether a character is white space. -/
def isBlankChar (c : Char) : Bool :=
  blankRanges.has c

/-- Whether a text holds nothing but white space. -/
def isBlank (text : String) : Bool :=
  text.toList.all isBlankChar

/-- Drops the longest run at the end whose characters all satisfy the test. -/
def dropTrailing (drops : Char → Bool) (chars : List Char) : List Char :=
  (chars.reverse.dropWhile drops).reverse

/-- Drops the longest such run at both ends. -/
def dropAround (drops : Char → Bool) (chars : List Char) : List Char :=
  dropTrailing drops (chars.dropWhile drops)

end OpenApiTools.Text
