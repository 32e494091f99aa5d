import OpenApiTools.Json.Numeral
import OpenApiTools.Text.Symbol

/-!
# Tokens of JSON texts

A text is cut into tokens one character at a time. What a string stands for is left open here: its
token holds the characters and escaped code units as written, and also bytes that are part of no
character, which may stand in a string and nowhere else.
-/

namespace OpenApiTools.Json

/-- A part of a string: a character, a code unit of UTF-16 given by its hexadecimal escape, or a
byte that is part of no character. -/
inductive Piece
  | char (c : Char)
  | unit (code : Nat)
  | stray (byte : UInt8)
  deriving DecidableEq, Repr

/-- A token of a JSON text. -/
inductive Token
  | openBrace
  | closeBrace
  | openBracket
  | closeBracket
  | comma
  | colon
  | null
  | bool (value : Bool)
  | numeral (value : Numeral)
  | string (pieces : List Piece)
  deriving DecidableEq, Repr

namespace Piece

/-- Whether a code unit opens a surrogate pair. -/
def isHighSurrogate (code : Nat) : Bool := 0xD800 ≤ code && code < 0xDC00

/-- Whether a code unit closes a surrogate pair. -/
def isLowSurrogate (code : Nat) : Bool := 0xDC00 ≤ code && code < 0xE000

/-- The characters that pieces stand for; none if a surrogate stands alone or a byte is part of no
character. -/
def decode? : List Piece → Option (List Char)
  | [] => some []
  | .char c :: rest => (decode? rest).map (c :: ·)
  | .stray _ :: _ => none
  | .unit high :: .unit low :: rest =>
    if isHighSurrogate high then
      if isLowSurrogate low then
        let code := 0x10000 + (high - 0xD800) * 0x400 + (low - 0xDC00)
        (decode? rest).map (Char.ofNat code :: ·)
      else
        none
    else if isLowSurrogate high then
      none
    else
      (decode? (.unit low :: rest)).map (Char.ofNat high :: ·)
  | .unit code :: rest =>
    if isHighSurrogate code || isLowSurrogate code then none
    else (decode? rest).map (Char.ofNat code :: ·)

/-- The text that pieces stand for, if they stand for one. -/
def text? (pieces : List Piece) : Option String :=
  (decode? pieces).map String.ofList

end Piece

namespace Token

/-- What the characters read last belong to. Unfinished lexemes are held in reverse. -/
inductive Mode
  | between
  | word (letters : List Char)
  | numeral (chars : List Char)
  | string (pieces : List Piece)
  | escape (pieces : List Piece)
  | unicode (pieces : List Piece) (digits : List Nat)

/-- The tokens read so far, in reverse, and the unfinished one. -/
structure Lexer where
  mode : Mode
  tokens : List Token

/-- The token of a word. -/
def ofWord? (letters : List Char) : Option Token :=
  if letters = ['n', 'u', 'l', 'l'] then some .null
  else if letters = ['t', 'r', 'u', 'e'] then some (.bool true)
  else if letters = ['f', 'a', 'l', 's', 'e'] then some (.bool false)
  else none

/-- The token of a single character, if it is one. -/
def ofPunctuation? (c : Char) : Option Token :=
  if c = '\x7b' then some .openBrace
  else if c = '\x7d' then some .closeBrace
  else if c = '[' then some .openBracket
  else if c = ']' then some .closeBracket
  else if c = ',' then some .comma
  else if c = ':' then some .colon
  else none

/-- Blanks between tokens. -/
def isSpace (c : Char) : Bool :=
  c == ' ' || c == '\n' || c == '\t' || c == '\r'

/-- Characters that continue a numeral. -/
def isNumeralChar (c : Char) : Bool :=
  c.isDigit || c == '-' || c == '+' || c == '.' || c == 'e' || c == 'E'

/-- The character that a short escape stands for. -/
def shortEscape? (c : Char) : Option Char :=
  if c = '\"' then some '\"'
  else if c = '\\' then some '\\'
  else if c = '/' then some '/'
  else if c = 'b' then some '\x08'
  else if c = 'f' then some '\x0c'
  else if c = 'n' then some '\n'
  else if c = 'r' then some '\r'
  else if c = 't' then some '\t'
  else none

/-- Reads one character outside any unfinished token. -/
def begin? (tokens : List Token) (c : Char) : Option Lexer :=
  if isSpace c then some ⟨.between, tokens⟩
  else if c = '\"' then some ⟨.string [], tokens⟩
  else if c = '-' ∨ c.isDigit then some ⟨.numeral [c], tokens⟩
  else if c.isLower then some ⟨.word [c], tokens⟩
  else (ofPunctuation? c).map fun token => ⟨.between, token :: tokens⟩

/-- Reads one character. -/
def step? (lexer : Lexer) (c : Char) : Option Lexer :=
  let tokens := lexer.tokens
  match lexer.mode with
  | .between => begin? tokens c
  | .word letters =>
    if c.isLower then some ⟨.word (c :: letters), tokens⟩
    else (ofWord? letters.reverse).bind fun token => begin? (token :: tokens) c
  | .numeral chars =>
    if isNumeralChar c then some ⟨.numeral (c :: chars), tokens⟩
    else (Numeral.ofChars? chars.reverse).bind fun value => begin? (.numeral value :: tokens) c
  | .string pieces =>
    if c = '\"' then some ⟨.between, .string pieces.reverse :: tokens⟩
    else if c = '\\' then some ⟨.escape pieces, tokens⟩
    else if c.toNat < 0x20 then none
    else some ⟨.string (.char c :: pieces), tokens⟩
  | .escape pieces =>
    if c = 'u' then some ⟨.unicode pieces [], tokens⟩
    else (shortEscape? c).map fun plain => ⟨.string (.char plain :: pieces), tokens⟩
  | .unicode pieces digits =>
    (Text.digit? 16 c).map fun digit =>
      match digits with
      | [third, second, first] =>
        let code := ((first * 16 + second) * 16 + third) * 16 + digit
        ⟨.string (.unit code :: pieces), tokens⟩
      | _ => ⟨.unicode pieces (digit :: digits), tokens⟩

/-- Reads one symbol. -/
def stepSymbol? (lexer : Lexer) : Text.Symbol → Option Lexer
  | .char c => step? lexer c
  | .stray byte =>
    match lexer.mode with
    | .string pieces => some ⟨.string (.stray byte :: pieces), lexer.tokens⟩
    | _ => none

/-- The tokens once the text has ended. -/
def finish? (lexer : Lexer) : Option (List Token) :=
  match lexer.mode with
  | .between => some lexer.tokens.reverse
  | .word letters => (ofWord? letters.reverse).map fun token => (token :: lexer.tokens).reverse
  | .numeral chars =>
    (Numeral.ofChars? chars.reverse).map fun value => (.numeral value :: lexer.tokens).reverse
  | _ => none

/-- The tokens of a text. -/
def scan? (chars : List Char) : Option (List Token) :=
  (chars.foldlM step? ⟨.between, []⟩).bind finish?

/-- The tokens of symbols. -/
def scanSymbols? (symbols : List Text.Symbol) : Option (List Token) :=
  (symbols.foldlM stepSymbol? ⟨.between, []⟩).bind finish?

end Token

end OpenApiTools.Json
