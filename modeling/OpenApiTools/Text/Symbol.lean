/-!
# Symbols of bytes

Bytes are read as the characters that they encode in UTF-8. A byte that is part of no character is a
symbol of its own, so that bytes which are no text can be read as well.
-/

namespace OpenApiTools.Text

/-- A character, or a byte that is part of none. -/
inductive Symbol
  | char (c : Char)
  | stray (byte : UInt8)
  deriving DecidableEq, Repr

/-- The character that bytes begin with. -/
def firstChar? (bytes : List UInt8) : Option Char :=
  (bytes.take 4).toByteArray.utf8DecodeChar? 0

/-- The symbols of bytes behind a character that has been read, to which the first of them still
belong. -/
def symbolsAfter : Nat → List UInt8 → List Symbol
  | _, [] => []
  | skipped + 1, _ :: rest => symbolsAfter skipped rest
  | 0, byte :: rest =>
    match firstChar? (byte :: rest) with
    | some c => .char c :: symbolsAfter (c.utf8Size - 1) rest
    | none => .stray byte :: symbolsAfter 0 rest

/-- The symbols of bytes. -/
def symbols (bytes : ByteArray) : List Symbol :=
  symbolsAfter 0 bytes.data.toList

end OpenApiTools.Text
