import OpenApiTools.Text.Digit

/-!
# The text of hosts

What hosts of all kinds are written with: characters that none may hold, percent escapes and
separators.
-/

namespace OpenApiTools.Url

/-- The pieces of a text between separators. -/
def pieces (separator : Char) (chars : List Char) : List (List Char) :=
  chars.foldr
    (fun c found =>
      match found with
      | first :: rest => if c == separator then [] :: first :: rest else (c :: first) :: rest
      | [] => [[c]])
    [[]]

/-- Characters that no host may hold. -/
def isForbidden (c : Char) : Bool :=
  c ∈ ['\x00', '\t', '\n', '\r', ' ', '#', '/', ':', '<', '>', '?', '@', '[', '\\', ']', '^', '|']

/-- The octets of a text with percent escapes replaced. -/
def percentDecode : List UInt8 → List UInt8
  | 0x25 :: high :: low :: rest =>
    match Text.ofDigits? 16 [Char.ofUInt8 high, Char.ofUInt8 low] with
    | some octet => UInt8.ofNat octet :: percentDecode rest
    | none => 0x25 :: percentDecode (high :: low :: rest)
  | octet :: rest => octet :: percentDecode rest
  | [] => []

/-- A text with percent escapes replaced by what they stand for; none if that is not a text. -/
def unescape? (chars : List Char) : Option (List Char) :=
  (String.fromUTF8? (percentDecode (String.ofList chars).toUTF8.toList).toByteArray).map
    String.toList

end OpenApiTools.Url
