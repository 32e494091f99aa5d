import OpenApiTools.Url.Domain.Composition
import OpenApiTools.Url.Domain.Image
import OpenApiTools.Url.Domain.Joining
import OpenApiTools.Url.Punycode

/-!
# Labels

The parts of a domain name between its dots. A label outside ASCII may be written out or in
punycode, but in punycode only as it is read in the end.
-/

namespace OpenApiTools.Url.Domain

/-- What a text is read as in a domain name, in composed form; none if it holds a character that no
domain name may hold. -/
def read? (chars : List Char) : Option (List Char) :=
  (chars.mapM image?).map fun images => compose images.flatten

/-- Characters that no domain name may hold once it has been read. -/
def isForbiddenInDomain (c : Char) : Bool :=
  isForbidden c || c < ' ' || c == '%' || c == '\x7F'

/-- Whether a character is of ASCII. -/
def isAscii (c : Char) : Bool := c.toNat < 0x80

/-- How long a label in punycode may be, without its mark. -/
def encodedLimit : Nat := 2000

/-- How long a label outside ASCII may be. -/
def labelLimit : Nat := 1000

/-- The label that punycode stands for. It has to be outside ASCII and to be read as it is. -/
def decode? (encoded : List Char) : Option (List Char) := do
  if !encoded.all isAscii || encodedLimit < encoded.length then none
  let label ← Punycode.decode? encoded
  if label.all isAscii || read? label != some label then none else some label

/-- The label that a part of a domain name stands for. -/
def label? (part : List Char) : Option (List Char) :=
  match part with
  | 'x' :: 'n' :: '-' :: '-' :: encoded => decode? encoded
  | _ => some part

/-- Whether a label is well formed by itself: no mark comes first, joiners stand where they make a
difference, and a label outside ASCII is not too long. -/
def isLabel (label : List Char) : Bool :=
  !label.any isForbiddenInDomain && !label.head?.any isMark && joinersFit [] label &&
    (label.all isAscii || label.length ≤ labelLimit)

end OpenApiTools.Url.Domain
