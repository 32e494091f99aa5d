/-!
# Tags of nodes

A tag is kept as the octets that it is made of, because percent escapes can put any octets into it.
A zero octet ends a tag, so that what is escaped behind one does not count.
-/

namespace OpenApiTools.Yaml

/-- The octets of characters in UTF-8. -/
def octets (chars : List Char) : List UInt8 :=
  chars.flatMap String.utf8EncodeChar

/-- The octets before the first zero octet. -/
def beforeZero (octets : List UInt8) : List UInt8 :=
  octets.takeWhile (· != 0)

/-- The tag of a node in full form. -/
structure Tag where
  octets : List UInt8
  deriving DecidableEq, Repr

namespace Tag

/-- The tag made of what its handle stands for and of its suffix. Either part ends at its first zero
octet. -/
def join (start suffix : List UInt8) : Tag :=
  ⟨beforeZero start ++ beforeZero suffix⟩

/-- The tag that is written as a text. -/
def ofText (text : String) : Tag := ⟨Yaml.octets text.toList⟩

/-- What tags of the core schema start with. -/
def coreStart : String := "tag:yaml.org,2002:"

/-- The tag of the core schema with this name. -/
def core (name : String) : Tag := ofText (coreStart ++ name)

/-- Whether a tag starts with an exclamation mark, and so belongs to the text alone. -/
def isLocal (tag : Tag) : Bool := tag.octets.head? == some '!'.toUInt8

/-- The type that a local tag names: the text behind its mark, or the mark itself where nothing
follows it. A local tag that is not a text names none. -/
def typeName? (tag : Tag) : Option String :=
  if tag.isLocal then
    let name := tag.octets.tail
    String.fromUTF8? (if name.isEmpty then tag.octets else name).toByteArray
  else
    none

/-- Whether a node may have the tag: there are no values of types that only the text names. -/
def isAdmissible (tag : Tag) : Bool := tag.typeName?.isNone

end Tag

end OpenApiTools.Yaml
