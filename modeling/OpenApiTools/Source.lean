import OpenApiTools.Error
import OpenApiTools.Text.Blank

/-!
# Where a document comes from

A document is fetched from an address or given as a text. Exactly one of the two must be there;
blank ones count as absent.
-/

namespace OpenApiTools

/-- Where the text of a document comes from. -/
inductive Source
  | url (address : String)
  | inline (content : String)
  deriving DecidableEq, Repr

namespace Source

/-- The source that an optional address and an optional text make up. -/
def ofParts (url content : Option String) : Except ImportError Source :=
  match url.filter (!Text.isBlank ·), content.filter (!Text.isBlank ·) with
  | some address, none => .ok (.url address)
  | none, some text => .ok (.inline text)
  | none, none => .error .missingSource
  | some _, some _ => .error .ambiguousSource

/-- The address or text itself. -/
def value : Source → String
  | .url address => address
  | .inline content => content

/-- How reports refer to the source. -/
def location : Source → String
  | .url address => address
  | .inline _ => "inline"

end Source

end OpenApiTools
