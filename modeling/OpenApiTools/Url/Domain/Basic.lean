import OpenApiTools.Url.Address
import OpenApiTools.Url.Domain.Label

/-!
# Domain names

A domain name is read character by character and then label by label. Where one label is written
from right to left, all labels have to keep the rules of direction. A name whose last label is a
number is an IPv4 address.
-/

namespace OpenApiTools.Url

/-- Whether the directions of labels agree. Nothing is asked of labels among which none goes from
right to left. -/
def Domain.directionsAgree (labels : List (List Char)) : Bool :=
  let directions := labels.map (·.map Domain.Direction.ofChar)
  !directions.any (·.any Domain.Direction.isBinding) || directions.all Domain.Direction.agree

/-- Whether a text is a domain name or an IPv4 address. -/
def isDomain (host : List Char) : Bool :=
  match unescape? host >>= Domain.read? with
  | none => false
  | some domain =>
    match (pieces '.' domain).mapM Domain.label? with
    | none => false
    | some labels =>
      !domain.isEmpty && labels.all Domain.isLabel && Domain.directionsAgree labels &&
        (!endsInNumber domain || isIpv4 domain)

end OpenApiTools.Url
