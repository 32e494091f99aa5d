import OpenApiTools.Document
import OpenApiTools.Text.Case

/-!
# Security schemes

What a caller has to present to an API. A document may declare several schemes under names; one of
them is chosen, the first or one with a given name.
-/

namespace OpenApiTools

/-- What a caller has to present. -/
inductive Security
  | none
  | apiKey (headerName location : String)
  | bearer (format : String)
  | basic
  | oauth2 (flows : Json)

/-- Which of the declared schemes counts. -/
inductive SchemeChoice
  | first
  | named (name : String)
  deriving DecidableEq, Repr

namespace Security

/-- The name of the kind of scheme. -/
def kind? : Security → Option String
  | .none => Option.none
  | .apiKey .. => some "apiKey"
  | .bearer _ => some "bearer"
  | .basic => some "basic"
  | .oauth2 _ => some "oauth2"

/-- The scheme that uses HTTP authentication as declared. -/
def ofHttpScheme (scheme : Json) : Security :=
  let name := (scheme.getString? "scheme").getD ""
  if Text.sameIgnoringAsciiCase name "bearer" then
    .bearer ((scheme.getString? "bearerFormat").getD "JWT")
  else if Text.sameIgnoringAsciiCase name "basic" then
    .basic
  else
    .none

/-- The flows of a scheme; absent or null ones are an empty object. -/
def flows (scheme : Json) : Json :=
  match scheme.get? "flows" with
  | Option.none | some .null => .object []
  | some value => value

/-- The scheme that a declaration describes. Unknown kinds count as none. -/
def ofScheme (scheme : Json) : Security :=
  let kind := (scheme.getString? "type").getD ""
  if Text.sameIgnoringAsciiCase kind "apiKey" then
    .apiKey ((scheme.getString? "name").getD "X-API-KEY") ((scheme.getString? "in").getD "header")
  else if Text.sameIgnoringAsciiCase kind "http" then
    ofHttpScheme scheme
  else if Text.sameIgnoringAsciiCase kind "oauth2" then
    .oauth2 (flows scheme)
  else
    .none

/-- The fields that are particular to the kind of scheme. -/
def details : Security → Fields
  | .apiKey headerName location =>
    [("header_name", .string headerName), ("in", .string location)]
  | .bearer format => [("bearer_format", .string format)]
  | .oauth2 flows => [("flows", flows)]
  | .none | .basic => []

/-- The scheme as JSON. -/
def toJson (security : Security) : Json :=
  .object (("auth_type", (security.kind?.map Json.string).getD .null) :: security.details)

/-- The placeholder for a key that is known only where tools are called. -/
def placeholderApiKey : String := "PLACEHOLDER_API_KEY"

/-- The headers that every call sends. Only an API key can be sent without a credential at hand. -/
def headers? : Security → Option (Entries String)
  | .apiKey headerName _ => some [(headerName, placeholderApiKey)]
  | _ => Option.none

end Security

namespace Document

/-- All declared schemes in order. -/
def schemes (document : Document) : Entries Security :=
  (document.securitySchemes?.getD []).mapValues Security.ofScheme

/-- The declaration that is chosen, if there is one. -/
def chosenScheme? (document : Document) (choice : SchemeChoice) : Option Json :=
  match choice with
  | .first => document.securitySchemes?.bind fun schemes => schemes.head?.map Prod.snd
  | .named name => document.securitySchemes?.bind (Entries.get? name)

/-- The chosen scheme. -/
def security (document : Document) (choice : SchemeChoice) : Security :=
  ((document.chosenScheme? choice).map Security.ofScheme).getD .none

/-- The scheme that counts if no one chooses: the first one. -/
def defaultSecurity (document : Document) : Security :=
  document.security .first

end Document

end OpenApiTools
