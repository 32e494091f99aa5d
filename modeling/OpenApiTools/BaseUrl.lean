import OpenApiTools.Document
import OpenApiTools.Text.Blank

/-!
# Addresses

The base address of an API is that of its first server without trailing slashes, and an operation's
address is the base address joined with its path by a single slash.
-/

namespace OpenApiTools

/-- An address without the slashes at its end. -/
def trimTrailingSlashes (address : String) : String :=
  String.ofList (Text.dropTrailing (· == '/') address.toList)

/-- A path without the slashes at its start. -/
def trimLeadingSlashes (path : String) : String :=
  String.ofList (path.toList.dropWhile (· == '/'))

/-- The address of a path under a base address. -/
def joinUrl (baseUrl path : String) : String :=
  trimTrailingSlashes baseUrl ++ "/" ++ trimLeadingSlashes path

/-- The base address of the API. -/
def Document.baseUrl (document : Document) : Except ImportError String :=
  match document.servers? with
  | some (server :: _) =>
    let address := (server.getString? "url").getD ""
    if Text.isBlank address then .error .emptyServerUrl else .ok (trimTrailingSlashes address)
  | _ => .error .missingServers

end OpenApiTools
