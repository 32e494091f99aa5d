/-!
# Why an import fails

Each cause of failure is a constructor; its wording is in one place.
-/

namespace OpenApiTools

/-- The cause for which a document yields no tools. -/
inductive ImportError
  /-- The text has neither a JSON nor a YAML reading. -/
  | malformed
  /-- The document is not an object. -/
  | rootNotObject
  /-- The document does not say which version of the format it uses. -/
  | missingVersion
  /-- The document declares no servers. -/
  | missingServers
  /-- The first server has no address. -/
  | emptyServerUrl
  /-- The document declares no paths. -/
  | noPaths
  /-- Neither an address nor a text has been given. -/
  | missingSource
  /-- Both an address and a text have been given. -/
  | ambiguousSource
  deriving DecidableEq, Repr

namespace ImportError

/-- The message that reports the cause. What a malformed text is reported with depends on where its
reading fails and is left open. -/
def message : ImportError → String
  | .malformed => "Failed to parse YAML"
  | .rootNotObject => "Invalid OpenAPI spec: root must be an object"
  | .missingVersion => "Invalid OpenAPI spec: missing 'openapi' or 'swagger' version field"
  | .missingServers => "No servers defined in OpenAPI spec. Cannot determine base URL."
  | .emptyServerUrl => "First server in OpenAPI spec has no URL"
  | .noPaths => "No paths defined in OpenAPI specification"
  | .missingSource => "Invalid argument: Either 'url' or 'content' must be provided"
  | .ambiguousSource => "Invalid argument: Provide either 'url' or 'content', not both"

end ImportError

end OpenApiTools
