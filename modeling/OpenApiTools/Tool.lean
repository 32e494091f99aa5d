import OpenApiTools.BaseUrl
import OpenApiTools.Schema.Synthesis
import OpenApiTools.Security
import OpenApiTools.ToolName

/-!
# Tools

Every operation of a document becomes a tool: the paths in the order of the document, and the
operations of a path in the order of the methods.
-/

namespace OpenApiTools

/-- A tool that calls one operation. -/
structure Tool where
  name : String
  displayName : String
  url : String
  description : String
  method : Method
  headers : Option (Entries String)
  input : InputSchema
  tags : List String

/-- What tools of one document have in common. -/
structure ToolContext where
  baseUrl : String
  security : Security
  nameSpace : Option String

namespace Tool

/-- The string under a key, unless it is empty. -/
def nonEmptyString? (operation : Json) (key : String) : Option String :=
  (operation.getString? key).filter (!·.isEmpty)

/-- The tags of an operation that are strings. -/
def tagsOf (operation : Json) : List String :=
  (((operation.get? "tags").bind Json.asArray?).getD []).filterMap Json.asString?

/-- The description of an operation: its summary, or else its description, or else its method and
path. -/
def descriptionOf (path : String) (method : Method) (operation : Json) : String :=
  ((nonEmptyString? operation "summary").or (nonEmptyString? operation "description")).getD
    (method.name ++ " " ++ path)

/-- The tool of an operation. -/
def ofOperation (context : ToolContext) (path : String) (method : Method) (operation : Json) :
    Tool :=
  let name :=
    ToolName.resolve (nonEmptyString? operation "operationId") method.name path context.nameSpace
  { name
    displayName := (operation.getString? "summary").getD name
    url := joinUrl context.baseUrl path
    description := descriptionOf path method operation
    method
    headers := context.security.headers?
    input := .ofOperation path (Parameter.listOfJson (operation.get? "parameters"))
      ((operation.get? "requestBody").bind RequestBody.ofJson?) method
    tags := tagsOf operation }

/-- How tools are invoked. -/
def integrationType : String := "REST"

/-- The tool as JSON. Headers are left out if there are none. -/
def toJson (tool : Tool) : Json :=
  let headers : Fields := tool.headers.toList.map fun headers =>
    ("headers", .object (headers.mapValues .string))
  .object
    ([("name", .string tool.name),
      ("displayName", .string tool.displayName),
      ("url", .string tool.url),
      ("description", .string tool.description),
      ("integrationType", .string integrationType),
      ("httpMethod", .string tool.method.name)]
      ++ headers ++
      [("inputSchema", tool.input.toJson),
       ("tags", .array (tool.tags.map .string))])

/-- The tools of the operations of a path item. -/
def ofPathItem (context : ToolContext) (path : String) (item : Json) : List Tool :=
  Method.all.filterMap fun method => (item.get? method.key).map (ofOperation context path method)

/-- The names that several tools have, in the order in which they first occur. -/
def repeatedNames (tools : List Tool) : List String :=
  let names := tools.map Tool.name
  let note (found : List String) (name : String) : List String :=
    if 1 < names.count name && !found.contains name then found ++ [name] else found
  names.foldl note []

end Tool

/-- The tools of a document. -/
def Document.tools (document : Document) (context : ToolContext) :
    Except ImportError (List Tool) :=
  match document.paths? with
  | some (first :: rest) =>
    .ok ((first :: rest).flatMap fun (path, item) => Tool.ofPathItem context path item)
  | _ => .error .noPaths

end OpenApiTools
