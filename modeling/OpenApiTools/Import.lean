import OpenApiTools.Options
import OpenApiTools.Tool

/-!
# Importing a document

The whole way from a text to its tools. The first stage that fails decides the error.
-/

namespace OpenApiTools

/-- Everything that is made from one document. -/
structure Toolset where
  title : String
  baseUrl : String
  security : Security
  tools : List Tool

namespace Toolset

/-- The tools of a document with what they belong to. -/
def ofDocument (options : Options) (document : Document) : Except ImportError Toolset := do
  let baseUrl ← document.baseUrl
  let security := document.security options.security
  let tools ← document.tools { baseUrl, security, nameSpace := options.effectiveNameSpace }
  return { title := document.title, baseUrl, security, tools }

/-- The tools of the document that a text holds. -/
def ofText (options : Options) (text : String) : Except ImportError Toolset :=
  Document.load text >>= ofDocument options

/-- The tools as JSON. -/
def toJson (toolset : Toolset) : Json :=
  .object
    [("title", .string toolset.title),
     ("baseUrl", .string toolset.baseUrl),
     ("security", toolset.security.toJson),
     ("tools", .array (toolset.tools.map Tool.toJson))]

end Toolset

end OpenApiTools
