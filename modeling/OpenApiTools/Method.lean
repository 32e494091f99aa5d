/-!
# Methods

The HTTP methods whose operations become tools.
-/

namespace OpenApiTools

/-- An HTTP method whose operations become tools. -/
inductive Method
  | get
  | post
  | put
  | delete
  | patch
  deriving DecidableEq, Repr

namespace Method

/-- All methods, in the order in which the operations of a path are listed. -/
def all : List Method := [.get, .post, .put, .delete, .patch]

/-- The key of a method's operation in a path item. -/
def key : Method → String
  | .get => "get"
  | .post => "post"
  | .put => "put"
  | .delete => "delete"
  | .patch => "patch"

/-- The name of a method. -/
def name : Method → String
  | .get => "GET"
  | .post => "POST"
  | .put => "PUT"
  | .delete => "DELETE"
  | .patch => "PATCH"

/-- The method with a name, spelled exactly so. -/
def ofName? (name : String) : Option Method :=
  all.find? (·.name == name)

/-- The place of a method among all. -/
def index (method : Method) : Nat :=
  all.idxOf method

/-- Whether the body of a request becomes part of a tool's input. -/
def acceptsBody : Method → Bool
  | .post | .put | .patch => true
  | .get | .delete => false

end Method

end OpenApiTools
