import OpenApiTools.Binary64.Basic
import OpenApiTools.Entries

/-!
# JSON values

Values keep the order of their keys. An object that has been read has no key twice, for its fields
have been entered one after the other.
-/

namespace OpenApiTools

/-- A JSON number: an integer of at most 64 bits, or a finite double. -/
inductive Json.Number
  | integer (value : Int)
  | double (value : Binary64)
  deriving DecidableEq, Repr

/-- A JSON value. -/
inductive Json
  | null
  | bool (value : Bool)
  | number (value : Json.Number)
  | string (value : String)
  | array (items : List Json)
  | object (fields : List (String × Json))
  deriving Repr

/-- The fields of an object in order. -/
abbrev Fields := Entries Json

namespace Json

/-- The fields, if the value is an object. -/
def asObject? : Json → Option Fields
  | .object fields => some fields
  | _ => none

/-- The items, if the value is an array. -/
def asArray? : Json → Option (List Json)
  | .array items => some items
  | _ => none

/-- The text, if the value is a string. -/
def asString? : Json → Option String
  | .string value => some value
  | _ => none

/-- The truth value, if the value is one. -/
def asBool? : Json → Option Bool
  | .bool value => some value
  | _ => none

/-- The value under a key, if the value is an object that has the key. -/
def get? (key : String) (value : Json) : Option Json :=
  value.asObject? >>= Entries.get? key

/-- The string under a key, if there is one. -/
def getString? (key : String) (value : Json) : Option String :=
  value.get? key >>= asString?

/-- The truth value under a key, if there is one. -/
def getBool? (key : String) (value : Json) : Option Bool :=
  value.get? key >>= asBool?

end Json

end OpenApiTools
