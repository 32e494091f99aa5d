import OpenApiTools.Yaml.Tag

/-!
# Tokens of YAML texts

The tokens between which layout has been made explicit: block collections have a start and an end,
and every key of a mapping is announced.
-/

namespace OpenApiTools.Yaml

/-- A token of a YAML text. -/
inductive Token
  | streamEnd
  | versionDirective (major minor : Nat)
  | tagDirective (handle : List Char) (start : List UInt8)
  | documentStart
  | documentEnd
  | blockSequenceStart
  | blockMappingStart
  | blockEnd
  | flowSequenceStart
  | flowSequenceEnd
  | flowMappingStart
  | flowMappingEnd
  | blockEntry
  | flowEntry
  | key
  | value
  | alias (name : String)
  | anchor (name : String)
  | tag (handle : List Char) (suffix : List UInt8)
  | scalar (text : String) (plain : Bool)
  deriving DecidableEq, Repr

end OpenApiTools.Yaml
