import OpenApiTools.Digest.Basic
import OpenApiTools.Json.Record

/-!
# The configuration file

Defaults for the command line, read from the bytes of a JSON file. Its keys and the strings in known
fields must be texts; what a field that is not known holds does not matter.
-/

namespace OpenApiTools.Cli

/-- The settings of a configuration file. -/
structure Config where
  nameSpace : Option String
  securityScheme : Option String
  /-- How many seconds a fetch may take. -/
  fetchTimeout : Option UInt64
  digestPolicy : Option DigestPolicy
  deriving DecidableEq, Repr

namespace Config

/-- No settings. -/
def empty : Config := ⟨none, none, none, none⟩

/-- How many seconds a fetch may take if no one says otherwise. -/
def defaultTimeout : UInt64 := 30

/-- How many seconds a fetch may take. -/
def effectiveTimeout (config : Config) : UInt64 :=
  config.fetchTimeout.getD defaultTimeout

/-- The names of the fields in order. -/
def fieldNames : List String :=
  ["namespace", "securityScheme", "fetchTimeoutSecs", "specHashPolicy"]

/-- An optional value as JSON. -/
def optional {α : Type} (encode : α → Json) (value : Option α) : Json :=
  (value.map encode).getD .null

/-- The values of the fields as JSON, in order. -/
def fieldValues (config : Config) : List Json :=
  [optional .string config.nameSpace,
   optional .string config.securityScheme,
   optional (fun seconds => .number (.integer seconds.toNat)) config.fetchTimeout,
   optional (fun policy => .string policy.name) config.digestPolicy]

/-- The settings as JSON. -/
def toJson (config : Config) : Json :=
  .object (fieldNames.zip config.fieldValues)

/-- Reads a policy. -/
def policyOfTree? (tree : Json.Tree) : Option DigestPolicy := do
  let (name, content) ← Json.Record.alternative? tree
  if Json.Record.isUnit content then DigestPolicy.ofName? name else none

/-- Reads settings. -/
def ofTree? (tree : Json.Tree) : Option Config :=
  match Json.Record.fields? fieldNames tree with
  | some [nameSpace, securityScheme, fetchTimeout, digestPolicy] => do
    let nameSpace ← Json.Record.optional? Json.Record.string? nameSpace
    let securityScheme ← Json.Record.optional? Json.Record.string? securityScheme
    let seconds ← Json.Record.optional? Json.Record.natural? fetchTimeout
    let digestPolicy ← Json.Record.optional? policyOfTree? digestPolicy
    some { nameSpace, securityScheme, fetchTimeout := seconds.map UInt64.ofNat, digestPolicy }
  | _ => none

/-- Reads settings from bytes. -/
def ofBytes? (bytes : ByteArray) : Option Config :=
  (Json.Tree.parseBytes? bytes).bind ofTree?

/-- The name of the file below the directory of configurations. -/
def fileName : String := "unrelated/openapi-import.json"

/-- Joins a directory and what is below it. -/
def joinPath (directory below : String) : String :=
  if directory.isEmpty || directory.toList.getLast? == some '/' then directory ++ below
  else directory ++ "/" ++ below

/-- Where the file is unless the command line says so: in the directory of configurations, or else
in the one below the home directory. -/
def defaultPath? (configHome home : Option String) : Option String :=
  match configHome, home with
  | some directory, _ => some (joinPath directory fileName)
  | none, some directory => some (joinPath (joinPath directory ".config") fileName)
  | none, none => none

end Config

end OpenApiTools.Cli
