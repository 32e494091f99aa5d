import OpenApiTools.Cli.Arguments
import OpenApiTools.Cli.Config
import OpenApiTools.Import
import OpenApiTools.Source
import OpenApiTools.Url.Basic

/-!
# A run of the command line

What a run does, as a function of its arguments and of the surroundings it reads: environment
variables, files and addresses. The first stage that fails decides the error, and only a run without
errors has an output.
-/

namespace OpenApiTools.Cli

/-- Why a file cannot be read. -/
inductive FileError
  | notFound
  | unreadable
  deriving DecidableEq, Repr

/-- What a run can read. -/
structure Surroundings where
  environment : String → Option String
  fileBytes : String → Except FileError ByteArray
  /-- The text at an address, if it can be fetched within a number of seconds. -/
  addressText? : String → UInt64 → Option String

/-- The text of a file. A file that holds no text cannot be read as one. -/
def Surroundings.fileText (surroundings : Surroundings) (path : String) :
    Except FileError String :=
  match surroundings.fileBytes path with
  | .error error => .error error
  | .ok bytes =>
    match String.fromUTF8? bytes with
    | some text => .ok text
    | none => .error .unreadable

/-- Why a run fails. -/
inductive RunError
  | configUnreadable (path : String)
  | configMalformed (path : String)
  | fileUnreadable (path : String)
  | source (cause : ImportError)
  | invalidUrl (address : String)
  | fetchFailed (address : String)
  | digest (mismatch : DigestMismatch)
  | importFailed (cause : ImportError)
  deriving DecidableEq, Repr

namespace RunError

/-- The message that reports the error. -/
def message : RunError → String
  | .configUnreadable path => "read config " ++ path
  | .configMalformed path => "parse " ++ path
  | .fileUnreadable path => "read spec " ++ path
  | .source cause => cause.message
  | .invalidUrl address => "invalid spec URL '" ++ address ++ "'"
  | .fetchFailed address => "GET " ++ address
  | .digest mismatch => mismatch.message
  | .importFailed _ => "import spec"

/-- The failed import behind the error, if that is its cause. -/
def cause? : RunError → Option ImportError
  | .source cause | .importFailed cause => some cause
  | _ => none

end RunError

/-- What a run writes, and where; without a path it goes to the standard output. -/
structure Output where
  path : Option String
  text : String
  deriving DecidableEq, Repr

/-- Reads a configuration file; one that does not exist has no settings. -/
def loadConfig (surroundings : Surroundings) (path : String) : Except RunError Config :=
  match surroundings.fileBytes path with
  | .error .notFound => .ok .empty
  | .error .unreadable => .error (.configUnreadable path)
  | .ok bytes =>
    match Config.ofBytes? bytes with
    | some config => .ok config
    | none => .error (.configMalformed path)

/-- The variable that holds the directory of configurations. -/
def configHomeVariable : String := "XDG_CONFIG_HOME"

/-- The variable that holds the home directory. -/
def homeVariable : String := "HOME"

/-- The configuration file of a run: the one that the arguments name, or else the usual one, if
there is a place for it. -/
def configPath? (environment : String → Option String) (arguments : Arguments) : Option String :=
  arguments.config.or
    (Config.defaultPath? (environment configHomeVariable) (environment homeVariable))

/-- The configuration of a run. -/
def effectiveConfig (surroundings : Surroundings) (arguments : Arguments) :
    Except RunError Config :=
  match configPath? surroundings.environment arguments with
  | some path => loadConfig surroundings path
  | none => .ok .empty

/-- The text of the file that the arguments name. -/
def readContent (surroundings : Surroundings) (arguments : Arguments) :
    Except RunError (Option String) :=
  match arguments.file with
  | none => .ok none
  | some path =>
    match surroundings.fileText path with
    | .ok text => .ok (some text)
    | .error _ => .error (.fileUnreadable path)

/-- The source that the arguments give. -/
def chooseSource (arguments : Arguments) (content : Option String) : Except RunError Source :=
  (Source.ofParts arguments.url content).mapError .source

/-- The text of a source. -/
def sourceText (surroundings : Surroundings) (seconds : UInt64) : Source → Except RunError String
  | .inline content => .ok content
  | .url address =>
    if Url.isValid address then
      match surroundings.addressText? address seconds with
      | some text => .ok text
      | none => .error (.fetchFailed address)
    else
      .error (.invalidUrl address)

/-- Checks a text against the digest that the arguments expect. -/
def checkDigest (arguments : Arguments) (config : Config) (text : String) : Except RunError Unit :=
  match arguments.specHash with
  | none => .ok ()
  | some expected =>
    let policy := (arguments.specHashPolicy.or config.digestPolicy).getD .warn
    (Digest.verify text expected policy).mapError .digest

/-- The options of the import: arguments come before the configuration file. -/
def importOptions (arguments : Arguments) (config : Config) : Options where
  nameSpace := arguments.nameSpace.or config.nameSpace
  security :=
    ((arguments.securityScheme.or config.securityScheme).map SchemeChoice.named).getD .first

/-- The text that a run writes: the tools as JSON and a line feed. -/
def renderOutput (isPretty : Bool) (toolset : Toolset) : String :=
  (if isPretty then toolset.toJson.pretty else toolset.toJson.compact) ++ "\n"

/-- A run with its arguments. -/
def run (surroundings : Surroundings) (arguments : Arguments) : Except RunError Output := do
  let config ← effectiveConfig surroundings arguments
  let content ← readContent surroundings arguments
  let source ← chooseSource arguments content
  let seconds := arguments.timeoutSecs.getD config.effectiveTimeout
  let text ← sourceText surroundings seconds source
  checkDigest arguments config text
  let toolset ← (Toolset.ofText (importOptions arguments config) text).mapError .importFailed
  return { path := arguments.output, text := renderOutput (arguments.pretty.getD false) toolset }

end OpenApiTools.Cli
