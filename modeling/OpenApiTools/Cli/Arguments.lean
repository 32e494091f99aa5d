import OpenApiTools.Digest.Basic
import OpenApiTools.Text.Digit

/-!
# Arguments

The options of the command line. Each may be given once; one that is not given takes its value from
an environment variable, if that is set.
-/

namespace OpenApiTools.Cli

/-- Why arguments are not accepted, or do not start a run. -/
inductive UsageError
  | unknownArgument
  /-- A value is missing or is none of those allowed. -/
  | invalidValue
  /-- A value is not a number in range. -/
  | valueValidation
  /-- An option is given twice. -/
  | argumentConflict
  /-- A flag is given a value. -/
  | tooManyValues
  | displayHelp
  | displayVersion
  deriving DecidableEq, Repr

/-- The options that take a value. -/
inductive ValueOption
  | url
  | file
  | nameSpace
  | securityScheme
  | config
  | output
  | timeoutSecs
  | specHash
  | specHashPolicy
  deriving DecidableEq, Repr

/-- The options without a value. -/
inductive Flag
  | pretty
  | logJson
  deriving DecidableEq, Repr

/-- Anything that can be set. -/
inductive Setting
  | value (option : ValueOption)
  | flag (flag : Flag)
  deriving DecidableEq, Repr

/-- The arguments of a run. -/
structure Arguments where
  url : Option String
  file : Option String
  nameSpace : Option String
  securityScheme : Option String
  config : Option String
  output : Option String
  pretty : Option Bool
  logJson : Option Bool
  timeoutSecs : Option UInt64
  specHash : Option String
  specHashPolicy : Option DigestPolicy
  deriving DecidableEq, Repr

namespace Setting

/-- All settings, in the order in which their variables are read. -/
def all : List Setting :=
  [.value .url, .value .file, .value .nameSpace, .value .securityScheme, .value .config,
   .value .output, .flag .pretty, .flag .logJson, .value .timeoutSecs, .value .specHash,
   .value .specHashPolicy]

/-- The words of a setting's name. -/
def words : Setting → List String
  | .value .url => ["url"]
  | .value .file => ["file"]
  | .value .nameSpace => ["namespace"]
  | .value .securityScheme => ["security", "scheme"]
  | .value .config => ["config"]
  | .value .output => ["output"]
  | .flag .pretty => ["pretty"]
  | .flag .logJson => ["log", "json"]
  | .value .timeoutSecs => ["timeout", "secs"]
  | .value .specHash => ["spec", "hash"]
  | .value .specHashPolicy => ["spec", "hash", "policy"]

/-- The name of the option. -/
def name (setting : Setting) : String :=
  "-".intercalate setting.words

/-- The name of the environment variable. -/
def variableName (setting : Setting) : String :=
  "OPENAPI_IMPORT_" ++ "_".intercalate (setting.words.map fun word =>
    String.ofList (word.toList.map Char.toUpper))

/-- The setting with an option's name. -/
def ofName? (name : String) : Option Setting :=
  all.find? (·.name == name)

end Setting

namespace Arguments

/-- No arguments. -/
def empty : Arguments :=
  ⟨none, none, none, none, none, none, none, none, none, none, none⟩

/-- Whether a setting has been made. -/
def has (arguments : Arguments) : Setting → Bool
  | .value .url => arguments.url.isSome
  | .value .file => arguments.file.isSome
  | .value .nameSpace => arguments.nameSpace.isSome
  | .value .securityScheme => arguments.securityScheme.isSome
  | .value .config => arguments.config.isSome
  | .value .output => arguments.output.isSome
  | .flag .pretty => arguments.pretty.isSome
  | .flag .logJson => arguments.logJson.isSome
  | .value .timeoutSecs => arguments.timeoutSecs.isSome
  | .value .specHash => arguments.specHash.isSome
  | .value .specHashPolicy => arguments.specHashPolicy.isSome

/-- A path, which may not be empty. -/
def readPath (value : String) : Except UsageError String :=
  if value.isEmpty then .error .invalidValue else .ok value

/-- A number of seconds: decimal digits, possibly after a plus sign, of at most 64 bits. -/
def readSeconds (value : String) : Except UsageError UInt64 :=
  let digits := match value.toList with
    | '+' :: rest => rest
    | chars => chars
  match Text.natural? 10 digits with
  | some seconds =>
    if seconds < UInt64.size then .ok (UInt64.ofNat seconds) else .error .valueValidation
  | none => .error .valueValidation

/-- The name of a policy. -/
def readPolicy (value : String) : Except UsageError DigestPolicy :=
  match DigestPolicy.ofName? value with
  | some policy => .ok policy
  | none => .error .invalidValue

/-- A truth value. -/
def readBool (value : String) : Except UsageError Bool :=
  if value = "true" then .ok true
  else if value = "false" then .ok false
  else .error .invalidValue

/-- Makes a setting with the text of its value. -/
def set (arguments : Arguments) (setting : Setting) (value : String) :
    Except UsageError Arguments :=
  match setting with
  | .value .url => .ok { arguments with url := value }
  | .value .file => return { arguments with file := ← readPath value }
  | .value .nameSpace => .ok { arguments with nameSpace := value }
  | .value .securityScheme => .ok { arguments with securityScheme := value }
  | .value .config => return { arguments with config := ← readPath value }
  | .value .output => return { arguments with output := ← readPath value }
  | .flag .pretty => return { arguments with pretty := ← readBool value }
  | .flag .logJson => return { arguments with logJson := ← readBool value }
  | .value .timeoutSecs => return { arguments with timeoutSecs := ← readSeconds value }
  | .value .specHash => .ok { arguments with specHash := value }
  | .value .specHashPolicy => return { arguments with specHashPolicy := ← readPolicy value }

/-- Makes a setting that must not have been made before. -/
def setOnce (arguments : Arguments) (setting : Setting) (value : String) :
    Except UsageError Arguments :=
  if arguments.has setting then .error .argumentConflict else arguments.set setting value

/-- An argument by its shape. -/
inductive Word
  /-- Two dashes: no options follow. -/
  | escape
  /-- Two dashes and a name, with a value behind an equals sign if it has one. -/
  | long (name : String) (value : Option String)
  /-- A dash and letters. -/
  | short (letters : List Char)
  | plain (text : String)
  deriving DecidableEq, Repr

/-- The shape of an argument. -/
def Word.ofString (argument : String) : Word :=
  match argument.toList with
  | ['-', '-'] => .escape
  | '-' :: '-' :: rest =>
    let name := String.ofList (rest.takeWhile (· != '='))
    match rest.dropWhile (· != '=') with
    | _ :: value => .long name (some (String.ofList value))
    | [] => .long name none
  | '-' :: first :: rest => .short (first :: rest)
  | _ => .plain argument

/-- An option whose value may still follow, and the value once it has been read. -/
structure Pending where
  option : ValueOption
  value : Option String

/-- Arguments that have been read in part. -/
structure Reading where
  arguments : Arguments
  pending : Option Pending
  escaped : Bool

namespace Reading

/-- Makes the setting that is pending, which must have got its value. -/
def settle (reading : Reading) : Except UsageError Reading :=
  match reading.pending with
  | none => .ok reading
  | some ⟨_, none⟩ => .error .invalidValue
  | some ⟨option, some value⟩ => do
    let arguments ← reading.arguments.setOnce (.value option) value
    return { reading with arguments, pending := none }

/-- Reads an option that has a name. -/
def readNamed (reading : Reading) (setting : Setting) (attached : Option String) :
    Except UsageError Reading :=
  match setting, attached with
  | .value option, none => do
    let reading ← reading.settle
    return { reading with pending := some ⟨option, none⟩ }
  | .value option, some value => do
    let reading ← reading.settle
    return { reading with arguments := ← reading.arguments.setOnce (.value option) value }
  | .flag _, some _ => .error .tooManyValues
  | .flag flag, none => do
    let reading ← reading.settle
    return { reading with arguments := ← reading.arguments.setOnce (.flag flag) "true" }

/-- Asks for a text instead of a run, once what is pending has been found in order. -/
def ask (reading : Reading) (request : UsageError) : Except UsageError Reading := do
  let _ ← reading.settle
  .error request

/-- Reads a long option. -/
def readLong (reading : Reading) (name : String) (attached : Option String) :
    Except UsageError Reading :=
  let request (error : UsageError) : Except UsageError Reading :=
    if attached.isSome then .error .tooManyValues else reading.ask error
  if name = "help" then request .displayHelp
  else if name = "version" then request .displayVersion
  else
    match Setting.ofName? name with
    | some setting => reading.readNamed setting attached
    | none => .error .unknownArgument

/-- Reads short options, of which the first decides. -/
def readShort (reading : Reading) : List Char → Except UsageError Reading
  | 'h' :: _ => reading.ask .displayHelp
  | 'V' :: _ => reading.ask .displayVersion
  | _ => .error .unknownArgument

/-- Reads a text that is not an option: the value of the option before it. -/
def readPlain (reading : Reading) (text : String) : Except UsageError Reading :=
  match reading.pending with
  | some ⟨option, none⟩ => .ok { reading with pending := some ⟨option, some text⟩ }
  | _ => .error .unknownArgument

/-- Reads one argument. -/
def step (reading : Reading) (argument : String) : Except UsageError Reading :=
  if reading.escaped then .error .unknownArgument
  else
    match Word.ofString argument with
    | .escape => .ok { reading with escaped := true }
    | .long name attached => reading.readLong name attached
    | .short letters => reading.readShort letters
    | .plain text => reading.readPlain text

end Reading

/-- The settings that a command line makes. -/
def ofCommandLine (line : List String) : Except UsageError Arguments := do
  let reading ← line.foldlM Reading.step ⟨empty, none, false⟩
  return (← reading.settle).arguments

/-- Makes a setting from its variable, unless it has been made or the variable is not set. -/
def fillFrom (environment : String → Option String) (arguments : Arguments) (setting : Setting) :
    Except UsageError Arguments :=
  match environment setting.variableName with
  | some value => if arguments.has setting then .ok arguments else arguments.set setting value
  | none => .ok arguments

/-- The arguments that a command line and the environment make up. -/
def parse (environment : String → Option String) (line : List String) :
    Except UsageError Arguments := do
  Setting.all.foldlM (fillFrom environment) (← ofCommandLine line)

end Arguments

end OpenApiTools.Cli
