import OpenApiTools.Cli.Run

/-!
# The program

Gathers what a run reads, performs it and writes its output. Addresses cannot be fetched here.
-/

namespace OpenApiTools.Cli

/-- Reads a file. -/
def readFile (path : String) : IO (Except FileError ByteArray) := do
  try
    return .ok (← IO.FS.readBinFile path)
  catch
    | .noFileOrDirectory .. => return .error .notFound
    | _ => return .error .unreadable

/-- Reads the variables that a run may look up. -/
def readVariables : IO (String → Option String) := do
  let names := configHomeVariable :: homeVariable :: Setting.all.map Setting.variableName
  let values ← names.mapM fun name => do return (name, ← IO.getEnv name)
  return fun name => (values.lookup name).join

/-- Reads everything that a run with its arguments may look up. -/
def readSurroundings (environment : String → Option String) (arguments : Arguments) :
    IO Surroundings := do
  let paths := (configPath? environment arguments).toList ++ arguments.file.toList
  let files ← paths.mapM fun path => do return (path, ← readFile path)
  return {
    environment
    fileBytes := fun path => (files.lookup path).getD (.error .notFound)
    addressText? := fun _ _ => none }

/-- Writes the output of a run. -/
def writeOutput (output : Output) : IO UInt32 := do
  match output.path with
  | none => IO.print output.text
  | some path =>
    try
      IO.FS.writeFile path output.text
    catch _ =>
      IO.eprintln ("Error: write " ++ path)
      return 1
  return 0

/-- Says what is wrong with a command line. -/
def reportUsage (error : UsageError) : IO UInt32 := do
  let options := Setting.all.map fun setting => "--" ++ setting.name
  let usage := "Options: " ++ " ".intercalate options
  match error with
  | .displayHelp | .displayVersion =>
    IO.println usage
    return 0
  | _ =>
    IO.eprintln usage
    return 2

end OpenApiTools.Cli

open OpenApiTools.Cli in
/-- Runs the program. -/
def main (line : List String) : IO UInt32 := do
  let environment ← readVariables
  match Arguments.parse environment line with
  | .error error => reportUsage error
  | .ok arguments =>
    match run (← readSurroundings environment arguments) arguments with
    | .ok output => writeOutput output
    | .error error =>
      IO.eprintln ("Error: " ++ error.message)
      return 1
