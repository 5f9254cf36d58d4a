import OperatorKit.CommandLine.Run

/-!
# The program

Reads the files that the command line needs and the variables of the settings, and leaves all else
to `CommandLine.outcome`.
-/

open OperatorKit OperatorKit.Text

/-- The fault behind an error. A directory can be opened, so the error comes from reading it and
names no path. -/
def faultOf : IO.Error → CommandLine.FileFault
  | .noFileOrDirectory .. => .notFound
  | .inappropriateType none .. => .isDirectory
  | .inappropriateType (some _) .. => .notADirectory
  | .invalidArgument _ _ "name too long" => .nameTooLong
  | error => .other (toString error)

/-- Reads a file, or says why it cannot be read. -/
def readContent (path : String) : IO (Except CommandLine.FileFault Bytes) := do
  try
    let content ← IO.FS.readBinFile path
    return .ok content.toList
  catch error => return .error (faultOf error)

/-- Looks up each name before the pure part runs. -/
def gather {α : Type} (lookUp : String → IO α) (names : List String) : IO (List (String × α)) :=
  names.mapM fun name => return (name, ← lookUp name)

/-- Runs the command line. -/
def main (arguments : List String) : IO UInt32 := do
  let files ← gather readContent (CommandLine.paths arguments)
  let environment ← gather (fun name => do return ← IO.getEnv name) Settings.variableNames
  let world : CommandLine.World := {
    readFile := fun path => (files.lookup path).getD (.error .notFound)
    valueOf := fun name => (environment.lookup name).join }
  let outcome := CommandLine.outcome world arguments
  (← IO.getStdout).putStr outcome.output
  (← IO.getStderr).putStr outcome.errorOutput
  return outcome.exitCode
