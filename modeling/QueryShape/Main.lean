import QueryShape.Command.Execution
import QueryShape.Pattern.Engine

/-!
# The command line

Reads the files that an invocation names, carries it out, and writes what it leaves behind.
-/

namespace QueryShape.Command

def UsageError.message : UsageError → String
  | .helpAsked => "a command is one of check, graph, compile, parse and version"
  | .versionAsked => s!"{programName} {programVersion}"
  | .nothingAsked | .missingCommand => "a command is missing"
  | .unknownCommand => "there is no such command"
  | .unknownArgument => "an argument is unknown"
  | .missingArgument => "an argument is missing"
  | .repeatedArgument => "an argument is repeated"
  | .missingValue => "a value is missing"
  | .invalidValue => "a value is invalid"
  | .unexpectedValue => "a value is not expected"

def UsageError.exitCode : UsageError → UInt32
  | .helpAsked | .versionAsked => 0
  | _ => 2

/-- The paths of the files that a task reads. -/
def Task.paths : Task → List String
  | .check schema _ | .graph schema _ _ | .compile schema _ _ _ => [schema]
  | .parse schema _ _ input _ _ => if isStandardInput input then [schema] else [schema, input]
  | .version => []

def Task.readsStandardInput : Task → Bool
  | .parse _ _ _ input _ _ => isStandardInput input
  | _ => false

def CommandError.message : CommandError → String
  | .schema error => error.message
  | .query error => error.message
  | .misread error => error.message
  | .unreadable reason => reason

def reasonOf : IO.Error → String
  | .noFileOrDirectory _ _ _ => "No such file or directory (os error 2)"
  | error => toString error

def readFile (path : String) : IO (String × Except String String) := do
  try
    return (path, .ok (← IO.FS.readFile path))
  catch error =>
    return (path, .error (reasonOf error))

def readSources (task : Task) : IO Sources := do
  let files ← task.paths.mapM readFile
  let standardInput ← if task.readsStandardInput then (← IO.getStdin).readToEnd else pure ""
  return {
    file path := (Keyed.get? files path).getD (.error "the file has not been read")
    standardInput }

end QueryShape.Command

open QueryShape.Command in
def main (arguments : List String) : IO UInt32 := do
  match Invocation.ofArguments arguments with
  | .error error =>
      IO.eprintln error.message
      return error.exitCode
  | .ok invocation =>
      match invocation.run QueryShape.Pattern.engine (← readSources invocation.task) with
      | .error error =>
          IO.eprintln s!"Error: {error.message}"
          return 1
      | .ok report =>
          IO.print report.output
          IO.eprint report.errors
          return report.exitCode.toUInt32
