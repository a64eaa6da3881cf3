import Testbed.CommandLine.Report

/-!
# The program

Reads the runbook that the arguments name and prints what the command reports.
-/
namespace Testbed

/-- The content of a file of the system, or the nearest of the library's file errors. -/
def readSystemFile (path : String) : IO (Except FileError String) := do
  try
    return .ok (← IO.FS.readFile path)
  catch error =>
    match error with
    | .noFileOrDirectory .. => return .error .notFound
    | .inappropriateType .. => return .error .isDirectory
    | _ => return .error .notDirectory

end Testbed

def main (arguments : List String) : IO UInt32 := do
  let command := Testbed.CommandLine.Command.ofArguments? arguments
  let content ← match command.bind Testbed.CommandLine.Command.runbook? with
    | some path => Testbed.readSystemFile path
    | none => pure (.error .notFound)
  let outcome := Testbed.CommandLine.run (fun _ => content) arguments
  IO.print outcome.stdout
  IO.eprint outcome.stderr
  return outcome.exit.toUInt32
