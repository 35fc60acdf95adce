import Offside.CommandLine.Outcome

/-!
# The command

Reads the file, writes what the run leaves behind and returns its exit code.
-/

namespace Offside.CommandLine

def readFile (file : String) : IO (Except ReadFailure ByteArray) := do
  try
    return .ok (← IO.FS.readBinFile file)
  catch error =>
    match error with
    | .noFileOrDirectory _ _ _ => return .error .missing
    | .inappropriateType _ _ _ => return .error .directory
    | other => return .error (.other (toString other))

end Offside.CommandLine

def main (arguments : List String) : IO UInt32 := do
  let outcome ← Offside.CommandLine.run Offside.CommandLine.readFile arguments
  (← IO.getStdout).putStr outcome.output
  (← IO.getStderr).putStr outcome.errors
  return outcome.exitCode
