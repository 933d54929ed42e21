import Crosscheck.CommandLine.Program

/-!
# The command

Runs the program on the arguments of the process. Files are read from disk. No evaluator
can be reached from here: the reference counts as unreachable and the candidate as not
started, so that dry runs are what this command is for. It shows nothing when help is asked for.
-/

open Crosscheck

/-- Why a file cannot be read. -/
def fileCause : IO.Error → String
  | .noFileOrDirectory .. => "No such file or directory (os error 2)"
  | .permissionDenied .. => "Permission denied (os error 13)"
  | .inappropriateType .. => "Is a directory (os error 21)"
  | e => toString e

/-- The bytes of a file. -/
def bytesOfFile (path : String) : IO (Except String (List UInt8)) := do
  try
    pure (.ok (← IO.FS.readBinFile path).toList)
  catch e =>
    pure (.error (fileCause e))

/-- The name of the configuration file, if there is one. -/
def configPath? (arguments : List String) : Option String :=
  match Options.read arguments with
  | .ok options => options.config
  | .error _ => none

def main (arguments : List String) : IO UInt32 := do
  let path := (configPath? arguments).getD ""
  let bytes ← bytesOfFile path
  let high ← IO.rand 0 0xFFFFFFFF
  let low ← IO.rand 0 0xFFFFFFFF
  let host : Host := {
    fileContent := fun _ => bytes
    freshSeed := UInt64.ofNat (high * UInt32.size + low)
    service := fun _ _ _ _ => some (.error (.unreachable "no connection"))
    process := fun command _ _ => some (command.launchError "cannot be started from here") }
  let result := host.run arguments
  IO.print result.stdout
  IO.eprint result.stderr
  pure (UInt32.ofNat result.exit)
