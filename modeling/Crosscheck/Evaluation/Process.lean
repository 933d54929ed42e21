import Crosscheck.Evaluation.Outcome
import Crosscheck.Text.Utf8

/-!
# Evaluators run as a process

A candidate evaluator is a command that is given the name of a file with the
expression. Its answer is the last line of its output that is not blank. When the
process fails, the last such line of its error stream is the error report, unless
its exit code says that the command could not be run at all.
-/

namespace Crosscheck

open Text

/-- A command line: a program and its arguments. -/
structure ProcessCommand where
  program : String
  arguments : List String
deriving DecidableEq

namespace ProcessCommand

/-- The command made of a list of words, the first of which is the program. -/
def ofWords : List String → Except EvaluatorFailure ProcessCommand
  | [] => .error (.notStarted "Candidate command is empty")
  | program :: arguments => .ok ⟨program, arguments⟩

/-- The words of a command with spaces between them. -/
def line (c : ProcessCommand) : String := String.intercalate " " (c.program :: c.arguments)

end ProcessCommand

/-- How a process ended. -/
structure ProcessResult where
  /-- The exit code, if the process was not ended by a signal. -/
  code : Option Int
  stdout : List UInt8
  stderr : List UInt8

/-- The exit codes of a launcher whose command was not executable or not found. -/
def launchFailureCodes : List Int := [126, 127]

/-- The failure that an exit code of a launcher amounts to. -/
def launchFailure? (code : Option Int) (stderr : List Char) : Option EvaluatorFailure :=
  (code.filter launchFailureCodes.contains).map fun code =>
    .notStarted (String.join ["exit status ", numeral code.natAbs, ": ",
      ((lastLine? stderr).map String.ofList).getD "command could not be executed"])

/-- Reads the output of a process: on success the last line of its output, otherwise
the last line of its error stream or, failing that, of its output. -/
def interpretOutput (success : Bool) (stdout stderr : List Char) : Outcome :=
  if success then
    match lastLine? stdout with
    | some line => .ofText line
    | none => .error "no output"
  else
    match lastLine? stderr <|> lastLine? stdout with
    | some line => .error (String.ofList line)
    | none => .error "non-zero exit status"

/-- The reply of a process with the given output texts. -/
def processReply (code : Option Int) (stdout stderr : List Char) : Reply :=
  if code = some 0 then .ok (interpretOutput true stdout stderr)
  else
    match launchFailure? code stderr with
    | some failure => .error failure
    | none => .ok (interpretOutput false stdout stderr)

/-- The reply of a process that ended. -/
def ProcessResult.reply (r : ProcessResult) : Reply :=
  processReply r.code (decodeLossy r.stdout) (decodeLossy r.stderr)

/-- The reply of a process that could not be started. -/
def ProcessCommand.launchError (c : ProcessCommand) (cause : String) : Reply :=
  .error (.notStarted (String.join [c.program, ": ", cause]))

end Crosscheck
