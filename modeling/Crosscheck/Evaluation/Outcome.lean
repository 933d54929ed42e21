import Crosscheck.Binary64.Decimal
import Crosscheck.Binary64.Shortest
import Crosscheck.Text.Line
import Crosscheck.Text.Message

/-!
# What evaluators answer

An evaluator that is asked for the value of an expression yields an outcome: a
number, or a report that it refused the expression. When there is not even that,
the evaluator failed.
-/

namespace Crosscheck

open Text

/-- What an evaluator answered. -/
inductive Outcome where
  | value (number : Binary64)
  /-- The evaluator took the expression and reported an error. -/
  | error (report : String)
deriving DecidableEq

/-- Why there is no outcome. -/
inductive EvaluatorFailure where
  | unreachable (detail : String)
  | notStarted (detail : String)
  | timedOut (milliseconds : UInt64)
  | malformedReply (detail : String)
  /-- The input for the evaluator could not be prepared. -/
  | input (detail : String)
deriving DecidableEq

/-- An outcome, or the reason why there is none. -/
abbrev Reply := Except EvaluatorFailure Outcome

/-- Reads what an evaluator wrote: a number, or else an error report. White space
around either is dropped. -/
def Outcome.ofText (text : List Char) : Outcome :=
  match Binary64.read (trim text) with
  | some x => .value x
  | none => .error (String.ofList (trim text))

/-- How an outcome is shown. -/
def Outcome.text : Outcome → String
  | .value x => x.text
  | .error report => String.join ["error: ", report]

/-- The explanation shown for a failure. -/
def EvaluatorFailure.message : EvaluatorFailure → String
  | .unreachable detail => String.join ["Evaluator unreachable: ", detail]
  | .notStarted detail => String.join ["Evaluator failed to start: ", detail]
  | .timedOut ms => String.join ["Evaluator timed out after ", numeral ms.toNat, " ms"]
  | .malformedReply detail => String.join ["Malformed evaluator response: ", detail]
  | .input detail => String.join ["I/O error while preparing evaluator input: ", detail]

/-- How a reply is shown. -/
def Reply.text : Reply → String
  | .ok outcome => outcome.text
  | .error failure => failure.message

end Crosscheck
