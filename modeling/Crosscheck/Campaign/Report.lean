import Crosscheck.Evaluation.Verdict
import Crosscheck.Text.Message

/-!
# Reports

What is shown of a round, and the tally of the verdicts of a run.
-/

namespace Crosscheck

open Text

/-- Everything observed in one round. -/
structure RoundReport where
  round : Nat
  expression : String
  reference : Reply
  candidate : Reply
  verdict : Verdict

/-- How a round is shown: four lines. -/
def RoundReport.text (r : RoundReport) : String :=
  String.join [
    "Round ", numeral r.round, ": ", r.verdict.text, "\n",
    r.expression, "\n",
    "  reference: ", r.reference.text, "\n",
    "  candidate: ", r.candidate.text]

/-- The numbers of rounds with each verdict. -/
structure Tally where
  seed : UInt64
  rounds : Nat := 0
  agreements : Nat := 0
  bothErrored : Nat := 0
  divergences : Nat := 0
  unreachable : Nat := 0
deriving DecidableEq

namespace Tally

/-- Counts one more round. -/
def record (t : Tally) : Verdict → Tally
  | .agree => { t with rounds := t.rounds + 1, agreements := t.agreements + 1 }
  | .bothErrored => { t with rounds := t.rounds + 1, bothErrored := t.bothErrored + 1 }
  | .divergence => { t with rounds := t.rounds + 1, divergences := t.divergences + 1 }
  | .unreachable => { t with rounds := t.rounds + 1, unreachable := t.unreachable + 1 }

/-- How a tally is shown. -/
def text (t : Tally) : String :=
  String.join [
    numeral t.rounds, " rounds (seed ", numeral t.seed.toNat, "): ",
    numeral t.agreements, " agree, ", numeral t.bothErrored, " both errored, ",
    numeral t.divergences, " diverged, ", numeral t.unreachable, " unreachable"]

end Tally

end Crosscheck
