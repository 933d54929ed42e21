import Crosscheck.Campaign.Basic
import Crosscheck.Campaign.Report
import Crosscheck.Generation.Seeded
import Crosscheck.Grammar.Shape

/-!
# Running a campaign

A round takes an expression from a source, checks it against the dialect, gives it
to both evaluators and compares what comes back. The run stops at the first round
whose expression is missing or not valid, or whose check breaks off; what the
evaluators answer never stops it.

Evaluators are described by their behaviour: the reply to a text may depend on all
the texts asked before, and there may be none before the deadline. A journal records
what the source and the evaluators were asked and what was reported, in order.
-/

namespace Crosscheck

/-- Where the expressions of the rounds come from, given the base seed. -/
abbrev ExpressionSource := UInt64 → Nat → Except GenerationError String

/-- The expressions that a campaign draws from its dialect. -/
def Campaign.source (c : Campaign) (patience : Nat := defaultPatience) : ExpressionSource :=
  fun seed round => c.dialect.expression c.length seed round patience

/-- The behaviour of an evaluator: its reply to a text, given the texts asked before,
or `none` when it does not answer before the deadline. -/
abbrev Evaluator := Array String → String → Option Reply

/-- What happened so far in a run. -/
structure Journal where
  /-- The rounds for which the source was asked. -/
  requested : Array Nat := #[]
  askedReference : Array String := #[]
  askedCandidate : Array String := #[]
  reports : Array RoundReport := #[]

/-- What is written to standard output for the reports: each followed by a blank line. -/
def Journal.printed (j : Journal) : String :=
  String.join (j.reports.toList.map fun report => String.join [report.text, "\n\n"])

/-- Why a run stopped. -/
inductive RunError where
  | generation (error : GenerationError)
  | invalidExpression (round : Nat) (expression : String) (violation : Violation)
  /-- The check of an expression broke off, and the whole program with it. -/
  | overflow
deriving DecidableEq

/-- The explanation shown for a stop. -/
def RunError.message : RunError → String
  | .generation error => String.join ["Generator error: ", error.message]
  | .invalidExpression round expression violation =>
    String.join ["Round ", Text.numeral round, " produced an invalid expression (",
      violation.message, "): ", expression]
  | .overflow => "attempt to add with overflow"

/-- A campaign with a source of expressions and the two evaluators. -/
structure Contest where
  campaign : Campaign
  source : ExpressionSource
  reference : Evaluator
  candidate : Evaluator

/-- Actions of a run, which keep the journal when they stop. -/
abbrev Running := ExceptT RunError (StateM Journal)

namespace Contest

/-- A campaign over the expressions that it draws itself. -/
def seeded (campaign : Campaign) (reference candidate : Evaluator)
    (patience : Nat := defaultPatience) : Contest :=
  { campaign, source := campaign.source patience, reference, candidate }

/-- The expression for a round, checked against the dialect. -/
def expression (c : Contest) (seed : UInt64) (round : Nat) : Running String := do
  modify fun j => { j with requested := j.requested.push round }
  match c.source seed round with
  | .error error => throw (.generation error)
  | .ok text =>
    match c.campaign.dialect.check text with
    | .error (.violation violation) => throw (.invalidExpression round text violation)
    | .error .overflow => throw .overflow
    | .ok _ => pure text

/-- A missing reply counts as a timeout. -/
def withinDeadline (c : Contest) : Option Reply → Reply
  | some reply => reply
  | none => .error (.timedOut c.campaign.timeout)

/-- Gives a text to the reference evaluator. -/
def askReference (c : Contest) (text : String) : Running Reply := do
  let asked := (← get).askedReference
  modify fun j => { j with askedReference := j.askedReference.push text }
  pure (c.withinDeadline (c.reference asked text))

/-- Gives a text to the candidate evaluator. -/
def askCandidate (c : Contest) (text : String) : Running Reply := do
  let asked := (← get).askedCandidate
  modify fun j => { j with askedCandidate := j.askedCandidate.push text }
  pure (c.withinDeadline (c.candidate asked text))

/-- One round, up to its report. -/
def runRound (c : Contest) (seed : UInt64) (round : Nat) : Running RoundReport := do
  let text ← c.expression seed round
  let reference ← c.askReference text
  let candidate ← c.askCandidate text
  pure ⟨round, text, reference, candidate, Verdict.of c.campaign.tolerance reference candidate⟩

/-- The rounds from `round` on, `count` of them, added to a tally. -/
def runRounds (c : Contest) (seed : UInt64) : (count round : Nat) → Tally → Running Tally
  | 0, _, tally => pure tally
  | count + 1, round, tally => do
    let report ← c.runRound seed round
    modify fun j => { j with reports := j.reports.push report }
    c.runRounds seed count (round + 1) (tally.record report.verdict)

/-- All rounds of the campaign. -/
def run (c : Contest) (seed : UInt64) : Running Tally :=
  c.runRounds seed c.campaign.rounds 0 { seed }

end Contest

end Crosscheck
