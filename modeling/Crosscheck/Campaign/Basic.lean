import Crosscheck.Evaluation.Verdict
import Crosscheck.Generation.Error

/-!
# Campaigns

A campaign says how many expressions of which dialect and length are given to the
two evaluators, where the evaluators are, how long each may take, and how far apart
their numbers may be. `Campaign.fault?` gives the first reason why a campaign would
be meaningless.
-/

namespace Crosscheck

/-- The plan of a whole run. -/
structure Campaign where
  rounds : Nat := 3
  length : Nat := 1000
  /-- The base seed; chosen at random when there is none. -/
  seed : Option UInt64 := none
  dialect : Dialect := {}
  /-- Where the reference evaluator listens. -/
  serviceUrl : String := "http://api.mathjs.org/v4/"
  /-- The candidate evaluator: a program and its arguments. -/
  command : List String := ["java", "-jar", "app-1.0.0.jar"]
  /-- How many milliseconds each evaluator has for an expression. -/
  timeout : UInt64 := 10000
  tolerance : Tolerance := {}
deriving DecidableEq

/-- Why a campaign cannot be run. -/
inductive CampaignFault where
  | generation (error : GenerationError)
  | noRounds
  | noCommand
  | noTimeout
  | invalidTolerance
deriving DecidableEq

/-- The explanation shown for a fault. -/
def CampaignFault.message : CampaignFault → String
  | .generation error => String.join ["Invalid generator configuration: ", error.message]
  | .noRounds => "Number of rounds must be at least 1"
  | .noCommand => "Candidate command cannot be empty"
  | .noTimeout => "Evaluator timeout must be at least 1 ms"
  | .invalidTolerance => "Tolerances must be finite and non-negative"

namespace Campaign

instance : Inhabited Campaign := ⟨{}⟩

/-- Whether both bounds of the tolerance can be compared with. -/
def hasTolerance (c : Campaign) : Bool :=
  Tolerance.isBound c.tolerance.absolute && Tolerance.isBound c.tolerance.relative

/-- The first reason why the campaign cannot be run. -/
def fault? (c : Campaign) : Option CampaignFault :=
  match c.dialect.fault? with
  | some fault => some (.generation (.dialect fault))
  | none =>
    if c.length < minimumLength then some (.generation (.lengthTooShort c.length))
    else if c.rounds = 0 then some .noRounds
    else if c.command.isEmpty then some .noCommand
    else if c.timeout = 0 then some .noTimeout
    else if !c.hasTolerance then some .invalidTolerance
    else none

/-- Accepts campaigns that can be run. -/
def validate (c : Campaign) : Except CampaignFault Unit :=
  match c.fault? with
  | some fault => .error fault
  | none => .ok ()

end Campaign

end Crosscheck
