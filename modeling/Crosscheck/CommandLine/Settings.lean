import Crosscheck.Campaign.Basic
import Crosscheck.CommandLine.Options
import Crosscheck.Text.Line

/-!
# Settings

The options of the command line are laid over a campaign, that of the configuration
file or the default one. Each option replaces the field it names and no other, with
one exception: a new set of functions keeps only those variadic functions that are
in it. The merged campaign has to be one that can be run.
-/

namespace Crosscheck

open Text

/-- Why there are no settings. -/
inductive SettingsError where
  | operatorNotSingle (entry : String)
  | invalid (fault : CampaignFault)
deriving DecidableEq

/-- The causes behind a fault, the outermost first: a failure of the generator is
named again after the sentence that reports it. -/
def CampaignFault.causes : CampaignFault → List String
  | .generation error => [CampaignFault.message (.generation error), error.message]
  | fault => [fault.message]

/-- The explanation shown for missing settings. -/
def SettingsError.message : SettingsError → String
  | .operatorNotSingle entry => String.join ["Operator must be a single character: ", quoted entry]
  | .invalid fault => String.intercalate ": " ("Invalid configuration" :: fault.causes)

/-- A campaign and how to run it. -/
structure Settings where
  campaign : Campaign
  dryRun : Bool
  failOnDivergence : Bool
  logLevel : LogLevel
deriving DecidableEq

namespace Options

/-- The operator that an entry of the list stands for: what is left of it without
white space, which must be one character. -/
def readOperator (entry : String) : Except SettingsError Char :=
  match trim entry.toList with
  | [c] => .ok c
  | _ => .error (.operatorNotSingle entry)

/-- The words of a command line. -/
def readCommand (text : String) : List String := (words text.toList).map String.ofList

/-- The name that an entry of the list stands for. -/
def readFunction (entry : String) : String := String.ofList (trim entry.toList)

/-- Replaces the functions of a dialect and drops the variadic functions that are no
longer among them. -/
def withFunctions (d : Dialect) (functions : List String) : Dialect :=
  { d with functions, variadicFunctions := d.variadicFunctions.filter functions.contains }

/-- The dialect with the options laid over it. -/
def overlayDialect (o : Options) (d : Dialect) : Except SettingsError Dialect := do
  let operators ← match o.operators with
    | some entries => entries.mapM readOperator
    | none => pure d.operators
  let d := { d with operators }
  let d := match o.functions with
    | some entries => withFunctions d (entries.map readFunction)
    | none => d
  pure { d with maxExtraArguments := o.maxExtraArguments.getD d.maxExtraArguments }

/-- The campaign with the options laid over it. -/
def overlay (o : Options) (c : Campaign) : Except SettingsError Campaign := do
  let dialect ← o.overlayDialect c.dialect
  pure {
    rounds := o.rounds.getD c.rounds
    length := o.length.getD c.length
    seed := o.seed <|> c.seed
    dialect
    serviceUrl := o.referenceUrl.getD c.serviceUrl
    command := (o.candidate.map readCommand).getD c.command
    timeout := o.timeout.getD c.timeout
    tolerance := c.tolerance }

/-- The settings for a base campaign. -/
def settings (o : Options) (base : Campaign) : Except SettingsError Settings := do
  let campaign ← o.overlay base
  match campaign.fault? with
  | some fault => throw (.invalid fault)
  | none => pure {
      campaign
      dryRun := o.dryRun
      failOnDivergence := o.failOnDivergence
      logLevel := o.logLevel.getD .warn }

end Options

end Crosscheck
