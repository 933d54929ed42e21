import Crosscheck.Campaign.File
import Crosscheck.Campaign.Run
import Crosscheck.CommandLine.Settings
import Crosscheck.Evaluation.Process
import Crosscheck.Text.Utf8

/-!
# The program

The command line is read, laid over the configuration file, and carried out: the
expressions are only shown, or given to both evaluators. What surrounds the program, such
as files and evaluators, is described by a `Host`, so that a run is a function from the
host and the arguments to what is written and to the exit status.
-/

namespace Crosscheck

open Text

/-- What surrounds the program. -/
structure Host where
  /-- The bytes of a file, or why it cannot be read. -/
  fileContent : String → Except String (List UInt8)
  /-- The seed of a run that is given none. -/
  freshSeed : UInt64
  /-- The evaluator behind a web service. -/
  service : (url : String) → (timeout : UInt64) → Evaluator
  /-- The evaluator that a command is. -/
  process : ProcessCommand → Evaluator
  /-- The text shown when help is asked for. -/
  helpText : String := ""
  /-- The patience of the word sources. -/
  patience : Nat := defaultPatience

/-- Why no campaign was found in a configuration file. -/
inductive FileError where
  | unreadable (path cause : String)
  | malformed (path : String)
deriving DecidableEq

/-- What is said first of a configuration file that cannot be used. -/
def invalidFile (path : String) : String := String.join ["Invalid config file ", path]

/-- The explanation shown for a configuration file that cannot be used, the causes after
what they led to. -/
def FileError.message : FileError → String
  | .unreadable path cause =>
    String.intercalate ": "
      [invalidFile path, String.join ["Failed to read config file ", path], cause, cause]
  | .malformed path =>
    String.intercalate ": " [invalidFile path, "Failed to parse config"]

/-- Why there is nothing to run. -/
inductive ConfigurationError where
  | file (error : FileError)
  | settings (error : SettingsError)
deriving DecidableEq

/-- The explanation shown when there is nothing to run. -/
def ConfigurationError.message : ConfigurationError → String
  | .file error => error.message
  | .settings error => error.message

namespace Host

/-- The campaign of a configuration file. -/
def load (h : Host) (path : String) : Except FileError Campaign :=
  match h.fileContent path with
  | .error cause => .error (.unreadable path cause)
  | .ok bytes =>
    match decode? bytes with
    | none => .error (.unreadable path "stream did not contain valid UTF-8")
    | some text =>
      match Campaign.ofText? text with
      | some campaign => .ok campaign
      | none => .error (.malformed path)

/-- The settings for a command line: its options over the configuration file that it names,
or over the default campaign. -/
def configure (h : Host) (o : Options) : Except ConfigurationError Settings :=
  match o.config.mapM h.load with
  | .error e => .error (.file e)
  | .ok base => (o.settings (base.getD {})).mapError .settings

end Host

/-- What a run wrote, and its exit status. -/
structure ProgramResult where
  exit : Nat
  stdout : String := ""
  stderr : String := ""
deriving DecidableEq

namespace ProgramResult

/-- A run that was carried out. -/
def success (stdout : String) : ProgramResult := { exit := 0, stdout }

/-- A run that failed after writing to standard output. -/
def failure (stdout message : String) : ProgramResult :=
  { exit := 1, stdout, stderr := String.join ["Error: ", message, "\n"] }

/-- A run that broke off after writing to standard output. -/
def aborted (stdout message : String) : ProgramResult :=
  { exit := 101, stdout, stderr := String.join [message, "\n"] }

end ProgramResult

/-- The name and the version of the program. -/
def versionText : String := "calcfuzz 0.1.0\n"

/-- The causes behind a stopped run, the outermost first. -/
def RunError.causes : RunError → List String
  | .generation error => [RunError.message (.generation error), error.message]
  | error => [error.message]

namespace Host

/-- What is written first: the seed of the run. -/
def seedLine (seed : UInt64) : String := String.join ["Seed: ", numeral seed.toNat, "\n"]

/-- Shows the expressions of a campaign, one a line. -/
def dryRun (h : Host) (c : Campaign) (seed : UInt64) : ProgramResult :=
  match c.dialect.expressions c.length seed c.rounds h.patience with
  | .error e => .failure (seedLine seed) e.message
  | .ok texts => .success (String.join (seedLine seed :: texts.map fun text => String.join [text, "\n"]))

/-- The campaign with its two evaluators. -/
def contest (h : Host) (c : Campaign) (command : ProcessCommand) : Contest :=
  .seeded c (h.service c.serviceUrl c.timeout) (h.process command) h.patience

/-- Gives the expressions of a campaign to both evaluators. Divergent rounds make the run
fail only if that was asked for. -/
def evaluate (h : Host) (s : Settings) (seed : UInt64) : ProgramResult :=
  match ProcessCommand.ofWords s.campaign.command with
  | .error f => .failure (seedLine seed) f.message
  | .ok command =>
    let (result, journal) := ((h.contest s.campaign command).run seed).run {}
    let shown := String.join [seedLine seed, journal.printed]
    match result with
    | .error .overflow => .aborted shown RunError.overflow.message
    | .error e => .failure shown (String.intercalate ": " e.causes)
    | .ok tally =>
      let shown := String.join [shown, tally.text, "\n"]
      if s.failOnDivergence && 0 < tally.divergences then
        .failure shown (String.join [numeral tally.divergences, " divergent rounds"])
      else .success shown

/-- Carries out settings. -/
def carryOut (h : Host) (s : Settings) : ProgramResult :=
  let seed := s.campaign.seed.getD h.freshSeed
  if s.dryRun then h.dryRun s.campaign seed else h.evaluate s seed

/-- Runs the program with the arguments of its command line. -/
def run (h : Host) (arguments : List String) : ProgramResult :=
  match Options.read arguments with
  | .error .displayHelp => .success h.helpText
  | .error .displayVersion => .success versionText
  | .error _ => { exit := 2, stderr := "error: invalid command line\n" }
  | .ok options =>
    match h.configure options with
    | .error e => .failure "" e.message
    | .ok settings => h.carryOut settings

end Host

end Crosscheck
