import Crosscheck.Text.Line

/-!
# Options of the command line

The arguments of a command line are read from left to right into the options they
set. A value is attached to its option (`--rounds=5`, `-r5`, `-r=5`) or is the next
argument, unless that looks like an option itself. An attached value is checked at
once; a separate one when the next argument has been recognised. Most options may be
given once; lists may be given several times and add up.
-/

namespace Crosscheck

/-- How much is logged. -/
inductive LogLevel where
  | error | warn | info | debug | trace
deriving DecidableEq

namespace LogLevel

/-- All levels. -/
def all : List LogLevel := [.error, .warn, .info, .debug, .trace]

/-- The name of a level on the command line. -/
def name : LogLevel → String
  | .error => "error"
  | .warn => "warn"
  | .info => "info"
  | .debug => "debug"
  | .trace => "trace"

/-- The level with a name. -/
def ofName? (name : String) : Option LogLevel := all.find? (·.name == name)

end LogLevel

/-- What a command line asks for. -/
structure Options where
  config : Option String := none
  rounds : Option Nat := none
  length : Option Nat := none
  seed : Option UInt64 := none
  operators : Option (List String) := none
  functions : Option (List String) := none
  maxExtraArguments : Option UInt64 := none
  referenceUrl : Option String := none
  candidate : Option String := none
  timeout : Option UInt64 := none
  dryRun : Bool := false
  failOnDivergence : Bool := false
  logLevel : Option LogLevel := none
deriving DecidableEq

/-- What is wrong with a command line, or which information it asks for instead. -/
inductive UsageError where
  | unknownArgument
  /-- A value is missing, empty, or not one of those allowed. -/
  | invalidValue
  /-- A value is not a number, or too large. -/
  | valueValidation
  /-- An option that may be given once is given again. -/
  | argumentConflict
  /-- A switch has a value. -/
  | tooManyValues
  | displayHelp
  | displayVersion
deriving DecidableEq

/-- The options that take a value. -/
inductive ValueOption where
  | config | rounds | length | seed | operators | functions | maxExtraArguments
  | referenceUrl | candidate | timeout | logLevel
deriving DecidableEq

/-- The options without a value. -/
inductive Switch where
  | dryRun | failOnDivergence | help | version
deriving DecidableEq

/-- An option of either kind. -/
inductive OptionName where
  | value (option : ValueOption)
  | switch (option : Switch)
deriving DecidableEq

namespace OptionName

/-- The option with a long name. -/
def ofLong? : String → Option OptionName
  | "config" => some (.value .config)
  | "rounds" => some (.value .rounds)
  | "length" => some (.value .length)
  | "seed" => some (.value .seed)
  | "operators" => some (.value .operators)
  | "functions" => some (.value .functions)
  | "max-extra-arguments" => some (.value .maxExtraArguments)
  | "reference-url" => some (.value .referenceUrl)
  | "candidate" => some (.value .candidate)
  | "timeout-ms" => some (.value .timeout)
  | "log-level" => some (.value .logLevel)
  | "dry-run" => some (.switch .dryRun)
  | "fail-on-divergence" => some (.switch .failOnDivergence)
  | "help" => some (.switch .help)
  | "version" => some (.switch .version)
  | _ => none

/-- The option with a one-letter name. -/
def ofShort? : Char → Option OptionName
  | 'c' => some (.value .config)
  | 'r' => some (.value .rounds)
  | 'l' => some (.value .logLevel)
  | 'h' => some (.switch .help)
  | 'V' => some (.switch .version)
  | _ => none

end OptionName

/-- What an argument is by its form alone. -/
inductive ArgumentForm where
  /-- The mark after which nothing is an option. -/
  | separator
  | long (name : String) (attached : Option String)
  | short (letter : Char) (attached : Option String)
  | plain (text : String)
deriving DecidableEq

/-- The form of an argument. A single dash is plain. -/
def ArgumentForm.of (argument : String) : ArgumentForm :=
  match argument.toList with
  | ['-', '-'] => .separator
  | '-' :: '-' :: rest =>
    let name := String.ofList (rest.takeWhile (· != '='))
    match rest.dropWhile (· != '=') with
    | [] => .long name none
    | _ :: value => .long name (some (String.ofList value))
  | '-' :: letter :: rest =>
    match rest with
    | [] => .short letter none
    | '=' :: value => .short letter (some (String.ofList value))
    | value => .short letter (some (String.ofList value))
  | _ => .plain argument

namespace Options

/-- Reads a decimal number of at most 64 bits, with an optional plus sign. -/
def readNumber (text : String) : Except UsageError Nat :=
  let digits := match text.toList with
    | '+' :: digits => digits
    | digits => digits
  if digits.isEmpty || !digits.all Char.isDigit then .error .valueValidation
  else
    let n := digits.foldl (fun n c => 10 * n + (c.toNat - 48)) 0
    if n < UInt64.size then .ok n else .error .valueValidation

/-- The items of a list value, which are separated by commas. -/
def readItems (text : String) : List String :=
  (Text.splitAtEach (· == ',') text.toList).map String.ofList

/-- Sets an option that may be given once. -/
def once {α : Type} (old : Option α) (read : Except UsageError α) :
    Except UsageError (Option α) :=
  if old.isSome then .error .argumentConflict else read.map some

/-- Sets an option to the text of its value. -/
def setValue (o : Options) (text : String) : ValueOption → Except UsageError Options
  | .config => do
    let path := if text.isEmpty then .error .invalidValue else .ok text
    pure { o with config := ← once o.config path }
  | .rounds => return { o with rounds := ← once o.rounds (readNumber text) }
  | .length => return { o with length := ← once o.length (readNumber text) }
  | .seed => return { o with seed := ← once o.seed ((readNumber text).map UInt64.ofNat) }
  | .operators => .ok { o with operators := some (o.operators.getD [] ++ readItems text) }
  | .functions => .ok { o with functions := some (o.functions.getD [] ++ readItems text) }
  | .maxExtraArguments => return { o with
      maxExtraArguments := ← once o.maxExtraArguments ((readNumber text).map UInt64.ofNat) }
  | .referenceUrl => return { o with referenceUrl := ← once o.referenceUrl (.ok text) }
  | .candidate => return { o with candidate := ← once o.candidate (.ok text) }
  | .timeout => return { o with timeout := ← once o.timeout ((readNumber text).map UInt64.ofNat) }
  | .logLevel => do
    let level := match LogLevel.ofName? text with
      | some level => .ok level
      | none => .error .invalidValue
    pure { o with logLevel := ← once o.logLevel level }

/-- Turns a switch on. -/
def setSwitch (o : Options) : Switch → Except UsageError Options
  | .dryRun => if o.dryRun then .error .argumentConflict else .ok { o with dryRun := true }
  | .failOnDivergence =>
    if o.failOnDivergence then .error .argumentConflict
    else .ok { o with failOnDivergence := true }
  | .help => .error .displayHelp
  | .version => .error .displayVersion

/-- An option whose separate value is not checked yet. -/
structure Pending where
  option : ValueOption
  /-- The value, once it has been read. -/
  value : Option String := none
deriving DecidableEq

/-- Checks the value of the option before. A value that is still missing is an error. -/
def settle (o : Options) : Option Pending → Except UsageError Options
  | none => .ok o
  | some ⟨option, some text⟩ => o.setValue text option
  | some ⟨_, none⟩ => .error .invalidValue

/-- Whether an option takes a value. What follows the letter of a switch is not one. -/
def takesValue : Option OptionName → Bool
  | some (.value _) => true
  | _ => false

/-- Reads an argument that names an option. -/
def readOption (o : Options) (pending : Option Pending) (option : Option OptionName)
    (attached : Option String) : Except UsageError (Options × Option Pending) :=
  match option, attached with
  | none, _ => .error .unknownArgument
  | some (.switch _), some _ => .error .tooManyValues
  | some (.switch switch), none => do pure (← (← o.settle pending).setSwitch switch, none)
  | some (.value option), some text => do
    pure (← (← o.settle pending).setValue text option, none)
  | some (.value option), none => do pure (← o.settle pending, some ⟨option, none⟩)

/-- Reads arguments after which nothing is an option: there may be none. -/
def readRest (o : Options) (pending : Option Pending) : List String → Except UsageError Options
  | [] => o.settle pending
  | _ :: _ => .error .unknownArgument

/-- Reads the arguments that are left. -/
def readAll (o : Options) (pending : Option Pending) : List String → Except UsageError Options
  | [] => o.settle pending
  | argument :: rest =>
    match ArgumentForm.of argument with
    | .separator => o.readRest pending rest
    | .long name attached =>
      match o.readOption pending (OptionName.ofLong? name) attached with
      | .error e => .error e
      | .ok (o, pending) => o.readAll pending rest
    | .short letter attached =>
      let option := OptionName.ofShort? letter
      match o.readOption pending option (attached.filter fun _ => takesValue option) with
      | .error e => .error e
      | .ok (o, pending) => o.readAll pending rest
    | .plain text =>
      match pending with
      | some ⟨option, none⟩ => o.readAll (some ⟨option, some text⟩) rest
      | _ => .error .unknownArgument

/-- Reads a whole command line, without the name of the program. -/
def read (arguments : List String) : Except UsageError Options :=
  ({} : Options).readAll none arguments

end Options

end Crosscheck
