import Crosscheck.CommandLine.Program
import Crosscheck.Proofs.Dialect.Usable
import Crosscheck.Proofs.Text.Line
import Crosscheck.Proofs.Traversal

/-!
# Options over a campaign

Each option replaces the field that it names, and a field whose option is absent keeps its value.
What the texts of the lists and of the command line stand for is stated here without the functions
that read them, and so is what becomes of each field. The settings of a command line exist exactly
if every operator is one character and the merged campaign can be run.
-/

namespace Crosscheck

open Text

/-- Whether a field is what its option means, or what it was when the option is absent. -/
def Overrides {α β : Type} (means : α → β → Prop) (option : Option α) (old new : β) : Prop :=
  match option with
  | some value => means value new
  | none => new = old

/-- A field is overridden by an option when it is what is read from the option, or what it was. -/
theorem overrides_iff {α β : Type} {means : α → β → Prop} {read : α → β}
    (hread : ∀ value new, means value new ↔ read value = new) {option : Option α} {old new : β} :
    Overrides means option old new ↔ (option.map read).getD old = new := by
  cases option with
  | none => exact eq_comm
  | some value => exact hread value new

/-- A field is overridden by an option with the value of it. -/
theorem overrides_eq_iff {α : Type} {option : Option α} {old new : α} :
    Overrides Eq option old new ↔ option.getD old = new := by
  cases option with
  | none => exact eq_comm
  | some value => exact Iff.rfl

/-- An optional field is overridden by an option with the value of it. -/
theorem overrides_some_iff {α : Type} {option old new : Option α} :
    Overrides (fun value new => some value = new) option old new ↔ (option <|> old) = new := by
  cases option with
  | none => exact eq_comm
  | some value => exact Iff.rfl

/-- Whether the entries of a list of operators are, apart from white space around them, single
characters: these. -/
def AreOperators : List String → List Char → Prop :=
  List.Forall₂ fun entry c => TrimsTo entry.toList [c]

/-- Whether the entries of a list of functions are, apart from white space around them, names:
these. -/
def AreFunctions : List String → List String → Prop :=
  List.Forall₂ fun entry name => TrimsTo entry.toList name.toList

/-- Whether a command line consists of words: these. -/
def IsCommand (text : String) (words : List String) : Prop :=
  HasWords text.toList (words.map String.toList)

/-- Whether a campaign is another one with the options laid over it. Each option is about one field,
but functions are also about the variadic functions: of these, those stay that are among the new
functions. -/
structure Overlaid (o : Options) (base merged : Campaign) : Prop where
  rounds : Overrides Eq o.rounds base.rounds merged.rounds
  length : Overrides Eq o.length base.length merged.length
  seed : Overrides (fun seed new => some seed = new) o.seed base.seed merged.seed
  operators : Overrides AreOperators o.operators base.dialect.operators merged.dialect.operators
  functions : Overrides AreFunctions o.functions base.dialect.functions merged.dialect.functions
  variadicFunctions :
    Overrides
      (fun _ new => base.dialect.variadicFunctions.filter (· ∈ merged.dialect.functions) = new)
      o.functions base.dialect.variadicFunctions merged.dialect.variadicFunctions
  maxExtraArguments :
    Overrides Eq o.maxExtraArguments base.dialect.maxExtraArguments merged.dialect.maxExtraArguments
  serviceUrl : Overrides Eq o.referenceUrl base.serviceUrl merged.serviceUrl
  command : Overrides IsCommand o.candidate base.command merged.command
  timeout : Overrides Eq o.timeout base.timeout merged.timeout
  range : ∀ role, merged.dialect.range role = base.dialect.range role
  weights : merged.dialect.weights = base.dialect.weights
  tolerance : merged.tolerance = base.tolerance

namespace Options

variable {o : Options} {base merged : Campaign}

/-! ### What the texts stand for -/

/-- An operator is read from an entry that is one character apart from white space around it. -/
theorem readOperator_eq_ok_iff {entry : String} {c : Char} :
    readOperator entry = .ok c ↔ TrimsTo entry.toList [c] := by
  rw [← trim_eq_iff, readOperator]
  split
  · rename_i d hd
    simp [hd]
  · rename_i hnot
    exact ⟨nofun, fun hc => (hnot c hc).elim⟩

/-- The operators that are read are those that the entries stand for. -/
theorem mapM_readOperator_eq_ok_iff {entries : List String} {operators : List Char} :
    entries.mapM readOperator = .ok operators ↔ AreOperators entries operators := by
  simp only [mapM_eq_ok_iff_forall₂, readOperator_eq_ok_iff, AreOperators]

/-- The names that are read are those that the entries stand for. -/
theorem areFunctions_iff (entries names : List String) :
    AreFunctions entries names ↔ entries.map readFunction = names := by
  have hname (entry name : String) :
      TrimsTo entry.toList name.toList ↔ readFunction entry = name := by
    rw [← trim_eq_iff, readFunction, ← String.toList_inj, String.toList_ofList]
  simp only [AreFunctions, hname]
  rw [← List.forall₂_eq_eq_eq, List.forall₂_map_left_iff]

/-- The words that are read are those that the command line consists of. -/
theorem isCommand_iff (text : String) (words : List String) :
    IsCommand text words ↔ readCommand text = words := by
  rw [IsCommand, ← words_eq_iff, readCommand]
  constructor
  · intro h
    rw [h, List.map_map]
    exact List.map_id'' (fun _ => String.ofList_toList) words
  · rintro rfl
    rw [List.map_map]
    exact (List.map_id'' (fun _ => String.toList_ofList) _).symm

/-! ### The merged campaign -/

/-- The campaign with the options laid over it, when its operators are known. -/
def overlayWith (o : Options) (base : Campaign) (operators : List Char) : Campaign where
  rounds := o.rounds.getD base.rounds
  length := o.length.getD base.length
  seed := o.seed <|> base.seed
  dialect := { base.dialect with
    operators
    functions := (o.functions.map (·.map readFunction)).getD base.dialect.functions
    variadicFunctions := (o.functions.map fun entries =>
      base.dialect.variadicFunctions.filter (· ∈ entries.map readFunction)).getD
        base.dialect.variadicFunctions
    maxExtraArguments := o.maxExtraArguments.getD base.dialect.maxExtraArguments }
  serviceUrl := o.referenceUrl.getD base.serviceUrl
  command := (o.candidate.map readCommand).getD base.command
  timeout := o.timeout.getD base.timeout
  tolerance := base.tolerance

/-- The variadic functions that stay are those among the new functions. -/
theorem withFunctions_eq (d : Dialect) (functions : List String) :
    withFunctions d functions = { d with
      functions
      variadicFunctions := d.variadicFunctions.filter (· ∈ functions) } := by
  rw [withFunctions, funext fun name => List.contains_eq_mem name functions]

/-- Only the operators can make it fail to lay the options over a campaign. -/
theorem overlay_eq (o : Options) (base : Campaign) :
    o.overlay base = (o.operators.mapM (List.mapM readOperator)).map fun operators =>
      o.overlayWith base (operators.getD base.dialect.operators) := by
  rw [overlay, overlayDialect]
  cases o.operators with
  | none =>
    cases hfunctions : o.functions <;> simp only [overlayWith, withFunctions_eq, hfunctions] <;> rfl
  | some entries =>
    rw [Option.mapM_some]
    dsimp only
    cases entries.mapM readOperator with
    | error => rfl
    | ok operators =>
      cases hfunctions : o.functions <;>
        simp only [overlayWith, withFunctions_eq, hfunctions] <;> rfl

/-- Options can be laid over a campaign if the operators can be read. -/
theorem overlay_eq_ok_iff_exists : o.overlay base = .ok merged ↔
    ∃ operators, Overrides AreOperators o.operators base.dialect.operators operators ∧
      o.overlayWith base operators = merged := by
  rw [overlay_eq]
  cases o.operators with
  | none => simp [Overrides, pure, Except.pure, Except.map]
  | some entries =>
    rw [Option.mapM_some]
    simp only [Overrides, ← mapM_readOperator_eq_ok_iff]
    cases entries.mapM readOperator <;> simp [Except.map, Functor.map]

/-- The campaign with the options laid over it is what the options mean. -/
theorem overlaid_overlayWith {operators : List Char}
    (h : Overrides AreOperators o.operators base.dialect.operators operators) :
    Overlaid o base (o.overlayWith base operators) where
  rounds := overrides_eq_iff.mpr rfl
  length := overrides_eq_iff.mpr rfl
  seed := overrides_some_iff.mpr rfl
  operators := h
  functions := (overrides_iff areFunctions_iff).mpr rfl
  variadicFunctions := by
    cases hfunctions : o.functions <;> simp only [Overrides, overlayWith, hfunctions] <;> rfl
  maxExtraArguments := overrides_eq_iff.mpr rfl
  serviceUrl := overrides_eq_iff.mpr rfl
  command := (overrides_iff isCommand_iff).mpr rfl
  timeout := overrides_eq_iff.mpr rfl
  range _ := rfl
  weights := rfl
  tolerance := rfl

/-- A campaign that is what the options mean is the one with the options laid over it. -/
theorem overlayWith_of_overlaid (h : Overlaid o base merged) :
    o.overlayWith base merged.dialect.operators = merged := by
  have hfunctions := (overrides_iff areFunctions_iff).mp h.functions
  -- The one field that is overridden by the option of another one, with what that one becomes.
  have hvariadic : (o.overlayWith base merged.dialect.operators).dialect.variadicFunctions =
      merged.dialect.variadicFunctions := by
    have hvariadic := h.variadicFunctions
    cases hgiven : o.functions with
    | none =>
      rw [hgiven] at hvariadic
      simp only [overlayWith, hgiven]
      exact hvariadic.symm
    | some entries =>
      rw [← hfunctions, hgiven] at hvariadic
      simp only [overlayWith, hgiven]
      exact hvariadic
  have hdialect : (o.overlayWith base merged.dialect.operators).dialect = merged.dialect := by
    rw [Dialect.mk.injEq]
    exact ⟨rfl, hfunctions, hvariadic, (h.range .operand).symm, (h.range .groupOperand).symm,
      (h.range .firstArgument).symm, (h.range .extraArgument).symm,
      overrides_eq_iff.mp h.maxExtraArguments, h.weights.symm⟩
  rw [Campaign.mk.injEq]
  exact ⟨overrides_eq_iff.mp h.rounds, overrides_eq_iff.mp h.length, overrides_some_iff.mp h.seed,
    hdialect, overrides_eq_iff.mp h.serviceUrl, (overrides_iff isCommand_iff).mp h.command,
    overrides_eq_iff.mp h.timeout, h.tolerance.symm⟩

/-- The options are laid over a campaign in the way that they mean, and in no other one. -/
theorem overlay_eq_ok_iff : o.overlay base = .ok merged ↔ Overlaid o base merged := by
  rw [overlay_eq_ok_iff_exists]
  constructor
  · rintro ⟨operators, hoperators, rfl⟩
    exact overlaid_overlayWith hoperators
  · intro h
    exact ⟨merged.dialect.operators, h.operators, overlayWith_of_overlaid h⟩

/-- Whether every operator is a single character, apart from white space around it. -/
def HasSingleOperators (o : Options) : Prop :=
  ∀ entry ∈ o.operators.getD [], ∃ c, TrimsTo entry.toList [c]

/-- There is a merged campaign exactly if every operator is a single character. -/
theorem exists_overlaid_iff : (∃ merged, Overlaid o base merged) ↔ o.HasSingleOperators := by
  have hoperators : (∃ merged, Overlaid o base merged) ↔
      ∃ operators, Overrides AreOperators o.operators base.dialect.operators operators :=
    ⟨fun ⟨_, h⟩ => ⟨_, h.operators⟩, fun ⟨_, h⟩ => ⟨_, overlaid_overlayWith h⟩⟩
  rw [hoperators, HasSingleOperators]
  cases o.operators with
  | none => simp [Overrides]
  | some entries =>
    simp only [Overrides, ← mapM_readOperator_eq_ok_iff, exists_mapM_eq_ok_iff,
      readOperator_eq_ok_iff, Option.getD_some]

/-- When there is no merged campaign, an operator is reported that is not a single character. -/
theorem exists_entry_of_overlay_eq_error {error : SettingsError}
    (h : o.overlay base = .error error) :
    ∃ entry ∈ o.operators.getD [], error = .operatorNotSingle entry := by
  rw [overlay_eq] at h
  cases hoperators : o.operators with
  | none =>
    rw [hoperators] at h
    cases h
  | some entries =>
    rw [hoperators, Option.mapM_some] at h
    cases hread : entries.mapM readOperator with
    | ok operators =>
      rw [hread] at h
      cases h
    | error other =>
      rw [hread] at h
      cases h
      obtain ⟨entry, hentry, herror⟩ := exists_mem_of_mapM_eq_error hread
      rw [readOperator] at herror
      split at herror
      · cases herror
      · exact ⟨entry, hentry, (Except.error.inj herror).symm⟩

/-- There is one merged campaign at most. -/
theorem overlaid_unique {other : Campaign} (h : Overlaid o base merged)
    (hother : Overlaid o base other) : merged = other :=
  Except.ok.inj ((overlay_eq_ok_iff.mpr h).symm.trans (overlay_eq_ok_iff.mpr hother))

end Options

/-- A campaign is refused for a fault of its dialect only if the dialect has that fault. -/
theorem Campaign.fault?_dialect_of_validate {c : Campaign} {fault : DialectFault}
    (h : c.validate = .error (.generation (.dialect fault))) : c.dialect.fault? = some fault := by
  rw [validate] at h
  cases hfault : c.fault? with
  | none =>
    rw [hfault] at h
    cases h
  | some other =>
    rw [hfault] at h
    cases h
    cases hdialect : c.dialect.fault? with
    | some inner =>
      simp only [fault?, hdialect] at hfault
      cases hfault
      rfl
    | none =>
      simp only [fault?, hdialect] at hfault
      repeat' split at hfault
      all_goals cases hfault

/-- When functions are given, the variadic functions are among them. -/
theorem Overlaid.validate_ne_unknownVariadicFunction {o : Options} {base merged : Campaign}
    (h : Overlaid o base merged) (hfunctions : o.functions ≠ none) {name : String} :
    merged.validate ≠ .error (.generation (.dialect (.unknownVariadicFunction name))) := by
  intro hvalidate
  obtain ⟨hvariadic, hunknown⟩ :=
    Dialect.of_fault?_eq_unknownVariadicFunction (Campaign.fault?_dialect_of_validate hvalidate)
  obtain ⟨entries, hentries⟩ := Option.ne_none_iff_exists'.mp hfunctions
  have hkept := h.variadicFunctions
  rw [hentries] at hkept
  rw [← hkept, List.mem_filter, decide_eq_true_eq] at hvariadic
  exact hunknown hvariadic.2

/-! ### Settings -/

namespace Options

variable {o : Options} {base : Campaign}

/-- The merged campaign is validated, and the settings are that campaign with the switches. -/
theorem settings_eq (o : Options) (base : Campaign) :
    o.settings base = (o.overlay base).bind fun campaign =>
      (campaign.validate.mapError .invalid).map fun _ =>
        ⟨campaign, o.dryRun, o.failOnDivergence, o.logLevel.getD .warn⟩ := by
  rw [settings]
  cases o.overlay base with
  | error => rfl
  | ok campaign =>
    simp only [Campaign.validate, bind, Except.bind]
    cases campaign.fault? <;> rfl

/-- There are settings exactly if the merged campaign can be run. -/
theorem settings_eq_ok_iff {s : Settings} : o.settings base = .ok s ↔
    (Overlaid o base s.campaign ∧ s.campaign.validate = .ok ()) ∧ s.dryRun = o.dryRun ∧
      s.failOnDivergence = o.failOnDivergence ∧ s.logLevel = o.logLevel.getD .warn := by
  rw [settings_eq, ← overlay_eq_ok_iff]
  obtain ⟨other, dryRun, failOnDivergence, logLevel⟩ := s
  cases o.overlay base with
  | error => simp [Except.bind]
  | ok campaign =>
    cases hvalid : campaign.validate with
    | error fault =>
      simp only [Except.bind, hvalid, Except.mapError, Except.map]
      refine ⟨nofun, ?_⟩
      rintro ⟨⟨⟨⟩, hother⟩, -⟩
      rw [hvalid] at hother
      cases hother
    | ok =>
      simp only [Except.bind, hvalid, Except.mapError, Except.map, Except.ok.injEq,
        Settings.mk.injEq]
      constructor
      · rintro ⟨rfl, rfl, rfl, rfl⟩
        exact ⟨⟨rfl, hvalid⟩, rfl, rfl, rfl⟩
      · rintro ⟨⟨rfl, -⟩, rfl, rfl, rfl⟩
        exact ⟨rfl, rfl, rfl, rfl⟩

/-- A fault that is reported is one of the merged campaign. -/
theorem settings_eq_invalid_iff {fault : CampaignFault} :
    o.settings base = .error (.invalid fault) ↔
      ∃ merged, Overlaid o base merged ∧ merged.validate = .error fault := by
  rw [settings_eq]
  simp only [← overlay_eq_ok_iff]
  cases hoverlay : o.overlay base with
  | error error =>
    obtain ⟨entry, -, rfl⟩ := exists_entry_of_overlay_eq_error hoverlay
    simp [Except.bind]
  | ok merged =>
    cases hvalid : merged.validate <;>
      simp [Except.bind, Except.mapError, Except.map, hvalid]

end Options

namespace Host

variable {h : Host} {o : Options} {base : Campaign}

/-- Whether the options are laid over a campaign: that of the configuration file that they name, or
the default one. -/
def BaseOf (h : Host) (o : Options) (base : Campaign) : Prop :=
  match o.config with
  | some path => h.load path = .ok base
  | none => base = {}

/-- The settings of a command line are those for the campaign that the options are laid over. -/
theorem BaseOf.configure_eq (hbase : h.BaseOf o base) :
    h.configure o = (o.settings base).mapError .settings := by
  rw [BaseOf] at hbase
  rw [configure]
  cases hconfig : o.config with
  | none =>
    rw [hconfig] at hbase
    rw [hbase]
    rfl
  | some path =>
    rw [hconfig] at hbase
    rw [Option.mapM_some, hbase]
    rfl

/-- A command line has settings when its options have them for the campaign that they are laid
over. -/
theorem BaseOf.configure_eq_ok_iff (hbase : h.BaseOf o base) {s : Settings} :
    h.configure o = .ok s ↔ o.settings base = .ok s := by
  rw [hbase.configure_eq]
  cases o.settings base <;> simp [Except.mapError]

/-- The settings of a command line are refused when those of its options are. -/
theorem BaseOf.configure_eq_error_iff (hbase : h.BaseOf o base) {error : SettingsError} :
    h.configure o = .error (.settings error) ↔ o.settings base = .error error := by
  rw [hbase.configure_eq]
  cases o.settings base <;> simp [Except.mapError]

/-- **Options override the fields that they name.** There are settings exactly if every operator is
a single character and the merged campaign is valid. There is one merged campaign at most, each
field of it being what its option means, or what it was in the base when the option is absent, and
it is the campaign of the settings. When functions are given, it is never refused for a variadic
function that is not among them. -/
theorem configure_overrides (hbase : h.BaseOf o base) :
    ((∃ s, h.configure o = .ok s) ↔
      o.HasSingleOperators ∧ ∃ merged, Overlaid o base merged ∧ merged.validate = .ok ()) ∧
    (o.HasSingleOperators → ∃! merged, Overlaid o base merged) ∧
    (∀ s, h.configure o = .ok s → Overlaid o base s.campaign) ∧
    (o.functions ≠ none → ∀ name,
      let fault := CampaignFault.generation (.dialect (.unknownVariadicFunction name))
      (∀ merged, Overlaid o base merged → merged.validate ≠ .error fault) ∧
        h.configure o ≠ .error (.settings (.invalid fault))) := by
  refine ⟨?accepted, ?unique, ?merged, ?variadic⟩
  case accepted =>
    constructor
    · rintro ⟨s, hs⟩
      obtain ⟨hmerged, -⟩ := Options.settings_eq_ok_iff.mp (hbase.configure_eq_ok_iff.mp hs)
      exact ⟨Options.exists_overlaid_iff.mp ⟨s.campaign, hmerged.1⟩, s.campaign, hmerged⟩
    · rintro ⟨-, merged, hmerged⟩
      refine ⟨⟨merged, o.dryRun, o.failOnDivergence, o.logLevel.getD .warn⟩, ?_⟩
      rw [hbase.configure_eq_ok_iff, Options.settings_eq_ok_iff]
      exact ⟨hmerged, rfl, rfl, rfl⟩
  case unique =>
    intro hsingle
    obtain ⟨merged, hmerged⟩ := Options.exists_overlaid_iff.mpr hsingle
    exact ⟨merged, hmerged, fun other hother => Options.overlaid_unique hother hmerged⟩
  case merged =>
    intro s hs
    exact (Options.settings_eq_ok_iff.mp (hbase.configure_eq_ok_iff.mp hs)).1.1
  case variadic =>
    intro hfunctions name fault
    have hnever (merged : Campaign) (hmerged : Overlaid o base merged) :
        merged.validate ≠ .error fault := hmerged.validate_ne_unknownVariadicFunction hfunctions
    refine ⟨hnever, fun herror => ?_⟩
    obtain ⟨merged, hmerged, hinvalid⟩ :=
      Options.settings_eq_invalid_iff.mp (hbase.configure_eq_error_iff.mp herror)
    exact hnever merged hmerged hinvalid

/-- A configuration file whose variadic functions are not all functions cannot be used as it is, but
it can be when functions are given: those variadic functions stay that are among them. An operator
of two characters is refused. -/
theorem configure_overrides_unknown_variadic :
    let file := "seed: 7\ngenerator:\n  functions: [f]\n  variadic_functions: [g, k, f]\n"
    let h : Host := {
      fileContent := fun _ => .ok (file.toList.map fun c => UInt8.ofNat c.toNat)
      freshSeed := 0
      service := fun _ _ _ _ => none
      process := fun _ _ _ => none }
    let o : Options := {
      config := some "run.yaml"
      operators := some [" + ", "*"]
      functions := some ["f", " g "]
      candidate := some " run  fast " }
    (∃ s, h.configure o = .ok s ∧ s.campaign = {
      seed := some 7
      dialect := {
        operators := ['+', '*']
        functions := ["f", "g"]
        variadicFunctions := ["g", "f"] }
      command := ["run", "fast"] }) ∧
    h.configure { o with functions := none } =
      .error (.settings (.invalid (.generation (.dialect (.unknownVariadicFunction "g"))))) ∧
    ¬∃ s, h.configure { o with operators := some ["+", "**"] } = .ok s := by
  intro file h o
  let base : Campaign := {
    seed := some 7
    dialect := { functions := ["f"], variadicFunctions := ["g", "k", "f"] } }
  have hload : h.load "run.yaml" = .ok base := by decide +kernel
  have hbase : h.BaseOf o base := hload
  obtain ⟨haccepted, hunique, hmerged, -⟩ := configure_overrides hbase
  refine ⟨?given, ?absent, ?double⟩
  case given =>
    let merged : Campaign := { base with
      dialect := { base.dialect with
        operators := ['+', '*']
        functions := ["f", "g"]
        variadicFunctions := ["g", "f"] }
      command := ["run", "fast"] }
    have hoverlaid : Overlaid o base merged := Options.overlay_eq_ok_iff.mp (by decide +kernel)
    have hsingle := Options.exists_overlaid_iff.mp ⟨merged, hoverlaid⟩
    have hvalid : merged.validate = .ok () := by decide +kernel
    obtain ⟨s, hs⟩ := haccepted.mpr ⟨hsingle, merged, hoverlaid, hvalid⟩
    exact ⟨s, hs, (hunique hsingle).unique (hmerged s hs) hoverlaid⟩
  case absent =>
    have hbase : h.BaseOf { o with functions := none } base := hload
    exact hbase.configure_eq_error_iff.mpr (by decide +kernel)
  case double =>
    have hbase : h.BaseOf { o with operators := some ["+", "**"] } base := hload
    intro hexists
    obtain ⟨hsingle, -⟩ := (configure_overrides hbase).1.mp hexists
    obtain ⟨c, hc⟩ := hsingle "**" (by simp)
    have hdouble : trim "**".toList = ['*', '*'] := by decide
    rw [hc.trim_eq] at hdouble
    cases hdouble

end Host

end Crosscheck
