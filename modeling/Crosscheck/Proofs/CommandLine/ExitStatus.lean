import Crosscheck.Proofs.Campaign.Seeded
import Crosscheck.Proofs.Campaign.Verdicts
import Crosscheck.Proofs.CommandLine.Overlay

/-!
# The meaning of the exit status

Once the settings of a command line are accepted, one thing only can make the program fail:
divergent rounds, when it was asked to fail on them. No failure of the generator, no rejected
expression and no unusable command is left, and an evaluator without an outcome does not count.
-/

namespace Crosscheck

open Text

/-- Whether the outcomes of two replies contradict each other: one of the evaluators reports an
error and the other one does not, or both give numbers that are too far apart. -/
inductive Diverges (t : Tolerance) : (reference candidate : Reply) → Prop
  | candidateErrs (x : Binary64) (report : String) :
      Diverges t (.ok (.value x)) (.ok (.error report))
  | referenceErrs (report : String) (x : Binary64) :
      Diverges t (.ok (.error report)) (.ok (.value x))
  | apart {x y : Binary64} (h : t.accepts x y = false) :
      Diverges t (.ok (.value x)) (.ok (.value y))

/-- The verdict on two replies is divergence exactly when their outcomes contradict each other. -/
theorem Verdict.of_eq_divergence_iff {t : Tolerance} {reference candidate : Reply} :
    Verdict.of t reference candidate = .divergence ↔ Diverges t reference candidate := by
  constructor
  · intro h
    match reference, candidate with
    | .ok (.value x), .ok (.value y) =>
      refine .apart ?_
      cases haccepts : t.accepts x y with
      | false => rfl
      | true => simp [Verdict.of, haccepts] at h
    | .ok (.value x), .ok (.error report) => exact .candidateErrs x report
    | .ok (.error report), .ok (.value x) => exact .referenceErrs report x
    | .ok (.error _), .ok (.error _) => cases h
    | .ok (.value _), .error _ | .ok (.error _), .error _ | .error _, _ => cases h
  · intro h
    cases h with
    | candidateErrs => rfl
    | referenceErrs => rfl
    | apart haccepts => simp [Verdict.of, haccepts]

namespace Contest

variable {c : Contest}

/-- The verdict on a text is divergence exactly when both evaluators answer in time and their
outcomes contradict each other. -/
theorem verdict_eq_divergence_iff {before : List String} {text : String} :
    c.verdict before text = .divergence ↔
      ∃ reference candidate, c.reference before.toArray text = some reference ∧
        c.candidate before.toArray text = some candidate ∧
        Diverges c.campaign.tolerance reference candidate := by
  rw [verdict, Verdict.of_eq_divergence_iff]
  constructor
  · intro h
    cases hreference : c.reference before.toArray text with
    | none =>
      rw [hreference] at h
      cases h
    | some reference =>
      cases hcandidate : c.candidate before.toArray text with
      | none =>
        rw [hreference, hcandidate] at h
        cases h
      | some candidate =>
        rw [hreference, hcandidate] at h
        exact ⟨reference, candidate, rfl, rfl, h⟩
  · rintro ⟨reference, candidate, hreference, hcandidate, h⟩
    rw [hreference, hcandidate]
    exact h

end Contest

/-- The settings for options have their switches, and their campaign can be run. -/
theorem Options.runnable_of_settings {o : Options} {base : Campaign} {s : Settings}
    (h : o.settings base = .ok s) :
    s.campaign.Runnable ∧ s.dryRun = o.dryRun ∧ s.failOnDivergence = o.failOnDivergence := by
  obtain ⟨⟨-, hvalid⟩, hdryRun, hfailOnDivergence, -⟩ := settings_eq_ok_iff.mp h
  exact ⟨Campaign.validate_eq_ok_iff.mp hvalid, hdryRun, hfailOnDivergence⟩

/-- The command of a campaign that can be run is a program with arguments. -/
theorem Campaign.Runnable.exists_command {c : Campaign} (hc : c.Runnable) :
    ∃ command, ProcessCommand.ofWords c.command = .ok command := by
  cases hwords : c.command with
  | nil => exact absurd hwords hc.command_ne_nil
  | cons program arguments => exact ⟨⟨program, arguments⟩, rfl⟩

namespace Host

variable {h : Host} {s : Settings} {seed : UInt64} {texts : List String}

/-- The settings of a command line have the switches of its options, and their campaign can be
run. -/
theorem runnable_of_configure {o : Options} (hconfigure : h.configure o = .ok s) :
    s.campaign.Runnable ∧ s.dryRun = o.dryRun ∧ s.failOnDivergence = o.failOnDivergence := by
  unfold configure at hconfigure
  split at hconfigure
  · cases hconfigure
  · rename_i base _
    cases hsettings : o.settings (base.getD {}) with
    | error error =>
      rw [hsettings] at hconfigure
      cases hconfigure
    | ok settings =>
      rw [hsettings] at hconfigure
      cases hconfigure
      exact Options.runnable_of_settings hsettings

/-- What is said of divergent rounds. -/
def divergenceMessage (divergences : Nat) : String :=
  String.join ["Error: ", String.join [numeral divergences, " divergent rounds"], "\n"]

/-- When the expressions are only shown, nothing fails. -/
theorem dryRun_of_expressions {c : Campaign}
    (hexpressions : c.dialect.expressions c.length seed c.rounds h.patience = .ok texts) :
    (h.dryRun c seed).exit = 0 ∧ (h.dryRun c seed).stderr = "" := by
  simp only [dryRun, hexpressions]
  exact ⟨rfl, rfl⟩

/-- A run over valid expressions fails only on divergent rounds. -/
theorem evaluate_of_suppliesAll {command : ProcessCommand}
    (hcommand : ProcessCommand.ofWords s.campaign.command = .ok command)
    (hlength : texts.length = s.campaign.rounds)
    (hall : (h.contest s.campaign command).SuppliesAll seed 0 texts) :
    let divergences := ((h.contest s.campaign command).verdicts [] texts).count .divergence
    if s.failOnDivergence = true ∧ 0 < divergences then
      (h.evaluate s seed).exit = 1 ∧ (h.evaluate s seed).stderr = divergenceMessage divergences
    else (h.evaluate s seed).exit = 0 ∧ (h.evaluate s seed).stderr = "" := by
  intro divergences
  have hrun := Contest.run_of_suppliesAll hlength hall {}
  have hcount := Contest.playAll_count_start (h.contest s.campaign command) seed texts .divergence
  generalize (h.contest s.campaign command).playAll 0 texts ({ seed }, {}) = played at hrun hcount
  obtain ⟨tally, journal⟩ := played
  have htally : tally.divergences = divergences := hcount
  simp only [evaluate, hcommand, hrun, htally, Bool.and_eq_true, decide_eq_true_eq]
  split
  · exact ⟨rfl, rfl⟩
  · exact ⟨rfl, rfl⟩

/-- Accepted settings are carried out without a failure other than that of divergent rounds. -/
theorem carryOut_of_runnable (hs : s.campaign.Runnable)
    (hcount : 1 + s.campaign.dialect.maxExtraArguments.toNat < UInt64.size)
    (hstops : ∀ round < s.campaign.rounds,
      s.campaign.dialect.expression s.campaign.length (s.campaign.seed.getD h.freshSeed) round
        h.patience ≠ .error .sourceExhausted) :
    ∃ texts command,
      s.campaign.dialect.expressions s.campaign.length (s.campaign.seed.getD h.freshSeed)
        s.campaign.rounds h.patience = .ok texts ∧
      ProcessCommand.ofWords s.campaign.command = .ok command ∧
      let divergences := ((h.contest s.campaign command).verdicts [] texts).count .divergence
      if s.dryRun = false ∧ s.failOnDivergence = true ∧ 0 < divergences then
        (h.carryOut s).exit = 1 ∧ (h.carryOut s).stderr = divergenceMessage divergences
      else (h.carryOut s).exit = 0 ∧ (h.carryOut s).stderr = "" := by
  obtain ⟨command, hcommand⟩ := hs.exists_command
  obtain ⟨texts, hexpressions, hlength, hall⟩ := Contest.exists_suppliesAll_seeded hs hcount hstops
    (h.service s.campaign.serviceUrl s.campaign.timeout) (h.process command)
  refine ⟨texts, command, hexpressions, hcommand, ?_⟩
  unfold carryOut
  cases s.dryRun with
  | true => simpa using dryRun_of_expressions hexpressions
  | false => simpa using evaluate_of_suppliesAll hcommand hlength hall

/-- **The exit status reports divergence and nothing else.** When a command line has settings and
no round runs out of words, its expressions can be drawn and its command can be used. The
program then fails if and only if it was asked to fail on divergence, is no dry run, and has a
round in which both evaluators answer in time with outcomes that contradict each other. The
only failure is that of the divergent rounds, whose number it names. -/
theorem exit_eq_one_iff_diverges {arguments : List String} {o : Options}
    (hread : Options.read arguments = .ok o) (hconfigure : h.configure o = .ok s)
    (hcount : 1 + s.campaign.dialect.maxExtraArguments.toNat < UInt64.size)
    (hstops : ∀ round < s.campaign.rounds,
      s.campaign.dialect.expression s.campaign.length (s.campaign.seed.getD h.freshSeed) round
        h.patience ≠ .error .sourceExhausted) :
    ∃ texts command,
      s.campaign.dialect.expressions s.campaign.length (s.campaign.seed.getD h.freshSeed)
        s.campaign.rounds h.patience = .ok texts ∧
      ProcessCommand.ofWords s.campaign.command = .ok command ∧
      ((h.run arguments).exit = 1 ↔
        o.failOnDivergence = true ∧ o.dryRun = false ∧
        ∃ round text reference candidate, texts[round]? = some text ∧
          h.service s.campaign.serviceUrl s.campaign.timeout (texts.take round).toArray text =
            some reference ∧
          h.process command (texts.take round).toArray text = some candidate ∧
          Diverges s.campaign.tolerance reference candidate) ∧
      ((h.run arguments).exit = 0 ∧ (h.run arguments).stderr = "" ∨
        (h.run arguments).exit = 1 ∧ (h.run arguments).stderr = divergenceMessage
          (((h.contest s.campaign command).verdicts [] texts).count .divergence)) := by
  obtain ⟨hs, hdryRun, hfail⟩ := runnable_of_configure hconfigure
  obtain ⟨texts, command, hexpressions, hcommand, hresult⟩ := carryOut_of_runnable hs hcount hstops
  have hrun : h.run arguments = h.carryOut s := by
    simp only [run, hread, hconfigure]
  have hdivergences :
      0 < ((h.contest s.campaign command).verdicts [] texts).count .divergence ↔
        ∃ round text reference candidate, texts[round]? = some text ∧
          h.service s.campaign.serviceUrl s.campaign.timeout (texts.take round).toArray text =
            some reference ∧
          h.process command (texts.take round).toArray text = some candidate ∧
          Diverges s.campaign.tolerance reference candidate := by
    rw [List.count_pos_iff, Contest.mem_verdicts_iff]
    simp only [List.nil_append, Contest.verdict_eq_divergence_iff, exists_and_left]
    rfl
  refine ⟨texts, command, hexpressions, hcommand, ?_⟩
  rw [hrun, ← hdivergences, ← hdryRun, ← hfail]
  dsimp only at hresult
  split at hresult
  · rename_i hdiverged
    exact ⟨by simp [hresult.1, hdiverged], .inr hresult⟩
  · rename_i hnotDiverged
    refine ⟨?_, .inl hresult⟩
    rw [hresult.1]
    constructor
    · intro hone
      cases hone
    · rintro ⟨hfailOn, hnoDryRun, hpos⟩
      exact absurd ⟨hnoDryRun, hfailOn, hpos⟩ hnotDiverged

/-- A reference evaluator that gives a number and a candidate that does not answer in the first
round and reports an error in the second: the program fails after two rounds, not after one. -/
theorem exit_eq_one_iff_diverges_second_round :
    let h : Host := {
      fileContent := fun _ => .error "No such file or directory (os error 2)"
      freshSeed := 0
      service := fun _ _ _ _ => some (.ok (.value ⟨0x4010000000000000⟩))
      process := fun _ asked _ => if asked.isEmpty then none else some (.ok (.error "no output"))
      patience := 8 }
    (h.run ["--rounds", "2", "--length=4", "--seed", "7", "--fail-on-divergence"]).exit = 1 ∧
      (h.run ["--rounds", "1", "--length=4", "--seed", "7", "--fail-on-divergence"]).exit ≠ 1 := by
  intro h
  let options (rounds : Nat) : Options :=
    { rounds := some rounds, length := some 4, seed := some 7, failOnDivergence := true }
  let settings (rounds : Nat) : Settings :=
    { campaign := { rounds, length := 4, seed := some 7 }
      dryRun := false
      failOnDivergence := true
      logLevel := .warn }
  have hread : Options.read ["--rounds", "2", "--length=4", "--seed", "7",
        "--fail-on-divergence"] = .ok (options 2) ∧
      Options.read ["--rounds", "1", "--length=4", "--seed", "7",
        "--fail-on-divergence"] = .ok (options 1) := by decide +kernel
  have hsettings : (options 2).settings {} = .ok (settings 2) ∧
      (options 1).settings {} = .ok (settings 1) := by decide +kernel
  have hconfigure : h.configure (options 2) = .ok (settings 2) ∧
      h.configure (options 1) = .ok (settings 1) := by
    have hdefault (rounds : Nat) : h.configure (options rounds) =
        ((options rounds).settings {}).mapError .settings := rfl
    rw [hdefault, hdefault, hsettings.1, hsettings.2]
    exact ⟨rfl, rfl⟩
  have hcount : 1 + (14 : UInt64).toNat < UInt64.size := by decide +kernel
  have hrounds : ({} : Dialect).expression 4 7 0 8 = .ok "(2*19)" ∧
      ({} : Dialect).expression 4 7 1 8 = .ok "24/16" := by decide +kernel
  have hstops : ∀ round < 2, ({} : Dialect).expression 4 7 round 8 ≠ .error .sourceExhausted := by
    intro round hround
    obtain rfl | rfl : round = 0 ∨ round = 1 := by omega
    · simp [hrounds.1]
    · simp [hrounds.2]
  have hexpressions : ({} : Dialect).expressions 4 7 2 8 = .ok ["(2*19)", "24/16"] ∧
      ({} : Dialect).expressions 4 7 1 8 = .ok ["(2*19)"] := by
    simp only [Dialect.expressions, Dialect.expressionsFrom, hrounds.1, hrounds.2]
    exact ⟨rfl, rfl⟩
  constructor
  · obtain ⟨texts, command, hbatch, -, hexit, -⟩ :=
      exit_eq_one_iff_diverges hread.1 hconfigure.1 hcount hstops
    obtain rfl : _ = texts := Except.ok.inj (hexpressions.1.symm.trans hbatch)
    exact hexit.mpr ⟨rfl, rfl, 1, "24/16", _, _, rfl, rfl, rfl, .candidateErrs _ _⟩
  · obtain ⟨texts, command, hbatch, -, hexit, -⟩ :=
      exit_eq_one_iff_diverges hread.2 hconfigure.2 hcount fun round hround =>
        hstops round (Nat.lt_succ_of_lt hround)
    obtain rfl : _ = texts := Except.ok.inj (hexpressions.2.symm.trans hbatch)
    intro hone
    obtain ⟨-, -, round, text, reference, candidate, htext, -, hcandidate, -⟩ := hexit.mp hone
    cases round with
    | zero => cases hcandidate
    | succ round => cases htext

end Host

end Crosscheck
