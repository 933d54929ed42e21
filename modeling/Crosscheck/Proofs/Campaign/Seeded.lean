import Crosscheck.Proofs.Campaign.Rounds
import Crosscheck.Proofs.Generation.Soundness

/-!
# Campaigns over drawn expressions

A campaign that validation accepts draws a valid expression in every round in which its
source does not give up. The run then plays all rounds, and the texts that the evaluators
get are those of the batch of the same seed.
-/

namespace Crosscheck

namespace Campaign

/-- The conditions on a campaign that validation accepts. -/
structure Runnable (c : Campaign) : Prop where
  usable : c.dialect.Usable
  minimumLength_le : minimumLength ≤ c.length
  rounds_ne_zero : c.rounds ≠ 0
  command_ne_nil : c.command ≠ []
  timeout_ne_zero : c.timeout ≠ 0
  hasTolerance : c.hasTolerance = true

/-- Validation accepts exactly the campaigns that can be run. -/
theorem validate_eq_ok_iff {c : Campaign} : c.validate = .ok () ↔ c.Runnable := by
  have hnone : c.validate = .ok () ↔ c.fault? = none := by
    unfold validate
    cases c.fault? <;> simp
  have hdialect : c.dialect.fault? = none ↔ c.dialect.Usable := by
    rw [← Dialect.validate_eq_ok_iff, Dialect.validate]
    cases c.dialect.fault? <;> simp
  rw [hnone, fault?]
  constructor
  · intro h
    cases hfault : c.dialect.fault? with
    | some fault => simp [hfault] at h
    | none =>
      simp only [hfault] at h
      repeat' split at h
      all_goals try cases h
      rename_i hlength hrounds hcommand htimeout htolerance
      exact ⟨hdialect.mp hfault, by omega, hrounds, by simpa using hcommand, htimeout,
        by simpa using htolerance⟩
  · intro h
    have hlength : ¬c.length < minimumLength := by
      have hle := h.minimumLength_le
      omega
    simp [hdialect.mpr h.usable, hlength, h.rounds_ne_zero, h.command_ne_nil, h.timeout_ne_zero,
      h.hasTolerance]

end Campaign

namespace Dialect

variable {d : Dialect} {length : Nat} {seed : UInt64} {patience : Nat}

/-- A round in which the source does not give up has an expression, and it is accepted. -/
theorem exists_expression (hd : d.Usable) (hcount : 1 + d.maxExtraArguments.toNat < UInt64.size)
    (hlength : minimumLength ≤ length) {round : Nat}
    (hstops : d.expression length seed round patience ≠ .error .sourceExhausted) :
    ∃ text, d.expression length seed round patience = .ok text ∧
      ∃ shape, d.check text = .ok shape := by
  rw [expression_eq_map hd] at hstops ⊢
  have hrun : (d.drawExpression length).run (roundStream seed round patience) ≠
      .error .sourceExhausted := by
    intro hstop
    rw [hstop] at hstops
    exact hstops rfl
  obtain ⟨tokens, s', htokens, hcheck⟩ := (yields_accepted hd hcount hlength).exists_ok hrun
  exact ⟨Token.text tokens, congrArg (Except.map (Token.text ·.1)) htokens, hcheck⟩

end Dialect

namespace Contest

variable {c : Campaign} {seed : UInt64} {patience : Nat} {reference candidate : Evaluator}

/-- The batch of consecutive rounds with expressions consists of these expressions. -/
theorem exists_expressionsFrom (count first : Nat)
    (h : ∀ round, first ≤ round → round < first + count →
      ∃ text, (seeded c reference candidate patience).Supplies seed round text) :
    ∃ texts, c.dialect.expressionsFrom c.length seed patience count first = .ok texts ∧
      texts.length = count ∧
      (seeded c reference candidate patience).SuppliesAll seed first texts := by
  induction count generalizing first with
  | zero => exact ⟨[], rfl, rfl, trivial⟩
  | succ count ih =>
    obtain ⟨text, htext⟩ := h first (Nat.le_refl first) (by omega)
    obtain ⟨texts, hbatch, hlength, hall⟩ :=
      ih (first + 1) fun round hlow hhigh => h round (by omega) (by omega)
    have hfirst : c.dialect.expression c.length seed first patience = .ok text := htext.1
    refine ⟨text :: texts, ?_, by rw [List.length_cons, hlength], htext, hall⟩
    rw [Dialect.expressionsFrom, hfirst, hbatch]
    rfl

/-- Rounds of an accepted campaign whose sources do not give up have valid texts, those of the
batch. -/
theorem exists_suppliesAll_seeded (hc : c.Runnable)
    (hcount : 1 + c.dialect.maxExtraArguments.toNat < UInt64.size)
    (hstops : ∀ round < c.rounds,
      c.dialect.expression c.length seed round patience ≠ .error .sourceExhausted)
    (reference candidate : Evaluator) :
    ∃ texts, c.dialect.expressions c.length seed c.rounds patience = .ok texts ∧
      texts.length = c.rounds ∧
      (seeded c reference candidate patience).SuppliesAll seed 0 texts := by
  refine exists_expressionsFrom c.rounds 0 fun round _ hround => ?_
  rw [Nat.zero_add] at hround
  obtain ⟨text, htext, hcheck⟩ :=
    Dialect.exists_expression hc.usable hcount hc.minimumLength_le (hstops round hround)
  exact ⟨text, htext, hcheck⟩

/-- **A campaign over drawn expressions never stops early.** When validation accepts the
campaign and no round runs out of words, the run ends well whatever the evaluators reply.
All rounds are counted under the given seed, and each evaluator gets the expressions of the
batch of that seed, one a round and in order. -/
theorem run_seeded (hvalid : c.validate = .ok ())
    (hcount : 1 + c.dialect.maxExtraArguments.toNat < UInt64.size)
    (hstops : ∀ round < c.rounds,
      c.dialect.expression c.length seed round patience ≠ .error .sourceExhausted)
    (reference candidate : Evaluator) :
    ∃ texts tally journal,
      c.dialect.expressions c.length seed c.rounds patience = .ok texts ∧
      texts.length = c.rounds ∧
      ((seeded c reference candidate patience).run seed).run {} = (.ok tally, journal) ∧
      tally.rounds = c.rounds ∧ tally.seed = seed ∧
      journal.askedReference.toList = texts ∧ journal.askedCandidate.toList = texts ∧
      (journal.reports.toList.map fun r => (r.round, r.expression)) =
        (List.range c.rounds).zip texts := by
  have hc := Campaign.validate_eq_ok_iff.mp hvalid
  obtain ⟨texts, hbatch, hlength, hall⟩ :=
    exists_suppliesAll_seeded hc hcount hstops reference candidate
  refine ⟨texts, _, _, hbatch, hlength, run_of_suppliesAll hlength hall {}, ?_, ?_, ?_, ?_, ?_⟩
  · rw [playAll_rounds, hlength]
    exact Nat.zero_add _
  · exact playAll_seed ..
  · exact playAll_askedReference ..
  · exact playAll_askedCandidate ..
  · rw [playAll_reports, hlength, List.range_eq_range']
    rfl

/-- Two rounds with a reference evaluator that never answers and a candidate that answers
once, an error. -/
theorem run_seeded_two_rounds :
    let c : Campaign := { rounds := 2, length := 4 }
    let reference : Evaluator := fun _ _ => none
    let candidate : Evaluator := fun asked _ =>
      if asked.isEmpty then some (.ok (.error "unknown operator")) else none
    ∃ tally journal,
      ((seeded c reference candidate 8).run 7).run {} = (.ok tally, journal) ∧
      tally.rounds = 2 ∧ tally.seed = 7 ∧
      journal.askedReference.toList = ["(2*19)", "24/16"] ∧
      journal.askedCandidate.toList = ["(2*19)", "24/16"] := by
  intro c reference candidate
  have hvalid : c.validate = .ok () := by decide +kernel
  have hstops : ∀ round < c.rounds,
      c.dialect.expression c.length 7 round 8 ≠ .error .sourceExhausted := by decide +kernel
  have hexpressions : c.dialect.expressions c.length 7 c.rounds 8 =
      .ok ["(2*19)", "24/16"] := by decide +kernel
  obtain ⟨texts, tally, journal, hbatch, -, hrun, hrounds, hseed, hreference, hcandidate, -⟩ :=
    run_seeded hvalid (by decide) hstops reference candidate
  obtain rfl : _ = texts := Except.ok.inj (hexpressions.symm.trans hbatch)
  exact ⟨tally, journal, hrun, hrounds, hseed, hreference, hcandidate⟩

end Contest

end Crosscheck
