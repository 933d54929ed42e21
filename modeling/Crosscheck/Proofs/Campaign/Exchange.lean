import Crosscheck.Proofs.Campaign.Gate
import Crosscheck.Proofs.Campaign.Seeded
import Crosscheck.Proofs.Evaluation.Comparison

/-!
# Evaluators in each other's place

A run does not depend on which of the two evaluators is the reference. With the evaluators in each
other's place every round has the same text and the same verdict, the run stops where it stopped
or ends with the same tally, and its journal differs in the place of the replies only. What the
verdicts mean is kept too: an evaluator never diverges from itself, and numbers that agree do so
under larger tolerances.
-/

namespace Crosscheck

/-- The report of a round with its replies in each other's place. -/
def RoundReport.exchange (r : RoundReport) : RoundReport :=
  { r with reference := r.candidate, candidate := r.reference }

/-- A journal with the evaluators in each other's place. The rounds, their texts and their verdicts
stay what they are. -/
def Journal.exchange (j : Journal) : Journal where
  requested := j.requested
  askedReference := j.askedCandidate
  askedCandidate := j.askedReference
  reports := j.reports.map RoundReport.exchange

namespace Contest

/-- A contest with the evaluators in each other's place. -/
def exchange (c : Contest) : Contest :=
  { c with reference := c.candidate, candidate := c.reference }

section

variable {c : Contest} {seed : UInt64} {round : Nat}

/-- The replies of a round are reported in each other's place, with the same verdict. -/
theorem report_exchange (j : Journal) (text : String) :
    c.exchange.report j.exchange round text = (c.report j round text).exchange := by
  have hverdict := Verdict.of_comm c.campaign.tolerance
    (c.withinDeadline (c.candidate j.askedCandidate text))
    (c.withinDeadline (c.reference j.askedReference text))
  exact congrArg (RoundReport.mk round text _ _) hverdict

/-- The step lemma: a played round counts for the same verdict. -/
theorem play_exchange (text : String) (tally : Tally) (j : Journal) :
    c.exchange.play round text (tally, j.exchange) =
      Prod.map id Journal.exchange (c.play round text (tally, j)) := by
  unfold play
  rw [report_exchange]
  simp [Journal.exchange, Journal.asked, RoundReport.exchange]

/-- A round that is refused is refused in the same way. -/
theorem Refuses.exchange {error : RunError} (h : c.Refuses seed round error) :
    c.exchange.Refuses seed round error := by
  cases h with
  | failure hsource => exact .failure hsource
  | violation hsource hcheck => exact .violation hsource hcheck
  | overflow hsource hcheck => exact .overflow hsource hcheck

/-- The run lemma: rounds in a row go the same way, whether they are played or one is refused. -/
theorem runRounds_exchange (count : Nat) (tally : Tally) (j : Journal) :
    (c.exchange.runRounds seed count round tally).run j.exchange =
      Prod.map id Journal.exchange ((c.runRounds seed count round tally).run j) := by
  induction count generalizing round tally j with
  | zero => rfl
  | succ count ih =>
    by_cases hrefused : ∃ error, c.Refuses seed round error
    · obtain ⟨error, herror⟩ := hrefused
      rw [herror.runRounds, herror.exchange.runRounds]
      rfl
    · obtain ⟨text, htext⟩ := exists_supplies fun error herror => hrefused ⟨error, herror⟩
      have hsupplies : c.exchange.Supplies seed round text := htext
      rw [runRounds_succ htext, runRounds_succ hsupplies, play_exchange]
      exact ih _ _

/-- A run does not depend on which evaluator is the reference. -/
theorem run_exchange (c : Contest) (seed : UInt64) :
    (c.exchange.run seed).run {} = Prod.map id Journal.exchange ((c.run seed).run {}) := by
  have hstart : ({} : Journal).exchange = {} := by simp [Journal.exchange]
  have hrun : (c.exchange.run seed).run ({} : Journal).exchange =
      Prod.map id Journal.exchange ((c.run seed).run {}) :=
    runRounds_exchange c.campaign.rounds { seed } {}
  rwa [hstart] at hrun

end

/-- Both parts of the tolerance of a campaign that can be run are bounds. -/
theorem isBound_of_runnable {c : Campaign} (h : c.Runnable) :
    Tolerance.isBound c.tolerance.absolute = true ∧
      Tolerance.isBound c.tolerance.relative = true := by
  have htolerance := h.hasTolerance
  unfold Campaign.hasTolerance at htolerance
  rwa [Bool.and_eq_true] at htolerance

/-- **Verdicts are impartial.** The verdict on two replies does not depend on which evaluator is the
reference: a run with the evaluators in each other's place has the same result, be it the tally or
what stopped it, and the same rounds, texts and verdicts. Under a tolerance that validation accepts
no outcome diverges from itself, and numbers that agree do so under every accepted tolerance whose
bounds are as large or larger. -/
theorem verdicts_impartial :
    (∀ t reference candidate, Verdict.of t reference candidate =
      Verdict.of t candidate reference) ∧
    (∀ (c : Contest) (seed : UInt64),
      (c.exchange.run seed).run {} = Prod.map id Journal.exchange ((c.run seed).run {})) ∧
    (∀ c : Campaign, c.validate = .ok () → ∀ outcome,
      Verdict.of c.tolerance (.ok outcome) (.ok outcome) = .agree ∨
        Verdict.of c.tolerance (.ok outcome) (.ok outcome) = .bothErrored) ∧
    ∀ c c' : Campaign, c.validate = .ok () → c'.validate = .ok () →
      c.tolerance.absolute.le c'.tolerance.absolute = true →
      c.tolerance.relative.le c'.tolerance.relative = true →
      ∀ a b, c.tolerance.accepts a b = true → c'.tolerance.accepts a b = true := by
  refine ⟨Verdict.of_comm, run_exchange, fun c hc outcome => ?self, ?larger⟩
  case self =>
    have hbound := isBound_of_runnable (Campaign.validate_eq_ok_iff.mp hc)
    exact Verdict.of_self hbound.1 outcome
  case larger =>
    intro c c' hc hc' habsolute hrelative a b haccepts
    have hbound := isBound_of_runnable (Campaign.validate_eq_ok_iff.mp hc)
    have hbound' := isBound_of_runnable (Campaign.validate_eq_ok_iff.mp hc')
    exact Tolerance.accepts_mono hbound.2 hbound'.2 habsolute hrelative haccepts

/-- NaN agrees with itself, and the two greatest finite numbers agree even when the relative bound
is 2, so that its product with them is infinite. -/
theorem verdicts_impartial_infinite_product :
    let c : Campaign := {}
    let wide : Campaign := { tolerance := { relative := ⟨0x4000000000000000⟩ } }
    c.validate = .ok () ∧ wide.validate = .ok () ∧
      (Verdict.of c.tolerance (.ok (.value .nan)) (.ok (.value .nan)) = .agree ∨
        Verdict.of c.tolerance (.ok (.value .nan)) (.ok (.value .nan)) = .bothErrored) ∧
      c.tolerance.accepts ⟨0x7fefffffffffffff⟩ ⟨0x7feffffffffffffe⟩ = true ∧
      wide.tolerance.accepts ⟨0x7fefffffffffffff⟩ ⟨0x7feffffffffffffe⟩ = true := by
  intro c wide
  have hc : c.validate = .ok () := by decide +kernel
  have hwide : wide.validate = .ok () := by decide +kernel
  have haccepts : c.tolerance.accepts ⟨0x7fefffffffffffff⟩ ⟨0x7feffffffffffffe⟩ = true := by
    decide +kernel
  obtain ⟨-, -, hself, hlarger⟩ := verdicts_impartial
  refine ⟨hc, hwide, hself c hc _, haccepts, ?_⟩
  exact hlarger c wide hc hwide (by decide +kernel) (by decide +kernel) _ _ haccepts

end Contest

end Crosscheck
