import Crosscheck.Proofs.Campaign.Rounds

/-!
# The tally of played rounds

The verdict on a text depends on the texts that the evaluators got before. This file lists
the verdicts on the texts of a run without a journal, and proves that the tally of played
rounds counts exactly these, each verdict in a place of its own.
-/

namespace Crosscheck

namespace Tally

/-- The number of rounds with a verdict. -/
def count (t : Tally) : Verdict → Nat
  | .agree => t.agreements
  | .bothErrored => t.bothErrored
  | .divergence => t.divergences
  | .unreachable => t.unreachable

/-- A recorded verdict counts for itself and for no other one. -/
theorem count_record (t : Tally) (v w : Verdict) :
    (t.record v).count w = t.count w + if v = w then 1 else 0 := by
  cases v <;> cases w <;> rfl

end Tally

namespace Contest

/-- The verdict on a text, given the texts that both evaluators got before. An evaluator that
does not answer in time has timed out. -/
def verdict (c : Contest) (before : List String) (text : String) : Verdict :=
  Verdict.of c.campaign.tolerance
    (c.withinDeadline (c.reference before.toArray text))
    (c.withinDeadline (c.candidate before.toArray text))

/-- The verdicts on texts that the evaluators get one after the other. -/
def verdicts (c : Contest) : (before : List String) → List String → List Verdict
  | _, [] => []
  | before, text :: texts => c.verdict before text :: c.verdicts (before ++ [text]) texts

variable {c : Contest}

/-- A verdict is among the verdicts on texts if and only if it is the one on some of the texts,
given those before it. -/
theorem mem_verdicts_iff {v : Verdict} {before texts : List String} :
    v ∈ c.verdicts before texts ↔
      ∃ i text, texts[i]? = some text ∧ c.verdict (before ++ texts.take i) text = v := by
  induction texts generalizing before with
  | nil => simp [verdicts]
  | cons text texts ih =>
    rw [verdicts, List.mem_cons, ih]
    constructor
    · rintro (rfl | ⟨i, other, hother, rfl⟩)
      · exact ⟨0, text, rfl, by simp⟩
      · exact ⟨i + 1, other, hother, by simp⟩
    · rintro ⟨i, other, hother, rfl⟩
      cases i with
      | zero =>
        obtain rfl : text = other := by simpa using hother
        exact .inl (by simp)
      | succ i => exact .inr ⟨i, other, by simpa using hother, by simp⟩

/-- The report of a round has the verdict on its text, given the texts in the journal. -/
theorem report_verdict {j : Journal} {before : List String}
    (hreference : j.askedReference = before.toArray)
    (hcandidate : j.askedCandidate = before.toArray) (round : Nat) (text : String) :
    (c.report j round text).verdict = c.verdict before text := by
  simp only [report, verdict, hreference, hcandidate]

/-- The tally of played rounds counts the verdicts on their texts. -/
theorem playAll_count {before : List String} {state : Tally × Journal}
    (hreference : state.2.askedReference = before.toArray)
    (hcandidate : state.2.askedCandidate = before.toArray)
    (round : Nat) (texts : List String) (v : Verdict) :
    (c.playAll round texts state).1.count v =
      state.1.count v + (c.verdicts before texts).count v := by
  induction texts generalizing round before state with
  | nil => rfl
  | cons text texts ih =>
    have hverdict := report_verdict (c := c) hreference hcandidate round text
    have hnext : (c.play round text state).2.askedReference = (before ++ [text]).toArray ∧
        (c.play round text state).2.askedCandidate = (before ++ [text]).toArray := by
      simp [play, Journal.asked, hreference, hcandidate]
    have hcount : (c.play round text state).1.count v =
        state.1.count v + if c.verdict before text = v then 1 else 0 := by
      rw [← hverdict]
      exact state.1.count_record _ v
    rw [playAll, ih hnext.1 hnext.2, hcount, verdicts, List.count_cons]
    simp only [beq_iff_eq]
    omega

/-- The tally of a whole run counts the verdicts on its texts. -/
theorem playAll_count_start (c : Contest) (seed : UInt64) (texts : List String) (v : Verdict) :
    (c.playAll 0 texts ({ seed }, {})).1.count v = (c.verdicts [] texts).count v := by
  have hasked : ({} : Journal).askedReference = [].toArray ∧
      ({} : Journal).askedCandidate = [].toArray := ⟨rfl, rfl⟩
  have hcount : (c.playAll 0 texts ({ seed }, {})).1.count v =
      ({ seed } : Tally).count v + (c.verdicts [] texts).count v :=
    playAll_count hasked.1 hasked.2 0 texts v
  have hnew : ({ seed } : Tally).count v = 0 := by cases v <;> rfl
  rw [hcount, hnew, Nat.zero_add]

end Contest

end Crosscheck
