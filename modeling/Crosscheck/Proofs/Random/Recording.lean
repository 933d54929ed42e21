import Crosscheck.Random.Sampling

/-!
# Recording the words of a draw

A recorded source keeps the words that are taken from it, in order. A draw from it yields what a
draw from the source itself yields: recording changes nothing, and a draw only adds words to the
record, the same ones whatever has been recorded before.
-/

namespace Crosscheck

/-- A word taken from a source. -/
inductive Word where
  | narrow (word : UInt32)
  | wide (word : UInt64)
deriving DecidableEq

/-- A source together with the words taken from it. -/
structure Recorded (σ : Type) where
  source : σ
  words : List Word := []

instance {σ : Type} [WordSource σ] : WordSource (Recorded σ) where
  next32 r :=
    let (word, source) := WordSource.next32 r.source
    (word, ⟨source, r.words ++ [.narrow word]⟩)
  next64 r :=
    let (word, source) := WordSource.next64 r.source
    (word, ⟨source, r.words ++ [.wide word]⟩)
  patience r := WordSource.patience r.source

namespace Sampling

variable {σ α : Type}

/-- Whether a draw from recorded sources is a draw from the sources themselves that adds the
words it takes to the record. -/
def Records (recorded : Recorded σ → Option (α × Recorded σ)) (sample : σ → Option (α × σ)) :
    Prop :=
  ∀ s, ∃ taken, ∀ words,
    recorded ⟨s, words⟩ = (sample s).map fun (a, s') => (a, ⟨s', words ++ taken⟩)

/-- Words that are refused are recorded like the one that is accepted. -/
theorem records_untilAccepted {ω : Type} {next : σ → ω × σ}
    {nextRecorded : Recorded σ → ω × Recorded σ} (entry : ω → Word)
    (hnext : ∀ s words,
      nextRecorded ⟨s, words⟩ = ((next s).1, ⟨(next s).2, words ++ [entry (next s).1]⟩))
    (accept : ω → Option α) (patience : Nat) :
    Records (untilAccepted nextRecorded accept patience) (untilAccepted next accept patience) := by
  induction patience with
  | zero => exact fun s => ⟨[], fun words => rfl⟩
  | succ patience ih =>
    intro s
    cases haccept : accept (next s).1 with
    | some a => exact ⟨[entry (next s).1], fun words => by simp [untilAccepted, hnext, haccept]⟩
    | none =>
      obtain ⟨taken, htaken⟩ := ih (next s).2
      refine ⟨entry (next s).1 :: taken, fun words => ?_⟩
      simp [untilAccepted, hnext, haccept, htaken]

variable [WordSource σ]

/-- Draws with 64-bit words are recorded. -/
theorem records_draw64 (accept : UInt64 → Option α) :
    Records (draw64 (σ := Recorded σ) accept) (draw64 accept) := fun s =>
  records_untilAccepted .wide (fun _ _ => rfl) accept (WordSource.patience s) s

/-- Draws with 32-bit words are recorded. -/
theorem records_draw32 (accept : UInt32 → Option α) :
    Records (draw32 (σ := Recorded σ) accept) (draw32 accept) := fun s =>
  records_untilAccepted .narrow (fun _ _ => rfl) accept (WordSource.patience s) s

/-- A number below a size is drawn with recorded words. -/
theorem records_below64 (size : Nat) :
    Records (below64 (σ := Recorded σ) size) (below64 size) := records_draw64 _

/-- An index is drawn with recorded words. -/
theorem records_index (size : Nat) : Records (index (σ := Recorded σ) size) (index size) := by
  unfold index
  split
  · exact records_draw32 _
  · exact records_below64 size

/-- A weighted index is drawn with recorded words. -/
theorem records_weighted (weights : List Nat) :
    Records (weighted (σ := Recorded σ) weights) (weighted weights) := records_draw32 _

/-- An integer between two bounds is drawn with recorded words. -/
theorem records_between (min max : Int64) :
    Records (between (σ := Recorded σ) min max) (between min max) := by
  intro s
  by_cases hzero : (max - min).toUInt64 + 1 = 0
  · refine ⟨[.wide (WordSource.next64 s).1], fun words => ?_⟩
    simp only [between, if_pos hzero]
    rfl
  · obtain ⟨taken, htaken⟩ := records_below64 ((max - min).toUInt64 + 1).toNat s
    refine ⟨taken, fun words => ?_⟩
    simp only [between, if_neg hzero, htaken, Option.map_map]
    rfl

end Sampling

end Crosscheck
