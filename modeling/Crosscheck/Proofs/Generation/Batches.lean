import Crosscheck.Campaign.Run
import Crosscheck.Proofs.Generation.Draws
import Crosscheck.Proofs.Traversal
import Mathlib.Logic.Relation

/-!
# Batches in any order

The rounds of a batch share nothing, so that they may run side by side and end in any order.
This file describes such a batch by its steps, in each of which one of the pending rounds
ends, and proves that it can only come to what the rounds give one after the other. For the
failures this needs that all failing rounds of a batch fail for the same reason.
-/

namespace Crosscheck

/-- A batch whose rounds run side by side. -/
structure Batch where
  /-- The rounds that have not ended. -/
  pending : List Nat
  /-- The rounds that ended with a text, in the order in which they ended. -/
  finished : List (Nat × String) := []
  /-- The failure that is kept of the rounds that failed. -/
  failure : Option GenerationError := none

namespace Batch

/-- The batch of the rounds `0`, `1`, …, `rounds - 1` before any of them has ended. -/
def start (rounds : Nat) : Batch := { pending := List.range rounds }

/-- What the batch comes to, as soon as this is settled: the failure that is kept, or all the
texts in the order of their rounds. -/
def result? (b : Batch) : Option (Except GenerationError (List String)) :=
  match b.failure with
  | some error => some (.error error)
  | none =>
    if b.pending.isEmpty then
      some (.ok ((b.finished.mergeSort fun p q => p.1 ≤ q.1).map (·.2)))
    else none

variable {outcome : Nat → Except GenerationError String} {rounds : Nat} {b b' : Batch}

/-- One of the pending rounds ends. Of several failures any one may be kept. -/
inductive Step (outcome : Nat → Except GenerationError String) (b : Batch) : Batch → Prop
  | text {round : Nat} {text : String} {rest : List Nat}
      (hpending : b.pending.Perm (round :: rest)) (houtcome : outcome round = .ok text) :
      Step outcome b { b with pending := rest, finished := b.finished ++ [(round, text)] }
  | failure {round : Nat} {error kept : GenerationError} {rest : List Nat}
      (hpending : b.pending.Perm (round :: rest)) (houtcome : outcome round = .error error)
      (hkept : kept = error ∨ b.failure = some kept) :
      Step outcome b { b with pending := rest, failure := some kept }

/-- Any number of rounds end, one after the other. -/
abbrev Steps (outcome : Nat → Except GenerationError String) : Batch → Batch → Prop :=
  Relation.ReflTransGen (Step outcome)

/-- What holds of a batch while its rounds end. -/
structure Sound (outcome : Nat → Except GenerationError String) (rounds : Nat) (b : Batch) :
    Prop where
  pending_lt : ∀ round ∈ b.pending, round < rounds
  outcome_of_finished : ∀ p ∈ b.finished, outcome p.1 = .ok p.2
  exists_failing : ∀ error, b.failure = some error →
    ∃ round < rounds, outcome round = .error error
  perm_range : b.failure = none →
    (b.pending ++ b.finished.map (·.1)).Perm (List.range rounds)

/-- Before any round has ended, all are pending. -/
theorem sound_start : (start rounds).Sound outcome rounds := by
  refine ⟨fun round hround => List.mem_range.mp hround, by simp [start], by simp [start], ?_⟩
  intro _
  simp [start]

/-- The step lemma: the end of a round keeps the batch sound. -/
theorem Sound.step (h : b.Sound outcome rounds) (hstep : Step outcome b b') :
    b'.Sound outcome rounds := by
  cases hstep with
  | @text round text rest hpending houtcome =>
    refine ⟨fun other hother => h.pending_lt other (hpending.mem_iff.mpr (by simp [hother])),
      ?_, h.exists_failing, ?_⟩
    · intro p hp
      rcases List.mem_append.mp hp with hp | hp
      · exact h.outcome_of_finished p hp
      · rw [List.mem_singleton.mp hp]
        exact houtcome
    · intro hnone
      refine .trans ?_ (h.perm_range hnone)
      have hend : (rest ++ (b.finished ++ [(round, text)]).map (·.1)).Perm
          (round :: rest ++ b.finished.map (·.1)) := by
        rw [List.map_append, ← List.append_assoc]
        exact List.perm_append_singleton round _
      exact hend.trans (hpending.symm.append_right _)
  | @failure round error kept rest hpending houtcome hkept =>
    refine ⟨fun other hother => h.pending_lt other (hpending.mem_iff.mpr (by simp [hother])),
      h.outcome_of_finished, ?_, nofun⟩
    rintro other ⟨⟩
    rcases hkept with rfl | hkept
    · exact ⟨round, h.pending_lt round (hpending.mem_iff.mpr (by simp)), houtcome⟩
    · exact h.exists_failing _ hkept

/-- The run lemma: a batch stays sound whatever the order in which its rounds end. -/
theorem Sound.steps (h : b.Sound outcome rounds) (hsteps : Steps outcome b b') :
    b'.Sound outcome rounds := by
  induction hsteps with
  | refl => exact h
  | tail _ hstep ih => exact ih.step hstep

/-- A batch that comes to a failure has a failing round. -/
theorem Sound.exists_of_result?_error (h : b.Sound outcome rounds) {error : GenerationError}
    (hresult : b.result? = some (.error error)) :
    ∃ round < rounds, outcome round = .error error := by
  unfold result? at hresult
  split at hresult
  · rename_i kept hfailure
    cases hresult
    exact h.exists_failing _ hfailure
  · split at hresult <;> cases hresult

/-- Sorted by their numbers, rounds that are the first ones in some order are the first ones. -/
theorem map_fst_mergeSort {finished : List (Nat × String)}
    (h : (finished.map (·.1)).Perm (List.range rounds)) :
    (finished.mergeSort fun p q => p.1 ≤ q.1).map (·.1) = List.range rounds := by
  have hperm := List.mergeSort_perm finished fun p q => p.1 ≤ q.1
  have hsorted : (finished.mergeSort fun p q => p.1 ≤ q.1).Pairwise
      fun p q => decide (p.1 ≤ q.1) = true := by
    refine List.pairwise_mergeSort ?_ ?_ finished
    · intro p q r hpq hqr
      simp only [decide_eq_true_eq] at hpq hqr ⊢
      exact Nat.le_trans hpq hqr
    · intro p q
      simpa using Nat.le_total p.1 q.1
  have hle : ((finished.mergeSort fun p q => p.1 ≤ q.1).map (·.1)).Pairwise (· ≤ ·) :=
    List.pairwise_map.mpr (hsorted.imp of_decide_eq_true)
  exact ((hperm.map _).trans h).eq_of_pairwise (fun _ _ _ _ => Nat.le_antisymm) hle
    List.pairwise_le_range

/-- A batch that comes to texts has those of its rounds, in the order of the rounds. -/
theorem Sound.map_ok_of_result?_ok (h : b.Sound outcome rounds) {texts : List String}
    (hresult : b.result? = some (.ok texts)) :
    texts.map .ok = (List.range rounds).map outcome := by
  unfold result? at hresult
  split at hresult
  · cases hresult
  rename_i hnone
  split at hresult
  swap
  · cases hresult
  rename_i hempty
  cases hresult
  have hrounds := h.perm_range hnone
  rw [List.isEmpty_iff.mp hempty, List.nil_append] at hrounds
  rw [← map_fst_mergeSort hrounds, List.map_map, List.map_map]
  refine List.map_congr_left fun p hp => ?_
  exact (h.outcome_of_finished p (List.mem_mergeSort.mp hp)).symm

/-- The rounds of a batch can end, and then the batch has come to something. -/
theorem exists_steps_result? (outcome : Nat → Except GenerationError String) (b : Batch) :
    ∃ b' result, Steps outcome b b' ∧ b'.result? = some result := by
  obtain ⟨pending, finished, failure⟩ := b
  induction pending generalizing finished failure with
  | nil =>
    cases failure with
    | none => exact ⟨_, _, .refl, rfl⟩
    | some error => exact ⟨_, _, .refl, rfl⟩
  | cons round rest ih =>
    cases houtcome : outcome round with
    | ok text =>
      obtain ⟨b', result, hsteps, hresult⟩ := ih (finished ++ [(round, text)]) failure
      exact ⟨b', result, .head (.text (.refl _) houtcome) hsteps, hresult⟩
    | error error =>
      obtain ⟨b', result, hsteps, hresult⟩ := ih finished (some error)
      exact ⟨b', result, .head (.failure (.refl _) houtcome (.inl rfl)) hsteps, hresult⟩

end Batch

namespace Dialect

variable {d : Dialect} {length : Nat} {seed : UInt64} {patience : Nat}

/-- Why a dialect has no expressions of a length, whatever the words are. -/
def refusal? (d : Dialect) (length : Nat) : Option GenerationError :=
  match d.fault? with
  | some fault => some (.dialect fault)
  | none => if length < minimumLength then some (.lengthTooShort length) else none

/-- There is a reason exactly when validation fails or the length is too short. -/
theorem refusal?_eq_none_iff : d.refusal? length = none ↔ d.validate = .ok () ∧ 2 ≤ length := by
  unfold refusal? validate
  cases d.fault? with
  | some fault => simp
  | none =>
    by_cases hshort : length < 2
    · simp [minimumLength, hshort]
    · simp [minimumLength, hshort, Nat.le_of_not_lt hshort]

/-- With such a reason every round of every seed fails for it. -/
theorem expression_of_refusal? {error : GenerationError} (h : d.refusal? length = some error)
    (seed : UInt64) (round patience : Nat) :
    d.expression length seed round patience = .error error := by
  unfold refusal? at h
  unfold expression ready validate
  cases hfault : d.fault? with
  | some fault =>
    simp only [hfault] at h
    cases h
    rfl
  | none =>
    simp only [hfault] at h
    split at h
    · rename_i hshort
      cases h
      rw [drawExpression, if_pos hshort]
      rfl
    · cases h

/-- Without such a reason a round fails only when its source gives up. -/
theorem eq_sourceExhausted_of_expression (h : d.refusal? length = none) {round : Nat}
    {error : GenerationError} (herror : d.expression length seed round patience = .error error) :
    error = .sourceExhausted := by
  obtain ⟨hvalid, hlength⟩ := refusal?_eq_none_iff.mp h
  have hd := validate_eq_ok_iff.mp hvalid
  rw [expression_eq_map hd] at herror
  by_contra hother
  have hrun : (d.drawExpression length).run (roundStream seed round patience) ≠
      .error .sourceExhausted := by
    intro hstop
    rw [hstop] at herror
    cases herror
    exact hother rfl
  obtain ⟨tokens, s', htokens, -⟩ := (yields_drawExpression hd hlength).exists_ok hrun
  have hok : (d.drawExpression length).run (roundStream seed round patience) =
      .ok (tokens, s') := htokens
  rw [hok] at herror
  cases herror

/-- All rounds that fail do so for the same reason. -/
theorem error_eq_of_expression {round round' : Nat} {error error' : GenerationError}
    (h : d.expression length seed round patience = .error error)
    (h' : d.expression length seed round' patience = .error error') : error = error' := by
  cases hrefusal : d.refusal? length with
  | some reason =>
    rw [expression_of_refusal? hrefusal] at h h'
    cases h
    cases h'
    rfl
  | none =>
    rw [eq_sourceExhausted_of_expression hrefusal h, eq_sourceExhausted_of_expression hrefusal h']

/-- The expressions of consecutive rounds are those of the single rounds. -/
theorem expressionsFrom_eq_mapM (count first : Nat) :
    d.expressionsFrom length seed patience count first =
      (List.range' first count).mapM (d.expression length seed · patience) := by
  induction count generalizing first with
  | zero => rfl
  | succ count ih =>
    rw [expressionsFrom, List.range'_succ, List.mapM_cons]
    exact bind_congr fun text => by rw [ih]

/-- A round of a base seed is a round of any base seed so many rounds before it. -/
theorem expression_add (first round : Nat) :
    d.expression length seed (first + round) patience =
      d.expression length (seed + UInt64.ofNat first) round patience := by
  simp only [expression, roundStream, UInt64.ofNat_add, UInt64.add_assoc]

/-- A batch is a batch of its first rounds and one of the rest, from a base seed that is as
much larger. -/
theorem expressions_add (k n : Nat) :
    d.expressions length seed (k + n) patience = (do
      let texts ← d.expressions length seed k patience
      let more ← d.expressions length (seed + UInt64.ofNat k) n patience
      pure (texts ++ more)) := by
  have hrest : (List.range' k n).mapM (d.expression length seed · patience) =
      (List.range' 0 n).mapM (d.expression length (seed + UInt64.ofNat k) · patience) := by
    have hrange : List.range' k n = (List.range' 0 n).map (k + ·) :=
      (List.map_add_range' 0 n 1).symm
    rw [hrange, List.mapM_map]
    exact congrArg (List.mapM · _) (funext fun round => expression_add k round)
  simp only [expressions, expressionsFrom_eq_mapM]
  rw [← List.range'_append_1, List.mapM_append, Nat.zero_add, hrest]

/-- A batch has the texts of its rounds, in order. -/
theorem expressions_eq_ok_iff {rounds : Nat} {texts : List String} :
    d.expressions length seed rounds patience = .ok texts ↔
      texts.map .ok = (List.range rounds).map (d.expression length seed · patience) := by
  rw [expressions, expressionsFrom_eq_mapM, mapM_eq_ok_iff, List.range_eq_range']

/-- A batch with a failing round fails, for the reason of this round. -/
theorem expressions_eq_error {rounds round : Nat} {error : GenerationError}
    (hround : round < rounds) (h : d.expression length seed round patience = .error error) :
    d.expressions length seed rounds patience = .error error := by
  cases hbatch : d.expressions length seed rounds patience with
  | ok texts =>
    have hmem : (.error error) ∈ texts.map (Except.ok (ε := GenerationError)) := by
      rw [expressions_eq_ok_iff.mp hbatch, ← h]
      exact List.mem_map_of_mem (List.mem_range.mpr hround)
    simp at hmem
  | error other =>
    rw [expressions, expressionsFrom_eq_mapM] at hbatch
    obtain ⟨failing, -, hfailing⟩ := exists_mem_of_mapM_eq_error hbatch
    rw [error_eq_of_expression h hfailing]

/-- Whatever a batch comes to when its rounds run side by side is the batch. -/
theorem eq_expressions_of_sound {rounds : Nat} {b : Batch}
    (hb : b.Sound (d.expression length seed · patience) rounds)
    {result : Except GenerationError (List String)} (hresult : b.result? = some result) :
    result = d.expressions length seed rounds patience := by
  cases result with
  | ok texts => exact (expressions_eq_ok_iff.mpr (hb.map_ok_of_result?_ok hresult)).symm
  | error error =>
    obtain ⟨round, hround, herror⟩ := hb.exists_of_result?_error hresult
    exact (expressions_eq_error hround herror).symm

/-- Validation and the length decide whether rounds can fail: without a reason to refuse them
all, rounds whose sources do not give up have texts. -/
theorem exists_expressions (h : d.refusal? length = none) {rounds : Nat}
    (hstops : ∀ round < rounds,
      d.expression length seed round patience ≠ .error .sourceExhausted) :
    ∃ texts, d.expressions length seed rounds patience = .ok texts := by
  cases hbatch : d.expressions length seed rounds patience with
  | ok texts => exact ⟨texts, rfl⟩
  | error error =>
    rw [expressions, expressionsFrom_eq_mapM] at hbatch
    obtain ⟨round, hround, herror⟩ := exists_mem_of_mapM_eq_error hbatch
    have hlt : round < rounds := by simpa using hround
    rw [eq_sourceExhausted_of_expression h herror] at herror
    exact absurd herror (hstops round hlt)

/-- **A batch is what its rounds give by themselves, in whatever order they end.** Run side by
side, its rounds can always come to a result, and only to that of the batch. A batch without
rounds has no texts. When validation rejects the dialect or the length is too short, all rounds
fail for one reason, and so does the batch. Otherwise, with sources that do not give up, the
batch has as many texts as rounds, and each is the one of its round, which is the first round
of the base seed plus the number of the round. A batch falls into batches of its parts. -/
theorem expressions_independent_rounds (d : Dialect) (length : Nat) (seed : UInt64)
    (patience : Nat) :
    (∀ rounds b, Batch.Steps (d.expression length seed · patience) (.start rounds) b →
      (∀ result, b.result? = some result →
        result = d.expressions length seed rounds patience) ∧
      ∃ b', Batch.Steps (d.expression length seed · patience) b b' ∧
        b'.result? = some (d.expressions length seed rounds patience)) ∧
    d.expressions length seed 0 patience = .ok [] ∧
    (d.validate ≠ .ok () ∨ length < 2 → ∃ error,
      error ≠ .sourceExhausted ∧
      (∀ round, d.expression length seed round patience = .error error) ∧
      ∀ rounds, 0 < rounds → d.expressions length seed rounds patience = .error error) ∧
    (d.validate = .ok () → 2 ≤ length → ∀ rounds,
      (∀ round < rounds, d.expression length seed round patience ≠ .error .sourceExhausted) →
      ∃ texts, d.expressions length seed rounds patience = .ok texts ∧
        texts.length = rounds ∧ ∀ round text, texts[round]? = some text →
          ({ dialect := d, length } : Campaign).source patience seed round = .ok text ∧
          d.expression length (seed + UInt64.ofNat round) 0 patience = .ok text) ∧
    ∀ k n, d.expressions length seed (k + n) patience = (do
      let texts ← d.expressions length seed k patience
      let more ← d.expressions length (seed + UInt64.ofNat k) n patience
      pure (texts ++ more)) := by
  refine ⟨fun rounds b hsteps => ?_, rfl, fun hrefused => ?_,
    fun hvalid hlength rounds hstops => ?_, expressions_add⟩
  · have hb := Batch.sound_start.steps hsteps
    obtain ⟨b', result, hmore, hresult⟩ := Batch.exists_steps_result? _ b
    refine ⟨fun _ => eq_expressions_of_sound hb, b', hmore, ?_⟩
    rw [hresult, eq_expressions_of_sound (hb.steps hmore) hresult]
  · cases hrefusal : d.refusal? length with
    | none =>
      obtain ⟨hvalid, hlength⟩ := refusal?_eq_none_iff.mp hrefusal
      rcases hrefused with hinvalid | hshort
      · exact absurd hvalid hinvalid
      · omega
    | some error =>
      have hrounds := expression_of_refusal? hrefusal seed
      refine ⟨error, ?_, fun round => hrounds round patience, fun rounds hpos =>
        expressions_eq_error hpos (hrounds 0 patience)⟩
      rintro rfl
      unfold refusal? at hrefusal
      repeat' split at hrefusal
      all_goals cases hrefusal
  · obtain ⟨texts, htexts⟩ :=
      exists_expressions (refusal?_eq_none_iff.mpr ⟨hvalid, hlength⟩) hstops
    have hmap := expressions_eq_ok_iff.mp htexts
    have hcount : texts.length = rounds := by simpa using congrArg List.length hmap
    refine ⟨texts, htexts, hcount, fun round text htext => ?_⟩
    have hexpression : d.expression length seed round patience = .ok text := by
      have hround : round < rounds := hcount ▸ (List.getElem?_eq_some_iff.mp htext).1
      have hget := congrArg (·[round]?) hmap
      simpa [htext, List.getElem?_range hround, eq_comm] using hget
    exact ⟨hexpression, (expression_add round 0).symm.trans hexpression⟩

/-- Three rounds of the largest seed that end in the order 2, 0, 1; the second and the third
have the seeds 0 and 1. No round has an expression of length 1. -/
theorem expressions_independent_rounds_largest_seed :
    let d : Dialect := {}
    let seed : UInt64 := 0xFFFFFFFFFFFFFFFF
    d.expressions 4 seed 3 8 = .ok ["(8-21)", "21+22", "6/(10)"] ∧
      d.expression 4 0 0 8 = .ok "21+22" ∧ d.expression 4 1 0 8 = .ok "6/(10)" ∧
      ∃ error, d.expressions 1 seed 3 8 = .error error := by
  intro d seed
  have hrounds : d.expression 4 seed 0 8 = .ok "(8-21)" ∧ d.expression 4 seed 1 8 = .ok "21+22" ∧
      d.expression 4 seed 2 8 = .ok "6/(10)" := by decide +kernel
  obtain ⟨hfirst, hsecond, hthird⟩ := hrounds
  have hsteps : Batch.Steps (d.expression 4 seed · 8) (.start 3)
      { pending := [], finished := [(2, "6/(10)"), (0, "(8-21)"), (1, "21+22")] } :=
    .head (.text (show [0, 1, 2].Perm [2, 0, 1] by decide) hthird)
      (.head (.text (show [0, 1].Perm [0, 1] by decide) hfirst)
        (.head (.text (show [1].Perm [1] by decide) hsecond) .refl))
  obtain ⟨horder, -, -, htexts, -⟩ := expressions_independent_rounds d 4 seed 8
  have hbatch := (horder 3 _ hsteps).1 (.ok ["(8-21)", "21+22", "6/(10)"])
    (by simp [Batch.result?, List.mergeSort, List.MergeSort.Internal.splitInTwo])
  have hstops : ∀ round < 3, d.expression 4 seed round 8 ≠ .error .sourceExhausted := by
    intro round hround
    obtain rfl | rfl | rfl : round = 0 ∨ round = 1 ∨ round = 2 := by omega
    · simp [hfirst]
    · simp [hsecond]
    · simp [hthird]
  obtain ⟨texts, hexpressions, -, hsingle⟩ := htexts (by decide +kernel) (by decide) 3 hstops
  obtain rfl : _ = texts := Except.ok.inj (hbatch.trans hexpressions)
  obtain ⟨-, -, hshort, -⟩ := expressions_independent_rounds d 1 seed 8
  obtain ⟨error, -, -, herror⟩ := hshort (.inr (by decide))
  have hone := (hsingle 1 "21+22" rfl).2
  have htwo := (hsingle 2 "6/(10)" rfl).2
  have hwrap : seed + UInt64.ofNat 1 = 0 ∧ seed + UInt64.ofNat 2 = 1 := by decide
  rw [hwrap.1] at hone
  rw [hwrap.2] at htwo
  exact ⟨hbatch.symm, hone, htwo, error, herror 3 (by decide)⟩

end Dialect

end Crosscheck
