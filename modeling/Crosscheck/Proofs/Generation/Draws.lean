import Crosscheck.Generation.Seeded
import Crosscheck.Proofs.Expression.Buffers
import Crosscheck.Proofs.Random.Sampling

/-!
# What a dialect draws

An action that draws from a word source is described by what it yields whatever the words
are, provided that the source does not give up. A usable dialect yields, slot by slot, draws
of its own in alternation, and an expression is the balanced draft that they make.
-/

namespace Crosscheck

namespace Drawing

section Yields

variable {σ α β : Type} {action : Drawing σ α} {Q : α → Prop} {R : β → Prop}

/-- The values of an action meet a condition, and nothing makes it fail except a source that
gives up. -/
def Yields (action : Drawing σ α) (Q : α → Prop) : Prop :=
  ∀ s, match action s with
    | .ok (a, _) => Q a
    | .error error => error = .sourceExhausted

/-- An action that does not run out of words has a value, and the value is as described. -/
theorem Yields.exists_ok (h : action.Yields Q) {s : σ} (hs : action s ≠ .error .sourceExhausted) :
    ∃ a s', action s = .ok (a, s') ∧ Q a := by
  have hvalue := h s
  cases hresult : action s with
  | ok result =>
    rw [hresult] at hvalue
    exact ⟨result.1, result.2, rfl, hvalue⟩
  | error error =>
    rw [hresult] at hvalue
    subst hvalue
    exact absurd hresult hs

/-- A value that is given meets what it meets. -/
theorem Yields.pure {a : α} (h : Q a) : Yields (σ := σ) (Pure.pure a) Q := fun _ => h

/-- A weaker description holds too. -/
theorem Yields.mono {Q' : α → Prop} (h : action.Yields Q) (himp : ∀ a, Q a → Q' a) :
    action.Yields Q' := by
  intro s
  have hvalue := h s
  cases hresult : action s with
  | ok result =>
    rw [hresult] at hvalue
    exact himp _ hvalue
  | error error =>
    rw [hresult] at hvalue
    exact hvalue

/-- An action followed by another one yields what the second yields on values of the first. -/
theorem Yields.bind {next : α → Drawing σ β} (h : action.Yields Q)
    (hnext : ∀ a, Q a → (next a).Yields R) : (action >>= next).Yields R := by
  intro s
  have hvalue := h s
  simp only [Bind.bind, StateT.bind, Except.bind]
  cases hresult : action s with
  | ok result =>
    rw [hresult] at hvalue
    exact hnext _ hvalue result.2
  | error error =>
    rw [hresult] at hvalue
    exact hvalue

/-- A function applied to what an action yields. -/
theorem Yields.map {f : α → β} (h : action.Yields fun a => R (f a)) : (f <$> action).Yields R := by
  rw [map_eq_pure_bind]
  exact h.bind fun _ ha => .pure ha

/-- A sample yields what the sampling function does. -/
theorem yields_ofSample {sample : σ → Option (α × σ)}
    (h : ∀ {s a s'}, sample s = some (a, s') → Q a) : (ofSample sample).Yields Q := by
  intro s
  unfold ofSample
  cases hsample : sample s with
  | some drawn => exact h hsample
  | none => rfl

/-- An action repeated yields as many values as it is repeated. -/
theorem Yields.replicate (h : action.Yields Q) (n : Nat) :
    (replicate action n).Yields fun as => as.length = n ∧ ∀ a ∈ as, Q a := by
  induction n with
  | zero => exact .pure ⟨rfl, by simp⟩
  | succ n ih =>
    refine h.bind fun a ha => ih.bind fun as has => .pure ⟨?_, ?_⟩
    · rw [List.length_cons, has.1]
    · simpa using ⟨ha, has.2⟩

end Yields

variable {σ : Type} [WordSource σ]

/-- A choice from a list that is not empty yields one of its elements. -/
theorem yields_oneOf {α : Type} {items : List α} {ifEmpty : DialectFault} (h : items ≠ []) :
    (oneOf (σ := σ) items ifEmpty).Yields (· ∈ items) := by
  have hpos := List.length_pos_iff.mpr h
  have hnonempty : ¬items.isEmpty = true := by simp [h]
  unfold oneOf
  rw [if_neg hnonempty]
  refine (yields_ofSample (Sampling.index_lt hpos)).bind ?_
  intro i hi
  rw [List.getElem?_eq_getElem hi]
  exact .pure (List.getElem_mem hi)

/-- A literal from a range that is not empty lies in the range. -/
theorem yields_literal {r : LiteralRange} (h : r.min ≤ r.max) :
    (literal (σ := σ) r).Yields (r.contains · = true) :=
  yields_ofSample fun hn => LiteralRange.contains_iff.mpr (Sampling.between_mem h hn)

/-- A coin shows anything. -/
theorem yields_coin : (coin (σ := σ)).Yields fun _ => True := fun _ => trivial

end Drawing

namespace Dialect

open Drawing

/-- The number of further arguments that a call to `name` is drawn with. -/
def TakesExtra (d : Dialect) (name : String) (count : Nat) : Prop :=
  if d.isVariadic name && 0 < d.maxExtraArguments then
    1 ≤ count ∧ count ≤ d.maxExtraArguments.toNat
  else count = 0

/-- Whether the weights leave room for a draw, and a call has as many arguments as it may. -/
def Chooses (d : Dialect) : SlotDraw → Prop
  | .operator _ => True
  | .call name _ extra => 0 < d.weights.call ∧ d.TakesExtra name extra.length
  | .group .. => 0 < d.weights.group
  | .operand _ => 0 < d.weights.operand

/-- The draws that a dialect makes. -/
def Draws (d : Dialect) (draw : SlotDraw) : Prop := d.Admits draw ∧ d.Chooses draw

instance (d : Dialect) (name : String) (count : Nat) : Decidable (d.TakesExtra name count) :=
  inferInstanceAs (Decidable (if d.isVariadic name && 0 < d.maxExtraArguments then
    1 ≤ count ∧ count ≤ d.maxExtraArguments.toNat else count = 0))

instance (d : Dialect) : DecidablePred d.Draws
  | .operator c => inferInstanceAs (Decidable (c ∈ d.operators ∧ True))
  | .call name first extra => decidable_of_iff ((name ∈ d.functions ∧
      d.firstArgumentRange.contains first = true ∧
      extra.all d.extraArgumentRange.contains = true) ∧
      0 < d.weights.call ∧ d.TakesExtra name extra.length) (by simp [Draws, Admits, Chooses])
  | .group _ n => inferInstanceAs (Decidable (d.groupOperandRange.contains n = true ∧
      0 < d.weights.group))
  | .operand n => inferInstanceAs (Decidable (d.operandRange.contains n = true ∧
      0 < d.weights.operand))

/-- The most arguments that a call to `name` is drawn with: the first one, and for a variadic
function as many further ones as the bound says. -/
def mostArguments (d : Dialect) (name : String) : Nat :=
  if d.isVariadic name then 1 + d.maxExtraArguments.toNat else 1

/-- The numbers of further arguments that are drawn, counted with the first argument. -/
theorem takesExtra_iff {d : Dialect} {name : String} {count : Nat} :
    d.TakesExtra name count ↔
      d.minArguments name ≤ count + 1 ∧ count + 1 ≤ d.mostArguments name := by
  unfold TakesExtra minArguments mostArguments
  by_cases hvariadic : d.isVariadic name = true
  · by_cases hextra : 0 < d.maxExtraArguments
    · simp only [hvariadic, hextra, decide_true, Bool.and_self, if_true]
      omega
    · have hzero : d.maxExtraArguments.toNat = 0 := by
        rw [UInt64.lt_iff_toNat_lt] at hextra
        exact Nat.eq_zero_of_not_pos hextra
      simp only [hvariadic, hextra, hzero, decide_false, Bool.and_false, Bool.false_eq_true,
        if_false, if_true]
      omega
  · simp only [hvariadic, Bool.false_and, Bool.false_eq_true, if_false]
    omega

/-- The checker allows as many arguments as are drawn when that many can be counted. -/
theorem maxArguments_eq_mostArguments {d : Dialect} {name : String}
    (h : d.isVariadic name = true → 1 + d.maxExtraArguments.toNat < UInt64.size) :
    d.maxArguments name = some (d.mostArguments name) := by
  unfold maxArguments mostArguments
  split
  · exact if_pos (h ‹_›)
  · rfl

variable {d : Dialect} {σ : Type} [WordSource σ]

/-- A call is drawn from the functions and ranges of the dialect. -/
theorem yields_drawCall (hd : d.Usable) (hweight : 0 < d.weights.call) :
    (d.drawCall (σ := σ)).Yields fun draw => d.Draws draw ∧ draw.isOperator = false := by
  refine (yields_oneOf (hd.functions_ne_nil hweight)).bind fun name hname => ?_
  refine (yields_literal (hd.range_min_le_max .firstArgument)).bind fun first hfirst => ?_
  by_cases hextra : (d.isVariadic name && decide (0 < d.maxExtraArguments)) = true
  · rw [if_pos hextra]
    have hpos : 0 < d.maxExtraArguments.toNat := by
      simp only [Bool.and_eq_true, decide_eq_true_eq] at hextra
      exact UInt64.lt_iff_toNat_lt.mp hextra.2
    refine (yields_ofSample (Sampling.below64_lt hpos)).bind fun fewer hfewer => ?_
    refine ((yields_literal (hd.range_min_le_max .extraArgument)).replicate (fewer + 1)).bind ?_
    rintro extra ⟨hlength, hliterals⟩
    refine .pure ⟨⟨⟨hname, hfirst, hliterals⟩, hweight, ?_⟩, rfl⟩
    rw [TakesExtra, if_pos hextra]
    omega
  · rw [if_neg hextra]
    refine .pure ⟨⟨⟨hname, hfirst, by simp⟩, hweight, ?_⟩, rfl⟩
    rw [TakesExtra, if_neg hextra]
    rfl

/-- A parenthesised operand is drawn from its range. -/
theorem yields_drawGroup (hd : d.Usable) (hweight : 0 < d.weights.group) :
    (d.drawGroup (σ := σ)).Yields fun draw => d.Draws draw ∧ draw.isOperator = false :=
  yields_coin.bind fun _ _ =>
    (yields_literal (hd.range_min_le_max .groupOperand)).bind fun _ hn =>
      .pure ⟨⟨hn, hweight⟩, rfl⟩

/-- Even slots are filled with operators, odd ones with draws for an operand slot. -/
theorem yields_drawSlot (hd : d.Usable) (slot : Nat) :
    (d.drawSlot (σ := σ) slot).Yields fun draw =>
      d.Draws draw ∧ draw.isOperator = decide (slot % 2 = 0) := by
  unfold drawSlot
  by_cases hslot : slot % 2 = 0
  · rw [if_pos hslot]
    apply Yields.map
    refine (yields_oneOf hd.operators_ne_nil).mono fun c hc => ?_
    exact ⟨⟨hc, trivial⟩, by simp [SlotDraw.isOperator, hslot]⟩
  · rw [if_neg hslot]
    simp only [hslot, decide_false]
    have htotal : 0 < Sampling.totalWeight [d.weights.call.toNat, d.weights.group.toNat,
        d.weights.operand.toNat] := by
      have hpos := hd.total_pos
      simp only [SlotWeights.total] at hpos
      simp only [Sampling.totalWeight]
      omega
    refine (yields_ofSample (Sampling.exists_weight_of_weighted htotal)).bind ?_
    rintro category ⟨w, hw, hpos⟩
    rcases category with _ | _ | _ | category
    · cases hw
      exact yields_drawCall hd (UInt32.lt_iff_toNat_lt.mpr hpos)
    · cases hw
      exact yields_drawGroup hd (UInt32.lt_iff_toNat_lt.mpr hpos)
    · cases hw
      apply Yields.map
      refine (yields_literal (hd.range_min_le_max .operand)).mono fun n hn => ?_
      exact ⟨⟨hn, UInt32.lt_iff_toNat_lt.mpr hpos⟩, rfl⟩
    · simp at hw

/-- The draws for `count` slots in a row, the first of them numbered `slot`. -/
def drawSlots (d : Dialect) : (count slot : Nat) → Drawing σ (List SlotDraw)
  | 0, _ => pure []
  | count + 1, slot => do
    let draw ← d.drawSlot slot
    let draws ← d.drawSlots count (slot + 1)
    pure (draw :: draws)

/-- The run lemma: slots in a row are drawn from the dialect in alternation. -/
theorem yields_drawSlots (hd : d.Usable) (count slot : Nat) :
    (d.drawSlots (σ := σ) count slot).Yields fun draws =>
      draws.length = count ∧ Alternate (decide (slot % 2 = 0)) draws ∧
        ∀ draw ∈ draws, d.Draws draw := by
  induction count generalizing slot with
  | zero => exact .pure ⟨rfl, trivial, by simp⟩
  | succ count ih =>
    refine (yields_drawSlot hd slot).bind ?_
    rintro draw ⟨hdraw, hkind⟩
    refine (ih (slot + 1)).bind ?_
    rintro draws ⟨hlength, halternate, hdraws⟩
    have hturn : decide ((slot + 1) % 2 = 0) = !decide (slot % 2 = 0) := by
      rw [← decide_not, decide_eq_decide]
      omega
    refine .pure ⟨by simp [hlength], ⟨hkind, hturn ▸ halternate⟩, ?_⟩
    simpa using ⟨hdraw, hdraws⟩

/-- What is drawn for a slot does not depend on the draft, so that all slots can be drawn before
the first of them is filled. -/
theorem fillSlots_eq_map (d : Dialect) (count slot : Nat) (draft : Draft) :
    d.fillSlots (σ := σ) count slot draft =
      (fun draws => draws.foldl Draft.step draft) <$> d.drawSlots count slot := by
  induction count generalizing slot draft with
  | zero => rw [fillSlots, drawSlots, map_pure, List.foldl_nil]
  | succ count ih =>
    rw [fillSlots, drawSlots, map_bind]
    congr 1
    funext draw
    rw [ih, map_bind, map_eq_pure_bind]
    congr 1

/-- The last slot is an operand slot. -/
theorem lastSlot_odd {length : Nat} (h : 2 ≤ length) : lastSlot length % 2 = 1 := by
  unfold lastSlot
  split <;> omega

/-- An expression is the balanced draft that the draws for its slots make. -/
theorem drawExpression_eq_map {length : Nat} (hlength : minimumLength ≤ length) :
    d.drawExpression (σ := σ) length =
      (fun draws => (Draft.ofDraws draws).balance.tokens.toList) <$>
        d.drawSlots (lastSlot length) 1 := by
  rw [drawExpression, if_neg (by omega), fillSlots_eq_map, bind_map_left, map_eq_pure_bind]
  rfl

/-- An expression is what an odd number of draws makes, balanced. -/
theorem yields_drawExpression (hd : d.Usable) {length : Nat} (hlength : minimumLength ≤ length) :
    (d.drawExpression (σ := σ) length).Yields fun tokens =>
      ∃ draws, draws.length = lastSlot length ∧ Alternate false draws ∧
        (∀ draw ∈ draws, d.Draws draw) ∧
        tokens = (Draft.ofDraws draws).balance.tokens.toList := by
  rw [drawExpression_eq_map hlength]
  refine ((yields_drawSlots hd (lastSlot length) 1).mono ?_).map
  rintro draws ⟨hcount, halternate, hdraws⟩
  exact ⟨draws, hcount, halternate, hdraws, rfl⟩

/-- The expression of a round is drawn from the stream of the round. -/
theorem expression_eq_map (hd : d.Usable) (length : Nat) (seed : UInt64) (round patience : Nat) :
    d.expression length seed round patience =
      ((d.drawExpression length).run (roundStream seed round patience)).map
        (Token.text ·.1) := by
  have hready : d.ready = .ok () := by
    rw [ready, validate_eq_ok_iff.mpr hd]
    rfl
  rw [expression, hready]
  cases (d.drawExpression length).run (roundStream seed round patience) <;> rfl

end Dialect

end Crosscheck
