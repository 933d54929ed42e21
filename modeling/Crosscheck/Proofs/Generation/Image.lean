import Crosscheck.Proofs.Generation.Draws
import Crosscheck.Proofs.Random.Coverage
import Mathlib.Order.Bounds.Basic

/-!
# The image of generation

What a dialect can draw is what it may draw. For every choice that the dialect allows there
are words that lead to it, and the words for the slots of an expression, one after the other,
lead to the expression. Together with what every draw yields, this determines the expressions
that can be generated.
-/

namespace Crosscheck

namespace Drawing

section Reaches

variable {α β : Type} {action : Drawing Tape α} {a : α}

/-- Whether an action can yield a value: there are words such that every tape with some
patience that goes on with these words leads to the value and to the tape after the words. -/
def Reaches (action : Drawing Tape α) (a : α) : Prop :=
  ∃ words, ∀ t : Tape, 0 < t.patience → t.StartsWith words →
    action t = .ok (a, t.skip words.length)

/-- A value that is given is reached without a word. -/
theorem Reaches.pure (a : α) : Reaches (Pure.pure a) a := ⟨[], fun _ _ _ => rfl⟩

/-- Words for an action and words for the next one lead to what the next one reaches. -/
theorem Reaches.bind {next : α → Drawing Tape β} {b : β} (h : action.Reaches a)
    (hnext : (next a).Reaches b) : (action >>= next).Reaches b := by
  obtain ⟨words, hwords⟩ := h
  obtain ⟨more, hmore⟩ := hnext
  refine ⟨words ++ more, fun t hpatience ht => ?_⟩
  obtain ⟨hfirst, hrest⟩ := Tape.startsWith_append.mp ht
  have hafter : 0 < (t.skip words.length).patience := hpatience
  simp only [Bind.bind, StateT.bind, Except.bind, hwords t hpatience hfirst]
  rw [hmore _ hafter hrest, List.length_append, Tape.skip_add]

/-- A function applied to what an action reaches. -/
theorem Reaches.map {f : α → β} (h : action.Reaches a) : (f <$> action).Reaches (f a) := by
  rw [map_eq_pure_bind]
  exact h.bind (.pure _)

/-- A sample reaches what the sampling function hits. -/
theorem reaches_ofSample {sample : Tape → Option (α × Tape)} (h : Sampling.Hits sample a) :
    (ofSample sample).Reaches a := by
  obtain ⟨word, hword⟩ := h
  refine ⟨[word], fun t hpatience ht => ?_⟩
  rw [ofSample, hword t hpatience ht.1]
  rfl

/-- An action repeated reaches every list of values that it reaches. -/
theorem Reaches.replicate {as : List α} (h : ∀ a ∈ as, action.Reaches a) :
    (replicate action as.length).Reaches as := by
  induction as with
  | nil => exact .pure []
  | cons a as ih =>
    exact (h a (by simp)).bind ((ih fun b hb => h b (by simp [hb])).bind (.pure _))

end Reaches

/-- A choice from a list that 64-bit words can count reaches every element of the list. -/
theorem reaches_oneOf {α : Type} {items : List α} {item : α} {ifEmpty : DialectFault}
    (hitem : item ∈ items) (hcount : items.length ≤ UInt64.size) :
    (oneOf items ifEmpty).Reaches item := by
  obtain ⟨i, hi⟩ := List.mem_iff_getElem?.mp hitem
  have hlt : i < items.length := (List.getElem?_eq_some_iff.mp hi).1
  have hnonempty : ¬items.isEmpty = true := by
    rw [List.isEmpty_iff]
    exact List.ne_nil_of_mem hitem
  rw [oneOf, if_neg hnonempty]
  refine (reaches_ofSample (Sampling.hits_index hlt hcount)).bind ?_
  rw [hi]
  exact .pure item

/-- A draw from a range reaches every literal of the range. -/
theorem reaches_literal {r : LiteralRange} {n : Int64} (h : r.contains n = true) :
    (literal r).Reaches n := by
  obtain ⟨hmin, hmax⟩ := LiteralRange.contains_iff.mp h
  exact reaches_ofSample (Sampling.hits_between hmin hmax)

/-- A coin can show either side. -/
theorem reaches_coin (side : Bool) : (coin (σ := Tape)).Reaches side := by
  refine ⟨[if side then 0 else 0x8000000000000000], fun t _ ht => ?_⟩
  have hnext : WordSource.next64 t = t.next := rfl
  simp only [coin, Sampling.coin, hnext, ht.1]
  cases side <;> rfl

end Drawing

namespace Dialect

open Drawing

variable {d : Dialect}

/-- The lists of operators and functions are no longer than a 64-bit word can count. -/
structure Indexable (d : Dialect) : Prop where
  operators_length_le : d.operators.length ≤ UInt64.size
  functions_length_le : d.functions.length ≤ UInt64.size

/-- Every call that a dialect may draw is reached. -/
theorem reaches_drawCall (hindexable : d.Indexable) {name : String} {first : Int64}
    {extra : List Int64} (h : d.Draws (.call name first extra)) :
    d.drawCall.Reaches (.call name first extra) := by
  obtain ⟨⟨hname, hfirst, hextra⟩, -, htakes⟩ := h
  refine (reaches_oneOf hname hindexable.functions_length_le).bind ?_
  refine (reaches_literal hfirst).bind ?_
  by_cases hvariadic : (d.isVariadic name && decide (0 < d.maxExtraArguments)) = true
  · rw [TakesExtra, if_pos hvariadic] at htakes
    obtain ⟨fewer, hfewer⟩ : ∃ fewer, extra.length = fewer + 1 :=
      Nat.exists_eq_add_one_of_ne_zero (by omega)
    rw [if_pos hvariadic]
    have hlt : fewer < d.maxExtraArguments.toNat := by omega
    have hwords := Nat.le_of_lt d.maxExtraArguments.toNat_lt
    refine (reaches_ofSample (Sampling.hits_below64 hlt hwords)).bind ?_
    have hreplicate := Reaches.replicate fun n hn => reaches_literal (hextra n hn)
    rw [hfewer] at hreplicate
    exact hreplicate.bind (.pure _)
  · rw [TakesExtra, if_neg hvariadic, List.length_eq_zero_iff] at htakes
    subst htakes
    rw [if_neg hvariadic]
    exact .pure _

/-- Every parenthesised operand that a dialect may draw is reached. -/
theorem reaches_drawGroup {close : Bool} {n : Int64} (h : d.Draws (.group close n)) :
    d.drawGroup.Reaches (.group close n) :=
  (reaches_coin close).bind ((reaches_literal h.1).bind (.pure _))

/-- Every draw of the dialect is reached in the slots of its kind. -/
theorem reaches_drawSlot (hd : d.Usable) (hindexable : d.Indexable) {slot : Nat} {draw : SlotDraw}
    (hdraw : d.Draws draw) (hkind : draw.isOperator = decide (slot % 2 = 0)) :
    (d.drawSlot slot).Reaches draw := by
  have hcategory (i w : Nat) (hi : [d.weights.call.toNat, d.weights.group.toNat,
      d.weights.operand.toNat][i]? = some w) (hw : 0 < w) := by
    refine reaches_ofSample (Sampling.hits_weighted hi hw ?_)
    have hle := hd.total_le
    simp only [SlotWeights.total, SlotWeights.maxTotal] at hle
    simp only [Sampling.totalWeight, UInt32.size]
    omega
  unfold drawSlot
  cases draw with
  | operator c =>
    rw [if_pos (of_decide_eq_true hkind.symm)]
    exact (reaches_oneOf hdraw.1 hindexable.operators_length_le).map
  | call name first extra =>
    rw [if_neg (of_decide_eq_false hkind.symm)]
    have hpos := UInt32.lt_iff_toNat_lt.mp hdraw.2.1
    exact (hcategory 0 _ rfl hpos).bind (reaches_drawCall hindexable hdraw)
  | group close n =>
    rw [if_neg (of_decide_eq_false hkind.symm)]
    have hpos := UInt32.lt_iff_toNat_lt.mp hdraw.2
    exact (hcategory 1 _ rfl hpos).bind (reaches_drawGroup hdraw)
  | operand n =>
    rw [if_neg (of_decide_eq_false hkind.symm)]
    have hpos := UInt32.lt_iff_toNat_lt.mp hdraw.2
    exact (hcategory 2 _ rfl hpos).bind (reaches_literal hdraw.1).map

/-- The run lemma: filling slots reaches what draws of the dialect in alternation make. -/
theorem reaches_fillSlots (hd : d.Usable) (hindexable : d.Indexable) {draws : List SlotDraw}
    {slot : Nat} {draft : Draft} (halternate : Alternate (decide (slot % 2 = 0)) draws)
    (hdraws : ∀ draw ∈ draws, d.Draws draw) :
    (d.fillSlots draws.length slot draft).Reaches (draws.foldl Draft.step draft) := by
  induction draws generalizing slot draft with
  | nil => exact .pure draft
  | cons draw draws ih =>
    obtain ⟨hkind, hrest⟩ := halternate
    have hturn : (!decide (slot % 2 = 0)) = decide ((slot + 1) % 2 = 0) := by
      rw [← decide_not, decide_eq_decide]
      omega
    rw [hturn] at hrest
    exact (reaches_drawSlot hd hindexable (hdraws draw (by simp)) hkind).bind
      (ih hrest fun other hother => hdraws other (by simp [hother]))

/-- The last slot is the largest odd number below the length. -/
theorem isGreatest_lastSlot {length : Nat} (h : 2 ≤ length) :
    IsGreatest {slot | slot % 2 = 1 ∧ slot < length} (lastSlot length) := by
  have hodd := lastSlot_odd h
  have hlt : lastSlot length < length ∧ length ≤ lastSlot length + 2 := by
    unfold lastSlot
    split <;> omega
  refine ⟨⟨hodd, hlt.1⟩, fun slot hslot => ?_⟩
  obtain ⟨hslotOdd, hslotLt⟩ := hslot
  omega

/-- The token lists of the expressions of a length that a dialect specifies: as many draws as
the largest odd number below the length, for operand slots and operator slots in turn, are
made into a draft, which is balanced. -/
def Expressions (d : Dialect) (length : Nat) : Set (List Token) :=
  {tokens | ∃ draws : List SlotDraw,
    IsGreatest {slot | slot % 2 = 1 ∧ slot < length} draws.length ∧
    Alternate false draws ∧ (∀ draw ∈ draws, d.Draws draw) ∧
    tokens = (draws.foldl Draft.step .empty).balance.tokens.toList}

/-- Only specified expressions are drawn, whatever the source of words is. -/
theorem mem_expressions_of_drawExpression (hd : d.Usable) {length : Nat} (hlength : 2 ≤ length)
    {σ : Type} [WordSource σ] {s s' : σ} {tokens : List Token}
    (h : (d.drawExpression length).run s = .ok (tokens, s')) : tokens ∈ d.Expressions length := by
  have hyields := yields_drawExpression (σ := σ) hd hlength s
  have hresult : d.drawExpression length s = .ok (tokens, s') := h
  rw [hresult] at hyields
  obtain ⟨draws, hslots, halternate, hdraws, htokens⟩ := hyields
  exact ⟨draws, hslots ▸ isGreatest_lastSlot hlength, halternate, hdraws, htokens⟩

/-- Every specified expression is reached. -/
theorem reaches_drawExpression (hd : d.Usable) (hindexable : d.Indexable) {length : Nat}
    (hlength : 2 ≤ length) {tokens : List Token} (h : tokens ∈ d.Expressions length) :
    (d.drawExpression length).Reaches tokens := by
  obtain ⟨draws, hgreatest, halternate, hdraws, rfl⟩ := h
  have hslots : lastSlot length = draws.length :=
    (isGreatest_lastSlot hlength).unique hgreatest
  have hminimum : ¬length < minimumLength := Nat.not_lt.mpr hlength
  have hfirst : Alternate (decide (1 % 2 = 0)) draws := halternate
  rw [drawExpression, if_neg hminimum, hslots]
  exact (reaches_fillSlots hd hindexable hfirst hdraws).bind (.pure _)

/-- **Generation draws every specified expression and no other one.** With a dialect that
validation accepts, the expressions of a length that tapes of random words lead to are the
specified ones, however little patience the tapes have, and no source of words leads to
another one. A list of operators or functions in memory is no longer than a word can count. -/
theorem drawExpression_image (hvalid : d.validate = .ok ()) (hindexable : d.Indexable)
    {length : Nat} (hlength : 2 ≤ length) {patience : Nat} (hpatience : 0 < patience) :
    {tokens | ∃ word t,
      (d.drawExpression length).run ({ word, patience } : Tape) = .ok (tokens, t)} =
        d.Expressions length ∧
    ∀ {σ : Type} [WordSource σ] (s s' : σ) (tokens : List Token),
      (d.drawExpression length).run s = .ok (tokens, s') → tokens ∈ d.Expressions length := by
  have hd := validate_eq_ok_iff.mp hvalid
  refine ⟨Set.Subset.antisymm ?_ ?_, fun s s' tokens =>
    mem_expressions_of_drawExpression hd hlength⟩
  · rintro tokens ⟨word, t, hrun⟩
    exact mem_expressions_of_drawExpression hd hlength hrun
  · intro tokens htokens
    obtain ⟨words, hwords⟩ := reaches_drawExpression hd hindexable hlength htokens
    exact ⟨_, _, hwords _ hpatience (Tape.startsWith_ofWords words patience)⟩

/-- The ends of four ranges and a close with nothing to close: `max(9,-100,100)/(25)`. -/
theorem drawExpression_image_range_ends :
    let d : Dialect := { maxExtraArguments := 2 }
    ∃ word t, (d.drawExpression 4).run ({ word, patience := 1 } : Tape) =
      .ok ([.call "max" [9, -100, 100], .operator '/', .openParen, .operand 25, .closeParen],
        t) := by
  intro d
  have hindexable : d.Indexable := ⟨by decide, by decide⟩
  obtain ⟨himage, -⟩ := drawExpression_image (d := d) (by decide) hindexable
    (show 2 ≤ 4 by decide) (show 0 < 1 by decide)
  refine himage.superset ⟨[.call "max" 9 [-100, 100], .operator '/', .group true 25],
    isGreatest_lastSlot (by decide), by simp [Alternate, SlotDraw.isOperator], by decide,
    by decide⟩

end Dialect

end Crosscheck
