import Crosscheck.Proofs.Generation.Soundness
import Crosscheck.Proofs.Grammar.Tally

/-!
# The size of a generated expression

Each operand slot adds one operand or one call to the draft, with at most one paren, and each
operator slot adds one operator; balancing adds nothing but close parens. The length therefore
fixes how many operators and how many operands and calls an expression has, and bounds its
groups.
-/

namespace Crosscheck

/-- Whether a token stands for a value: an operand or a call. -/
def Token.isValue : Token → Bool
  | .operand _ | .call .. => true
  | _ => false

namespace Draft

variable {draft : Draft} {values operators : Nat}

/-- What the checker has tallied over the tokens of a draft: the values, the operators, and no
more groups than values. -/
structure Measures (draft : Draft) (values operators : Nat) : Prop where
  operators_eq : draft.progress.shape.operators = operators
  values_eq : draft.progress.shape.operands + draft.progress.shape.calls = values
  openParens_le : draft.progress.shape.openParens ≤ values

/-- Nothing is tallied over the empty draft. -/
theorem measures_empty : empty.Measures 0 0 := ⟨rfl, rfl, Nat.le_refl 0⟩

/-- An operand slot emits one operand or one call, and never a close paren alone. -/
theorem Sound.emitted_value (h : draft.Sound false) {draw : SlotDraw}
    (hdraw : draw.isOperator = false) :
    (draft.emitted draw).countP Token.isValue = 1 ∧ draft.emitted draw ≠ [.closeParen] := by
  rcases h.emitted_cases hdraw with ⟨n, he⟩ | ⟨name, arguments, he⟩ | ⟨n, he⟩ | ⟨n, he, -⟩ <;>
    rw [he] <;> exact ⟨rfl, by simp⟩

/-- The step lemma for operator slots. -/
theorem Measures.step_operator (h : draft.Measures values operators) {draw : SlotDraw}
    (hdraw : draw.isOperator = true) : (draft.step draw).Measures values (operators + 1) := by
  obtain ⟨hoperators, hvalues, hopen⟩ := h
  cases draw with
  | operator c =>
    constructor <;> rw [progress_step]
    · exact congrArg (· + 1) hoperators
    · exact hvalues
    · exact hopen
  | _ => cases hdraw

/-- The step lemma for operand slots. -/
theorem Measures.step_operand (h : draft.Measures values operators) (hsound : draft.Sound false)
    {draw : SlotDraw} (hdraw : draw.isOperator = false) :
    (draft.step draw).Measures (values + 1) operators := by
  obtain ⟨hoperators, hvalues, hopen⟩ := h
  rcases hsound.emitted_cases hdraw with ⟨n, he⟩ | ⟨name, arguments, he⟩ | ⟨n, he⟩ | ⟨n, he, -⟩
  all_goals
    constructor <;> rw [progress_step, he] <;>
      simp only [Progress.afterAll, Progress.after, List.foldl_cons, List.foldl_nil,
        Progress.operand, Progress.call, Progress.openGroup, Progress.closeGroup] <;>
      omega

/-- The run lemma: slots in alternation add values and operators in turn. -/
theorem Measures.foldl_step {operatorNext : Bool} (h : draft.Measures values operators)
    (hsound : draft.Sound operatorNext) {draws : List SlotDraw}
    (hdraws : Alternate operatorNext draws) :
    (draws.foldl Draft.step draft).Measures
      (values + (draws.length + if operatorNext then 0 else 1) / 2)
      (operators + (draws.length + if operatorNext then 1 else 0) / 2) := by
  induction draws generalizing draft operatorNext values operators with
  | nil => cases operatorNext <;> exact h
  | cons draw draws ih =>
    have hnext := hsound.step hdraws.1
    cases operatorNext with
    | true =>
      have hrest := ih (h.step_operator hdraws.1) hnext hdraws.2
      have hoperators : operators + 1 + draws.length / 2 =
          operators + (draws.length + 1 + 1) / 2 := by omega
      simp only [Bool.not_true, Bool.false_eq_true, if_false, Nat.add_zero, hoperators] at hrest
      exact hrest
    | false =>
      have hrest := ih (h.step_operand hsound hdraws.1) hnext hdraws.2
      have hvalues : values + 1 + draws.length / 2 =
          values + (draws.length + 1 + 1) / 2 := by omega
      simp only [Bool.not_false, if_true, Nat.add_zero, hvalues] at hrest
      exact hrest

/-- Close parens change neither the values nor the operators nor the groups of the tally. -/
theorem Measures.balance (h : draft.Measures values operators) :
    draft.balance.Measures values operators := by
  have hclose (k : Nat) (p : Progress) :
      (p.afterAll (List.replicate k .closeParen)).shape =
        { p.shape with closeParens := p.shape.closeParens + k } := by
    induction k generalizing p with
    | zero => rfl
    | succ k ih =>
      have hcons : p.afterAll (List.replicate (k + 1) .closeParen) =
          p.closeGroup.afterAll (List.replicate k .closeParen) := rfl
      rw [hcons, ih, Progress.closeGroup]
      simp only [Nat.add_assoc, Nat.add_comm 1 k]
  have hshape : draft.balance.progress.shape = { draft.progress.shape with
      closeParens := draft.progress.shape.closeParens + (draft.opened - draft.closed) } := by
    rw [progress, balance_tokens, Progress.afterAll_append, hclose, ← progress]
  obtain ⟨hoperators, hvalues, hopen⟩ := h
  constructor <;> rw [hshape] <;> assumption

/-- Of draws in alternation, the first of them for an operand slot, half are values, rounded up,
and the others are operators. -/
theorem measures_ofDraws {draws : List SlotDraw} (halternate : Alternate false draws) :
    (ofDraws draws).balance.Measures ((draws.length + 1) / 2) (draws.length / 2) := by
  have hmeasures := measures_empty.foldl_step sound_empty halternate
  simp only [Bool.false_eq_true, if_false, Nat.zero_add, Nat.add_zero] at hmeasures
  exact hmeasures.balance

/-- In every second slot, from the first one on, draws in alternation emit one operand or one
call, and never a close paren alone. -/
theorem emitted_value_of_alternate {before after : List SlotDraw} {draw : SlotDraw}
    (halternate : Alternate false (before ++ draw :: after)) (hslot : before.length % 2 = 0) :
    ((ofDraws before).emitted draw).countP Token.isValue = 1 ∧
      (ofDraws before).emitted draw ≠ [.closeParen] := by
  obtain ⟨hbefore, hdraw, -⟩ := alternate_append.mp halternate
  have hsound := sound_empty.foldl_step hbefore
  have hturn : (false ^^ decide (before.length % 2 = 1)) = false := by simp [hslot]
  rw [hturn] at hsound hdraw
  exact hsound.emitted_value hdraw

end Draft

namespace Dialect

variable {d : Dialect} {σ : Type} [WordSource σ]

/-- **The length of an expression fixes its size.** With a dialect that validation passes, of
any length from two on and from any words, an expression is drawn unless the source gives up. Its
text is accepted, with half as many operands and calls as the length says, rounded down, and one
operator less; its groups are closed, and they are no more than the operands and calls. Each
operand slot emits one operand or one call, and none of them a close paren alone. -/
theorem drawExpression_size (hvalid : d.validate = .ok ())
    (hcount : 1 + d.maxExtraArguments.toNat < UInt64.size) {length : Nat} (hlength : 2 ≤ length)
    (s : σ) (hstops : (d.drawExpression length).run s ≠ .error .sourceExhausted) :
    ∃ draws tokens s' shape,
      (d.drawExpression length).run s = .ok (tokens, s') ∧
      d.check (Token.text tokens) = .ok shape ∧
      shape.operators = length / 2 - 1 ∧ shape.operands + shape.calls = length / 2 ∧
      shape.openParens = shape.closeParens ∧ shape.openParens ≤ length / 2 ∧
      (d.drawSlots (lastSlot length) 1).run s = .ok (draws, s') ∧
      tokens = (Draft.ofDraws draws).balance.tokens.toList ∧
      ∀ before draw after, draws = before ++ draw :: after → before.length % 2 = 0 →
        ((Draft.ofDraws before).emitted draw).countP Token.isValue = 1 ∧
          (Draft.ofDraws before).emitted draw ≠ [.closeParen] := by
  have hd := validate_eq_ok_iff.mp hvalid
  have hrun : (d.drawExpression length).run s = (d.drawSlots (lastSlot length) 1 s).map
      fun (draws, s') => ((Draft.ofDraws draws).balance.tokens.toList, s') := by
    rw [drawExpression_eq_map hlength]
    rfl
  have hslots : d.drawSlots (lastSlot length) 1 s ≠ .error .sourceExhausted := by
    intro hstop
    rw [hrun, hstop] at hstops
    exact hstops rfl
  obtain ⟨draws, s', hdrawn, hlast, halternate, hdraws⟩ :=
    (yields_drawSlots hd (lastSlot length) 1).exists_ok hslots
  rw [hdrawn] at hrun
  have hodd : draws.length % 2 = 1 := hlast ▸ lastSlot_odd hlength
  have hcheck := check_text_balance hd hcount hodd halternate hdraws
  obtain ⟨hoperators, hvalues, hopen⟩ := Draft.measures_ofDraws halternate
  have hhalf : (draws.length + 1) / 2 = length / 2 ∧ draws.length / 2 = length / 2 - 1 := by
    rw [hlast, lastSlot]
    split <;> omega
  rw [hhalf.1] at hvalues hopen
  rw [hhalf.2] at hoperators
  have hclosed : (Draft.ofDraws draws).balance.progress.shape.openParens =
      (Draft.ofDraws draws).balance.progress.shape.closeParens := by
    obtain ⟨ls, -, hlexemes⟩ := check_eq_ok_iff.mp hcheck
    exact (describes_of_checkLexemes hlexemes).openParens_eq_closeParens
  refine ⟨draws, _, s', _, hrun, hcheck, hoperators, hvalues, hclosed, hopen, hdrawn, rfl, ?_⟩
  rintro before draw after rfl hslot
  exact Draft.emitted_value_of_alternate halternate hslot

/-- The expression `(22×sqrt(9)-(11×min(2,71,-6)))` of the odd length 9, both groups of which are
closed at the end. -/
theorem drawExpression_size_balanced_groups :
    let d : Dialect := { operators := ['-', '×'], maxExtraArguments := 2 }
    let s : Tape :=
      { word := fun i => UInt64.ofNat ((i + 1) * 11415529634018013289), patience := 8 }
    ((d.drawExpression 9).run s).map (Token.text ·.1) = .ok "(22×sqrt(9)-(11×min(2,71,-6)))" ∧
      ∃ tokens s' shape, (d.drawExpression 9).run s = .ok (tokens, s') ∧
        d.check (Token.text tokens) = .ok shape ∧ shape.operators = 3 ∧
        shape.operands + shape.calls = 4 ∧ shape.openParens = shape.closeParens ∧
        shape.openParens ≤ 4 := by
  intro d s
  have hrun : ((d.drawExpression 9).run s).map (Token.text ·.1) =
      .ok "(22×sqrt(9)-(11×min(2,71,-6)))" := by decide +kernel
  refine ⟨hrun, ?_⟩
  have hstops : (d.drawExpression 9).run s ≠ .error .sourceExhausted := by
    intro hstop
    rw [hstop] at hrun
    cases hrun
  obtain ⟨draws, tokens, s', shape, hdrawn, hcheck, hoperators, hvalues, hclosed, hopen, -⟩ :=
    drawExpression_size (d := d) (by decide +kernel) (by decide) (by decide) s hstops
  exact ⟨tokens, s', shape, hdrawn, hcheck, hoperators, hvalues, hclosed, hopen⟩

end Dialect

end Crosscheck
