import Crosscheck.Proofs.Expression.Drafts
import Mathlib.Data.List.Infix

/-!
# Parens under any draws

Draws of any kind may come in any order: a close may be drawn when nothing is open, after a call
or after another close. Whatever they are, a close paren is pushed only while a paren is open.
The counters of a draft are therefore right after every single push, the number of close parens
that balancing adds is never negative, and a balanced draft stays as it is.
-/

namespace Crosscheck

namespace Draft

variable {draft : Draft}

/-- The counters of a draft agree with its tokens, and no beginning of the tokens closes more
parens than it opens. -/
structure Nested (draft : Draft) : Prop where
  closed_le_opened : draft.closed ≤ draft.opened
  opened_eq : draft.opened = draft.tokens.toList.count .openParen
  closed_eq : draft.closed = draft.tokens.toList.count .closeParen
  count_le : ∀ ts, ts <+: draft.tokens.toList → ts.count .closeParen ≤ ts.count .openParen

/-- The empty draft has no parens. -/
theorem nested_empty : empty.Nested := by
  refine ⟨Nat.le_refl _, rfl, rfl, ?_⟩
  intro ts hts
  rw [List.prefix_nil.mp hts]
  rfl

/-- The step lemma: a push keeps the parens nested when a paren is open for the close paren that
is pushed. -/
theorem Nested.push (h : draft.Nested) {t : Token}
    (ht : t = .closeParen → draft.closed < draft.opened) : (draft.push t).Nested := by
  have htokens : (draft.push t).tokens.toList = draft.tokens.toList ++ [t] :=
    draft.pushAll_tokens [t]
  have hopened : (draft.push t).opened = (draft.push t).tokens.toList.count .openParen := by
    rw [htokens, List.count_append, ← h.opened_eq]
    exact draft.pushAll_opened [t]
  have hclosed : (draft.push t).closed = (draft.push t).tokens.toList.count .closeParen := by
    rw [htokens, List.count_append, ← h.closed_eq]
    exact draft.pushAll_closed [t]
  have hle : (draft.push t).closed ≤ (draft.push t).opened := by
    have hbefore := h.closed_le_opened
    rw [push_opened, push_closed]
    by_cases hclose : t = .closeParen
    · have hroom := ht hclose
      rw [if_pos hclose]
      omega
    · rw [if_neg hclose]
      omega
  refine ⟨hle, hopened, hclosed, fun ts hts => ?_⟩
  rw [htokens, List.prefix_concat_iff] at hts
  rcases hts with hall | hbefore
  · rw [hall, ← htokens, ← hopened, ← hclosed]
    exact hle
  · exact h.count_le ts hbefore

/-- The run lemma: pushes keep the parens nested when no more close parens are pushed than parens
are open. -/
theorem Nested.pushAll (h : draft.Nested) {ts : List Token}
    (hts : ts.count .closeParen ≤ draft.opened - draft.closed) : (draft.pushAll ts).Nested := by
  induction ts generalizing draft with
  | nil => exact h
  | cons t ts ih =>
    rw [List.count_cons] at hts
    simp only [beq_iff_eq] at hts
    have hpush : (draft.push t).Nested := by
      apply h.push
      intro hclose
      rw [if_pos hclose] at hts
      omega
    apply ih hpush
    rw [push_opened, push_closed]
    by_cases hclose : t = .closeParen
    · rw [if_pos hclose] at hts ⊢
      omega
    · rw [if_neg hclose] at hts ⊢
      omega

/-- A slot emits one token or two. -/
theorem length_emitted (draft : Draft) (draw : SlotDraw) :
    (draft.emitted draw).length = 1 ∨ (draft.emitted draw).length = 2 := by
  cases draw with
  | operator c => exact .inl rfl
  | call name first extra => exact .inl rfl
  | operand n => exact .inl rfl
  | group close n =>
    rw [emitted]
    by_cases hclose : (close && draft.canClose) = true
    · rw [if_pos hclose]
      split
      · exact .inl rfl
      · exact .inr rfl
    · rw [if_neg hclose]
      exact .inr rfl

/-- A slot emits a close paren only when there is a paren to close. -/
theorem count_closeParen_emitted_le (draft : Draft) (draw : SlotDraw) :
    (draft.emitted draw).count .closeParen ≤ draft.opened - draft.closed := by
  cases draw with
  | operator c => exact Nat.zero_le _
  | call name first extra => exact Nat.zero_le _
  | operand n => exact Nat.zero_le _
  | group close n =>
    by_cases hclose : (close && draft.canClose) = true
    · have hopen : draft.closed < draft.opened := by
        rw [Bool.and_eq_true] at hclose
        exact of_decide_eq_true hclose.2
      have hcount : (draft.emitted (.group close n)).count .closeParen = 1 := by
        rw [emitted, if_pos hclose]
        split <;> rfl
      omega
    · have hcount : (draft.emitted (.group close n)).count .closeParen = 0 := by
        rw [emitted, if_neg hclose]
        rfl
      omega

/-- As many close parens are added by balancing as parens are open. -/
theorem count_closeParen_closing (draft : Draft) :
    draft.closing.count .closeParen = draft.opened - draft.closed := List.count_replicate_self

/-- Pushing tokens does not fill a slot. -/
theorem pushAll_position (draft : Draft) (ts : List Token) :
    (draft.pushAll ts).position = draft.position := by
  induction ts generalizing draft with
  | nil => rfl
  | cons t ts ih =>
    have hpush : (draft.push t).position = draft.position := by cases t <;> rfl
    rw [← hpush]
    exact ih (draft.push t)

/-- A step fills one slot. -/
theorem step_position (draft : Draft) (draw : SlotDraw) :
    (draft.step draw).position = draft.position + 1 :=
  congrArg (· + 1) (draft.pushAll_position _)

/-- A step keeps the parens nested. -/
theorem Nested.step (h : draft.Nested) (draw : SlotDraw) : (draft.step draw).Nested := by
  obtain ⟨hle, hopened, hclosed, hcount⟩ :=
    h.pushAll (count_closeParen_emitted_le draft draw)
  exact ⟨hle, hopened, hclosed, hcount⟩

/-- Draws one slot later. -/
theorem ofDraws_append_singleton (draws : List SlotDraw) (draw : SlotDraw) :
    ofDraws (draws ++ [draw]) = (ofDraws draws).step draw := List.foldl_concat ..

/-- As many slots are filled as there are draws. -/
theorem position_ofDraws (draws : List SlotDraw) : (ofDraws draws).position = draws.length := by
  induction draws using List.reverseRecOn with
  | nil => rfl
  | append_singleton draws draw ih =>
    rw [ofDraws_append_singleton, step_position, ih, List.length_append, List.length_singleton]

/-- The parens of a draft are nested whatever the draws are. -/
theorem nested_ofDraws (draws : List SlotDraw) : (ofDraws draws).Nested := by
  induction draws using List.reverseRecOn with
  | nil => exact nested_empty
  | append_singleton draws draw ih =>
    rw [ofDraws_append_singleton]
    exact ih.step draw

/-- Balancing closes as many parens as are open. -/
theorem Nested.closed_balance (h : draft.Nested) : draft.balance.closed = draft.balance.opened := by
  have hle := h.closed_le_opened
  have hopened : draft.balance.opened = draft.opened + draft.closing.count .openParen :=
    draft.pushAll_opened _
  have hclosed : draft.balance.closed = draft.closed + draft.closing.count .closeParen :=
    draft.pushAll_closed _
  have hnone : draft.closing.count .openParen = 0 := by simp [closing, List.count_replicate]
  rw [count_closeParen_closing] at hclosed
  omega

/-- A draft all of whose parens are closed stays as it is when it is balanced. -/
theorem balance_eq_self (h : draft.closed = draft.opened) : draft.balance = draft := by
  have hclosing : draft.closing = [] := by
    rw [closing, h, Nat.sub_self]
    rfl
  rw [balance, hclosing]
  rfl

/-- **No draws close a paren that is not open.** Whatever the draws for the slots so far were and
whatever is drawn next, the counters agree with the tokens, and no beginning of the tokens closes
more parens than it opens: after the slots, after each single push of the next slot, and after
each single push of balancing. A slot appends the one or two tokens that it emits. Balancing
appends as many close parens as are open, a number that does not fall below zero, and nothing
else; then as many parens are closed as opened, and balancing again changes nothing. -/
theorem ofDraws_nested (draws : List SlotDraw) (draw : SlotDraw) :
    (ofDraws draws).Nested ∧ (ofDraws draws).position = draws.length ∧
    (∀ pushed, pushed <+: (ofDraws draws).emitted draw ∨ pushed <+: (ofDraws draws).closing →
      ((ofDraws draws).pushAll pushed).Nested ∧
        ((ofDraws draws).pushAll pushed).position = draws.length) ∧
    (ofDraws (draws ++ [draw])).tokens.toList =
      (ofDraws draws).tokens.toList ++ (ofDraws draws).emitted draw ∧
    (((ofDraws draws).emitted draw).length = 1 ∨ ((ofDraws draws).emitted draw).length = 2) ∧
    (ofDraws draws).closed + (ofDraws draws).closing.length = (ofDraws draws).opened ∧
    (∀ t ∈ (ofDraws draws).closing, t = .closeParen) ∧
    (ofDraws draws).balance.tokens.toList =
      (ofDraws draws).tokens.toList ++ (ofDraws draws).closing ∧
    (ofDraws draws).balance.position = (ofDraws draws).position ∧
    (ofDraws draws).balance.closed = (ofDraws draws).balance.opened ∧
    (ofDraws draws).balance.balance = (ofDraws draws).balance := by
  have hnested := nested_ofDraws draws
  have hbalanced := hnested.closed_balance
  refine ⟨hnested, position_ofDraws draws, ?pushes, ?step, length_emitted _ draw, ?underflow,
    fun t ht => List.eq_of_mem_replicate ht, pushAll_tokens _ _, pushAll_position _ _, hbalanced,
    balance_eq_self hbalanced⟩
  case pushes =>
    intro pushed hpushed
    refine ⟨hnested.pushAll ?_, by rw [pushAll_position, position_ofDraws]⟩
    rcases hpushed with hpushed | hpushed
    · exact (hpushed.count_le _).trans (count_closeParen_emitted_le _ draw)
    · exact (hpushed.count_le _).trans (count_closeParen_closing _).le
  case step =>
    rw [ofDraws_append_singleton]
    exact step_tokens _ draw
  case underflow =>
    have hle := hnested.closed_le_opened
    rw [closing, List.length_replicate]
    omega

/-- Two opens, a close, a call and a second close right after the call: `(3(4)abs(6)7)`. Between
the two tokens that the last slot emits, one paren is open. -/
theorem ofDraws_nested_close_after_call :
    let draws : List SlotDraw :=
      [.group true 3, .group false 4, .group true 5, .call "abs" 6 []]
    (ofDraws draws).emitted (.group true 7) = [.operand 7, .closeParen] ∧
      [.operand 7] <+: (ofDraws draws).emitted (.group true 7) ∧
      ((ofDraws draws).pushAll [.operand 7]).Nested ∧
      ((ofDraws draws).pushAll [.operand 7]).opened = 2 ∧
      ((ofDraws draws).pushAll [.operand 7]).closed = 1 := by
  intro draws
  have hemitted : (ofDraws draws).emitted (.group true 7) = [.operand 7, .closeParen] := by decide
  have hprefix : [.operand 7] <+: (ofDraws draws).emitted (.group true 7) := by
    rw [hemitted]
    exact ⟨[.closeParen], rfl⟩
  obtain ⟨-, -, hpushes, -⟩ := ofDraws_nested draws (.group true 7)
  exact ⟨hemitted, hprefix, (hpushes _ (.inl hprefix)).1, by decide, by decide⟩

end Draft

end Crosscheck
