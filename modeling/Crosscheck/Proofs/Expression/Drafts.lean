import Crosscheck.Expression.Draft

/-!
# What filling a slot does

A slot only appends the tokens it emits and counts the parens among them; balancing only
appends close parens. These are the equations by which later files reason about drafts,
without unfolding how tokens are pushed.
-/

namespace Crosscheck

namespace Draft

variable (draft : Draft)

/-- Pushed tokens stand after the earlier ones, in order. -/
theorem pushAll_tokens (ts : List Token) :
    (draft.pushAll ts).tokens.toList = draft.tokens.toList ++ ts := by
  induction ts generalizing draft with
  | nil => simp [pushAll]
  | cons t ts ih =>
    have hpush : (draft.push t).tokens = draft.tokens.push t := by cases t <;> rfl
    have hcons : draft.pushAll (t :: ts) = (draft.push t).pushAll ts := rfl
    simp [hcons, ih, hpush]

/-- Pushing a token counts it if it is an open paren. -/
theorem push_opened (t : Token) :
    (draft.push t).opened = draft.opened + if t = .openParen then 1 else 0 := by
  cases t <;> simp [push]

/-- Pushing a token counts it if it is a close paren. -/
theorem push_closed (t : Token) :
    (draft.push t).closed = draft.closed + if t = .closeParen then 1 else 0 := by
  cases t <;> simp [push]

/-- Pushing counts the open parens. -/
theorem pushAll_opened (ts : List Token) :
    (draft.pushAll ts).opened = draft.opened + ts.count .openParen := by
  induction ts generalizing draft with
  | nil => rfl
  | cons t ts ih =>
    have hcons : draft.pushAll (t :: ts) = (draft.push t).pushAll ts := rfl
    rw [hcons, ih, push_opened, List.count_cons]
    simp only [beq_iff_eq]
    omega

/-- Pushing counts the close parens. -/
theorem pushAll_closed (ts : List Token) :
    (draft.pushAll ts).closed = draft.closed + ts.count .closeParen := by
  induction ts generalizing draft with
  | nil => rfl
  | cons t ts ih =>
    have hcons : draft.pushAll (t :: ts) = (draft.push t).pushAll ts := rfl
    rw [hcons, ih, push_closed, List.count_cons]
    simp only [beq_iff_eq]
    omega

/-- A slot appends the tokens it emits. -/
theorem step_tokens (draw : SlotDraw) :
    (draft.step draw).tokens.toList = draft.tokens.toList ++ draft.emitted draw :=
  draft.pushAll_tokens _

/-- A slot counts the open parens it emits. -/
theorem step_opened (draw : SlotDraw) :
    (draft.step draw).opened = draft.opened + (draft.emitted draw).count .openParen :=
  draft.pushAll_opened _

/-- A slot counts the close parens it emits. -/
theorem step_closed (draw : SlotDraw) :
    (draft.step draw).closed = draft.closed + (draft.emitted draw).count .closeParen :=
  draft.pushAll_closed _

/-- Balancing appends a close paren for each paren left open. -/
theorem balance_tokens : draft.balance.tokens.toList =
    draft.tokens.toList ++ List.replicate (draft.opened - draft.closed) .closeParen :=
  draft.pushAll_tokens _

/-- The draft that a list of draws makes, one slot each. -/
def ofDraws (draws : List SlotDraw) : Draft := draws.foldl step empty

/-- The last kind is the kind of the last token in the list. -/
theorem lastKind?_eq : draft.lastKind? = draft.tokens.toList.getLast?.map Token.kind := by
  rw [lastKind?, Array.getLast?_toList]

end Draft

/-- Whether a draw is for an operator slot. -/
def SlotDraw.isOperator : SlotDraw → Bool
  | .operator _ => true
  | _ => false

/-- The tokens that a draw can lead to. -/
def SlotDraw.tokens : SlotDraw → List Token
  | .operator c => [.operator c]
  | .call name first extra => [.call name (first :: extra)]
  | .group _ n => [.openParen, .operand n, .closeParen]
  | .operand n => [.operand n]

namespace Draft

/-- A slot emits tokens of its draw only. -/
theorem mem_tokens_of_mem_emitted {draft : Draft} {draw : SlotDraw} {t : Token}
    (h : t ∈ draft.emitted draw) : t ∈ draw.tokens := by
  cases draw with
  | group close n =>
    simp only [emitted] at h
    split at h
    · split at h <;> grind [SlotDraw.tokens]
    · grind [SlotDraw.tokens]
  | _ => exact h

/-- Every token of a draft comes from one of its draws. -/
theorem exists_draw_of_mem_ofDraws {draws : List SlotDraw} {t : Token}
    (h : t ∈ (ofDraws draws).tokens.toList) : ∃ draw ∈ draws, t ∈ draw.tokens := by
  suffices ∀ draft : Draft, t ∈ (draws.foldl step draft).tokens.toList →
      t ∈ draft.tokens.toList ∨ ∃ draw ∈ draws, t ∈ draw.tokens by
    simpa [empty] using this empty h
  clear h
  induction draws with
  | nil => exact fun draft h => .inl h
  | cons draw draws ih =>
    intro draft h
    rcases ih _ h with h | ⟨other, hother, ht⟩
    · rw [step_tokens, List.mem_append] at h
      rcases h with h | h
      · exact .inl h
      · exact .inr ⟨draw, by simp, mem_tokens_of_mem_emitted h⟩
    · exact .inr ⟨other, by simp [hother], ht⟩

end Draft

end Crosscheck
