import Crosscheck.Proofs.Expression.Drafts
import Crosscheck.Proofs.Expression.Lexemes
import Crosscheck.Proofs.Grammar.Reading

/-!
# Drafts filled in alternation

Slots for operands and slots for operators take turns. This file follows the checker over
the tokens of such a draft: each token may come where it does, the checker waits for an
operand exactly before an operand slot, and its depth is the number of parens that the
draft has yet to close. In particular, an operand slot never closes a paren without an
operand before it, and balancing leads the checker to a good end.
-/

namespace Crosscheck

namespace Progress

/-- The state of the checker after a token. -/
def after (p : Progress) : Token → Progress
  | .operand _ => p.operand
  | .operator _ => p.operator
  | .openParen => p.openGroup
  | .closeParen => p.closeGroup
  | .call .. => p.call

/-- Whether a token may come next, whatever its literals, symbols and names are. -/
def Takes (p : Progress) : Token → Prop
  | .operand _ | .openParen | .call .. => p.last ≠ .operand
  | .operator _ => p.last = .operand
  | .closeParen => p.last = .operand ∧ p.depth ≠ 0

/-- The state of the checker after tokens. -/
def afterAll (p : Progress) (ts : List Token) : Progress := ts.foldl after p

/-- Whether tokens may come next, one after the other. -/
def TakesAll : Progress → List Token → Prop
  | _, [] => True
  | p, t :: ts => p.Takes t ∧ (p.after t).TakesAll ts

/-- Tokens may come in two parts. -/
theorem takesAll_append {p : Progress} {ts us : List Token} :
    p.TakesAll (ts ++ us) ↔ p.TakesAll ts ∧ (p.afterAll ts).TakesAll us := by
  induction ts generalizing p with
  | nil => simp [TakesAll, afterAll]
  | cons t ts ih => simp [TakesAll, afterAll, ih, and_assoc]

/-- The state after two parts of the tokens. -/
theorem afterAll_append (p : Progress) (ts us : List Token) :
    p.afterAll (ts ++ us) = (p.afterAll ts).afterAll us := List.foldl_append

/-- Tokens that may come one after the other are apart. -/
theorem TakesAll.isChain {p : Progress} {ts : List Token} (h : p.TakesAll ts) :
    ts.IsChain Token.Apart := by
  induction ts generalizing p with
  | nil => exact .nil
  | cons t ts ih =>
    refine List.isChain_cons.mpr ⟨?_, ih h.2⟩
    intro u hu hword
    cases ts with
    | nil => simp at hu
    | cons u' us =>
      obtain rfl : u' = u := by simpa using hu
      have hnext : (p.after t).Takes u' := h.2.1
      cases t with
      | operand n => cases u' <;> simp_all [Takes, after, Token.beginsWithWord]
      | _ => cases hword

end Progress

/-- Draws for operand slots and operator slots in turn; `operatorNext` says which kind the
first of them is for. -/
def Alternate (operatorNext : Bool) : List SlotDraw → Prop
  | [] => True
  | draw :: draws => draw.isOperator = operatorNext ∧ Alternate (!operatorNext) draws

/-- One slot later it is the turn of the other kind. -/
theorem turn_succ (operatorNext : Bool) (count : Nat) :
    ((!operatorNext) ^^ decide (count % 2 = 1)) =
      (operatorNext ^^ decide ((count + 1) % 2 = 1)) := by
  rcases Nat.mod_two_eq_zero_or_one count with hl | hl <;>
    cases operatorNext <;> simp [hl, Nat.add_mod]

/-- Draws are in alternation in two parts, the second of which goes on where the first ends. -/
theorem alternate_append {operatorNext : Bool} {draws more : List SlotDraw} :
    Alternate operatorNext (draws ++ more) ↔ Alternate operatorNext draws ∧
      Alternate (operatorNext ^^ decide (draws.length % 2 = 1)) more := by
  induction draws generalizing operatorNext with
  | nil => simp [Alternate]
  | cons draw draws ih =>
    rw [List.cons_append, Alternate, Alternate, ih, turn_succ, and_assoc]
    rfl

namespace Draft

variable {draft : Draft}

/-- The checker after the tokens of a draft. -/
def progress (draft : Draft) : Progress := Progress.afterAll {} draft.tokens.toList

/-- What the checker makes of a draft that is filled in alternation. -/
structure Sound (draft : Draft) (operatorNext : Bool) : Prop where
  takesAll : Progress.TakesAll {} draft.tokens.toList
  last_iff : draft.progress.last = .operand ↔ operatorNext = true
  depth_eq : draft.progress.depth + draft.closed = draft.opened

/-- The empty draft waits for an operand. -/
theorem sound_empty : empty.Sound false := ⟨trivial, by decide, rfl⟩

/-- The checker goes on over the tokens that a slot emits. -/
theorem progress_step (draft : Draft) (draw : SlotDraw) :
    (draft.step draw).progress = draft.progress.afterAll (draft.emitted draw) := by
  rw [progress, step_tokens, Progress.afterAll_append, ← progress]

/-- A draft whose last token is an operand does not wait for another one. -/
theorem last_progress_of_lastKind? (h : draft.lastKind? = some .operand) :
    draft.progress.last = .operand := by
  rw [lastKind?_eq, Option.map_eq_some_iff] at h
  obtain ⟨t, ht, hkind⟩ := h
  obtain ⟨ts, hts⟩ := List.getLast?_eq_some_iff.mp ht
  rw [progress, hts, Progress.afterAll_append]
  cases t with
  | operand n => rfl
  | _ => cases hkind

/-- What an operand slot emits: an operand or a call, perhaps with one paren. A close paren
without an operand before it is not among the possibilities. -/
theorem Sound.emitted_cases (h : draft.Sound false) {draw : SlotDraw}
    (hdraw : draw.isOperator = false) :
    (∃ n, draft.emitted draw = [.operand n]) ∨
      (∃ name arguments, draft.emitted draw = [.call name arguments]) ∨
      (∃ n, draft.emitted draw = [.openParen, .operand n]) ∨
      ∃ n, draft.emitted draw = [.operand n, .closeParen] ∧ draft.progress.depth ≠ 0 := by
  cases draw with
  | operator c => cases hdraw
  | operand n => exact .inl ⟨n, rfl⟩
  | call name first extra => exact .inr (.inl ⟨name, first :: extra, rfl⟩)
  | group close n =>
    right
    right
    by_cases hclose : (close && draft.canClose) = true
    · have hlast : draft.lastKind? ≠ some .operand := by
        intro hkind
        have hoperand := last_progress_of_lastKind? hkind
        simp [h.last_iff] at hoperand
      have hopen : draft.closed < draft.opened := by simp_all [canClose]
      have hdepth := h.depth_eq
      right
      refine ⟨n, ?_, by omega⟩
      simp only [emitted, if_pos hclose, if_neg hlast]
    · left
      exact ⟨n, by simp only [emitted, if_neg hclose]⟩

/-- The step lemma: a slot of the kind that is due keeps the invariant. -/
theorem Sound.step {operatorNext : Bool} (h : draft.Sound operatorNext) {draw : SlotDraw}
    (hdraw : draw.isOperator = operatorNext) : (draft.step draw).Sound (!operatorNext) := by
  have hdepth := h.depth_eq
  suffices draft.progress.TakesAll (draft.emitted draw) ∧
      ((draft.progress.afterAll (draft.emitted draw)).last = .operand ↔ (!operatorNext) = true) ∧
      (draft.progress.afterAll (draft.emitted draw)).depth +
          (draft.emitted draw).count .closeParen =
        draft.progress.depth + (draft.emitted draw).count .openParen by
    obtain ⟨htakes, hlast, hcount⟩ := this
    refine ⟨?_, ?_, ?_⟩
    · rw [step_tokens, Progress.takesAll_append]
      exact ⟨h.takesAll, htakes⟩
    · rw [progress_step]
      exact hlast
    · rw [progress_step, step_opened, step_closed]
      omega
  cases operatorNext with
  | true =>
    have hlast := h.last_iff.mpr rfl
    cases draw with
    | operator c => simp [emitted, Progress.TakesAll, Progress.Takes, Progress.afterAll,
        Progress.after, hlast]
    | _ => cases hdraw
  | false =>
    have hlast : draft.progress.last ≠ .operand := by simp [h.last_iff]
    rcases h.emitted_cases hdraw with ⟨n, he⟩ | ⟨name, arguments, he⟩ | ⟨n, he⟩ | ⟨n, he, hopen⟩
    all_goals
      simp [he, Progress.TakesAll, Progress.Takes, Progress.afterAll, Progress.after, hlast]
    exact ⟨hopen, by omega⟩

/-- The run lemma: slots in alternation keep the invariant, and as many slots later as there
are draws it is the turn of the same kind or of the other one. -/
theorem Sound.foldl_step {operatorNext : Bool} (h : draft.Sound operatorNext)
    {draws : List SlotDraw} (hdraws : Alternate operatorNext draws) :
    (draws.foldl Draft.step draft).Sound (operatorNext ^^ decide (draws.length % 2 = 1)) := by
  induction draws generalizing draft operatorNext with
  | nil => simpa using h
  | cons draw draws ih =>
    have hrest := ih (h.step hdraws.1) hdraws.2
    rw [turn_succ] at hrest
    exact hrest

/-- An odd number of draws in alternation, the first for an operand slot, ends with one. -/
theorem sound_ofDraws {draws : List SlotDraw} (hodd : draws.length % 2 = 1)
    (halternate : Alternate false draws) : (ofDraws draws).Sound true := by
  have hsound := sound_empty.foldl_step halternate
  rw [hodd] at hsound
  exact hsound

end Draft

namespace Progress

/-- Close parens may come one after the other while groups are open. -/
theorem takesAll_replicate_closeParen {p : Progress} {k : Nat} (hlast : p.last = .operand)
    (hk : k ≤ p.depth) :
    p.TakesAll (List.replicate k .closeParen) ∧
      (p.afterAll (List.replicate k .closeParen)).last = .operand ∧
      (p.afterAll (List.replicate k .closeParen)).depth = p.depth - k := by
  induction k generalizing p with
  | zero => exact ⟨trivial, hlast, rfl⟩
  | succ k ih =>
    have hdepth : p.closeGroup.depth = p.depth - 1 := rfl
    obtain ⟨htakes, hlast', hdepth'⟩ := ih (p := p.closeGroup) rfl (by omega)
    rw [List.replicate_succ]
    refine ⟨⟨⟨hlast, by omega⟩, htakes⟩, hlast', ?_⟩
    have hafter := hdepth'
    rw [hdepth] at hafter
    exact hafter.trans (by omega)

end Progress

namespace Draft

variable {draft : Draft}

/-- A draft that ends with an operand has a token, and keeps it when it is balanced. -/
theorem Sound.balance_ne_nil (h : draft.Sound true) : draft.balance.tokens.toList ≠ [] := by
  have hlast := h.last_iff.mpr rfl
  rw [balance_tokens]
  intro hnil
  rw [progress, (List.append_eq_nil_iff.mp hnil).1] at hlast
  cases hlast

/-- Balancing after an operand leads the checker to a good end. -/
theorem Sound.balance (h : draft.Sound true) :
    Progress.TakesAll {} draft.balance.tokens.toList ∧ draft.balance.progress.Complete := by
  have hdepth := h.depth_eq
  have hk : draft.opened - draft.closed = draft.progress.depth := by omega
  obtain ⟨htakes, hlast, hzero⟩ := Progress.takesAll_replicate_closeParen
    (h.last_iff.mpr rfl) (Nat.le_refl draft.progress.depth)
  constructor
  · rw [balance_tokens, hk, Progress.takesAll_append]
    exact ⟨h.takesAll, htakes⟩
  · rw [progress, balance_tokens, hk, Progress.afterAll_append, ← progress]
    exact ⟨by simp [hlast], by omega⟩

end Draft

end Crosscheck
