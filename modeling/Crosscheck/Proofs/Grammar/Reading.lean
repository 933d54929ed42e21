import Crosscheck.Grammar.Shape
import Crosscheck.Proofs.Grammar.Calls

/-!
# Reading lexemes unit by unit

The checker reads a single lexeme at a time, except for a call, which it reads whole.
What it can read in a given state is stated here once, as a transition between states
labelled with the lexemes read, and a run is a sequence of such transitions. Offsets
matter for violations only, so they do not appear in the transitions.
-/

namespace Crosscheck

namespace Progress

section

variable (p : Progress)

@[simp] theorem operand_last : p.operand.last = .operand := rfl
@[simp] theorem operand_depth : p.operand.depth = p.depth := rfl
@[simp] theorem operator_last : p.operator.last = .operator := rfl
@[simp] theorem operator_depth : p.operator.depth = p.depth := rfl
@[simp] theorem call_last : p.call.last = .operand := rfl
@[simp] theorem call_depth : p.call.depth = p.depth := rfl
@[simp] theorem openGroup_last : p.openGroup.last = .openParen := rfl
@[simp] theorem openGroup_depth : p.openGroup.depth = p.depth + 1 := rfl
@[simp] theorem closeGroup_last : p.closeGroup.last = .operand := rfl
@[simp] theorem closeGroup_depth : p.closeGroup.depth = p.depth - 1 := rfl

end

/-- The transitions of the checker: the lexemes of one unit, and the state after it. -/
inductive Reads (d : Dialect) (p : Progress) : List Lexeme → Progress → Prop
  | number (n : Nat) : p.last ≠ .operand → Reads d p [.number n] p.operand
  | operator {c : Char} :
      p.last = .operand → c ∈ d.operators → Reads d p [.operator c] p.operator
  | openParen : p.last ≠ .operand → Reads d p [.openParen] p.openGroup
  | closeParen : p.last = .start ∨ p.last = .operand → p.depth ≠ 0 →
      Reads d p [.closeParen] p.closeGroup
  | call {name : String} {xs : List Lexeme} : p.last ≠ .operand → name ∈ d.functions →
      d.IsArgumentList name xs → Reads d p (.ident name :: xs) p.call

/-- A sequence of transitions, with the lexemes of all of them. -/
inductive Runs (d : Dialect) : Progress → List Lexeme → Progress → Prop
  | nil (p : Progress) : Runs d p [] p
  | cons {p q r : Progress} {u xs : List Lexeme} :
      Reads d p u q → Runs d q xs r → Runs d p (u ++ xs) r

/-- A single transition is a run. -/
theorem Reads.runs {d : Dialect} {p q : Progress} {u : List Lexeme} (h : Reads d p u q) :
    Runs d p u q := by
  simpa using Runs.cons h (.nil q)

/-- Runs compose. -/
theorem Runs.append {d : Dialect} {p q r : Progress} {xs ys : List Lexeme}
    (h : Runs d p xs q) (h' : Runs d q ys r) : Runs d p (xs ++ ys) r := by
  induction h with
  | nil => exact h'
  | cons hread _ ih =>
    rw [List.append_assoc]
    exact .cons hread (ih h')

/-- An operator breaks nothing exactly after an operand, when the dialect has it. -/
theorem operatorViolation?_eq_none_iff {d : Dialect} {last : LastSeen} {c : Char} (offset : Nat) :
    operatorViolation? d last c offset = none ↔ last = .operand ∧ c ∈ d.operators := by
  cases last <;> simp [operatorViolation?]

/-- A close paren breaks nothing exactly when a group is open and something is in it. -/
theorem closeViolation?_eq_none_iff {p : Progress} (offset : Nat) :
    p.closeViolation? offset = none ↔ (p.last = .start ∨ p.last = .operand) ∧ p.depth ≠ 0 := by
  unfold closeViolation?
  cases p.last <;> simp

/-- Every transition is made by a successful step, whatever comes after. -/
theorem Reads.step_eq_ok {d : Dialect} {p q : Progress} {l : Located} {as : List Located}
    (h : Reads d p (l.lexeme :: lexemes as) q) (after : List Located) :
    p.step d l (as ++ after) = .ok (q, after) := by
  generalize hu : l.lexeme :: lexemes as = u at h
  cases h with
  | number n hlast =>
    obtain ⟨hl, has⟩ := List.cons.inj hu
    obtain rfl := List.map_eq_nil_iff.mp has
    simp [step, hl, hlast]
  | operator hlast hc =>
    obtain ⟨hl, has⟩ := List.cons.inj hu
    obtain rfl := List.map_eq_nil_iff.mp has
    have hnone := (operatorViolation?_eq_none_iff l.offset).mpr ⟨hlast, hc⟩
    simp [step, hl, hnone]
  | openParen hlast =>
    obtain ⟨hl, has⟩ := List.cons.inj hu
    obtain rfl := List.map_eq_nil_iff.mp has
    simp [step, hl, hlast]
  | closeParen hlast hdepth =>
    obtain ⟨hl, has⟩ := List.cons.inj hu
    obtain rfl := List.map_eq_nil_iff.mp has
    have hnone := (closeViolation?_eq_none_iff l.offset).mpr ⟨hlast, hdepth⟩
    simp [step, hl, hnone]
  | call hlast hname hxs =>
    obtain ⟨hl, rfl⟩ := List.cons.inj hu
    have hcall : checkCall d _ l.offset (as ++ after) = .ok after :=
      checkCall_eq_ok_iff.mpr ⟨hname, as, rfl, hxs⟩
    simp [step, hl, hlast, hcall, Except.map]

/-- A successful step makes a transition over the lexeme it read and those it took along. -/
theorem exists_reads_of_step {d : Dialect} {p q : Progress} {l : Located}
    {rest after : List Located} (h : p.step d l rest = .ok (q, after)) :
    ∃ as, rest = as ++ after ∧ Reads d p (l.lexeme :: lexemes as) q := by
  unfold step at h
  split at h
  · split at h <;> cases h
    rename_i n hl hlast
    exact ⟨[], rfl, hl ▸ .number n hlast⟩
  · split at h <;> cases h
    rename_i c hl _ hnone
    obtain ⟨hlast, hc⟩ := (operatorViolation?_eq_none_iff _).mp hnone
    exact ⟨[], rfl, hl ▸ .operator hlast hc⟩
  · split at h <;> cases h
    rename_i hl hlast
    exact ⟨[], rfl, hl ▸ .openParen hlast⟩
  · split at h <;> cases h
    rename_i hl _ hnone
    obtain ⟨hlast, hdepth⟩ := (closeViolation?_eq_none_iff _).mp hnone
    exact ⟨[], rfl, hl ▸ .closeParen hlast hdepth⟩
  · cases h
  · split at h
    · cases h
    · rename_i name hl hlast
      cases hcall : checkCall d name l.offset rest with
      | error error => simp [hcall, Except.map] at h
      | ok left =>
        simp only [hcall, Except.map, Except.ok.injEq, Prod.mk.injEq] at h
        obtain ⟨rfl, rfl⟩ := h
        obtain ⟨hname, as, rfl, hxs⟩ := checkCall_eq_ok_iff.mp hcall
        exact ⟨as, rfl, hl ▸ .call hlast hname hxs⟩

/-- The run of the checker makes transitions over all the lexemes. -/
theorem runs_of_run {d : Dialect} {p q : Progress} {ls : List Located}
    (h : run d p ls = .ok q) : Runs d p (lexemes ls) q := by
  fun_induction run d p ls with
  | case1 =>
    cases h
    exact .nil _
  | case2 => cases h
  | case3 _ _ _ _ _ hstep _ ih =>
    obtain ⟨as, rfl, hread⟩ := exists_reads_of_step hstep
    simpa using Runs.cons hread (ih h)

/-- After a sequence of transitions, the checker goes on from the state they lead to. -/
theorem run_append_of_runs {d : Dialect} {p q : Progress} {xs : List Lexeme} (h : Runs d p xs q)
    {ls : List Located} (hls : lexemes ls = xs) (after : List Located) :
    run d p (ls ++ after) = run d q after := by
  induction h generalizing ls with
  | nil p =>
    obtain rfl := List.map_eq_nil_iff.mp hls
    rfl
  | cons hread _ ih =>
    obtain ⟨us, rest, rfl, rfl, hrest⟩ := lexemes_eq_append hls
    cases us with
    | nil => cases hread
    | cons l as =>
      have hstep := hread.step_eq_ok (rest ++ after)
      rw [List.append_assoc, List.cons_append, run]
      split
      · simp_all
      · simp_all

/-- The checker runs through every sequence of transitions. -/
theorem run_of_runs {d : Dialect} {p q : Progress} {xs : List Lexeme} (h : Runs d p xs q)
    {ls : List Located} (hls : lexemes ls = xs) : run d p ls = .ok q := by
  have hrun := run_append_of_runs h hls []
  rwa [List.append_nil, run] at hrun

/-- A run ends well when no operator is last and no group is open. -/
def Complete (p : Progress) : Prop := p.last ≠ .operator ∧ p.depth = 0

/-- The final check passes good ends only, and yields the tally. -/
theorem finish_eq_ok_iff {p : Progress} {s : Shape} :
    p.finish = .ok s ↔ p.Complete ∧ p.shape = s := by
  unfold finish Complete
  split
  · simp [*]
  · split <;> simp_all

end Progress

/-- The checker accepts exactly the lexemes over which it can run to a good end. -/
theorem Dialect.checkLexemes_eq_ok_iff {d : Dialect} {ls : List Located} {s : Shape} :
    d.checkLexemes ls = .ok s ↔
      ls ≠ [] ∧ ∃ p, Progress.Runs d {} (lexemes ls) p ∧ p.Complete ∧ p.shape = s := by
  unfold checkLexemes
  cases ls with
  | nil => simp
  | cons l rest =>
    simp only [List.isEmpty_cons, Bool.false_eq_true, if_false, ne_eq, reduceCtorEq,
      not_false_eq_true, true_and]
    constructor
    · intro h
      cases hrun : Progress.run d {} (l :: rest) with
      | error error => simp [hrun, bind, Except.bind] at h
      | ok p =>
        refine ⟨p, Progress.runs_of_run hrun, Progress.finish_eq_ok_iff.mp ?_⟩
        simpa [hrun, bind, Except.bind] using h
    · rintro ⟨p, hruns, hfinish⟩
      have hrun := Progress.run_of_runs hruns rfl
      simpa [hrun, bind, Except.bind] using Progress.finish_eq_ok_iff.mpr hfinish

/-- A text that splits into lexemes is checked by them. -/
theorem Dialect.check_of_ofText {d : Dialect} {text : String} {ls : List Located}
    (h : Lexeme.ofText text = .ok ls) : d.check text = d.checkLexemes ls := by
  rw [check, h]
  rfl

/-- A text is accepted when it splits into lexemes and these are accepted. -/
theorem Dialect.check_eq_ok_iff {d : Dialect} {text : String} {s : Shape} :
    d.check text = .ok s ↔ ∃ ls, Lexeme.ofText text = .ok ls ∧ d.checkLexemes ls = .ok s := by
  cases hlexemes : Lexeme.ofText text with
  | error violation =>
    have herror : d.check text = .error (.violation violation) := by
      rw [check, hlexemes]
      rfl
    simp [herror]
  | ok ls => simp [check_of_ofText hlexemes]

end Crosscheck
