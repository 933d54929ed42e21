import Crosscheck.Proofs.Grammar.Derivation
import Mathlib.Data.List.Infix
import Mathlib.Order.Bounds.Basic

/-!
# The tally of the checker

The shape that the checker yields is counted while it scans. This file says what the shape of a
list of lexemes is without the scan: how many lexemes of each kind stand outside of the argument
lists of calls, and how deep the groups are nested. What the tally keeps at every transition
makes the two agree, and ties the numbers to one another.
-/

namespace Crosscheck

namespace Lexeme

/-- Whether a lexeme is a number. -/
def isNumber : Lexeme → Bool
  | .number _ => true
  | _ => false

/-- Whether a lexeme is an operator. -/
def isOperator : Lexeme → Bool
  | .operator _ => true
  | _ => false

/-- Whether a lexeme is a name. -/
def isIdent : Lexeme → Bool
  | .ident _ => true
  | _ => false

/-- The lexemes outside of argument lists. After a name, everything up to the next close paren
belongs to a call, whose parens hold no other parens. -/
def outside : (inCall : Bool) → List Lexeme → List Lexeme
  | _, [] => []
  | false, x :: xs => x :: outside x.isIdent xs
  | true, x :: xs => outside (x != .closeParen) xs

/-- The lexemes of a text that are not in the argument list of a call, nor parens of a call. -/
def outsideCalls (xs : List Lexeme) : List Lexeme := outside false xs

/-- The open parens of a list less its close parens. -/
def rise (xs : List Lexeme) : Int := xs.count .openParen - xs.count .closeParen

/-- The groups that are open after lexemes: those that they open less those that they close. -/
def groupDepth (xs : List Lexeme) : Int := rise (outsideCalls xs)

/-- Open parens and close parens are counted one by one. -/
theorem rise_cons (x : Lexeme) (xs : List Lexeme) : rise (x :: xs) = rise [x] + rise xs := by
  simp only [rise, List.count_cons, List.count_nil]
  omega

/-- Up to the close paren of a call, nothing is outside of it. -/
theorem outside_true_append {as : List Lexeme} (has : .closeParen ∉ as) (xs : List Lexeme) :
    outside true (as ++ .closeParen :: xs) = outsideCalls xs := by
  induction as with
  | nil => rfl
  | cons a as ih =>
    rw [List.mem_cons, not_or] at has
    have hinside : (a != .closeParen) = true := bne_iff_ne.mpr (Ne.symm has.1)
    rw [List.cons_append, outside, hinside]
    exact ih has.2

/-- What is outside of calls is a part of the text. -/
theorem outside_sublist (inCall : Bool) (xs : List Lexeme) : (outside inCall xs).Sublist xs := by
  induction xs generalizing inCall with
  | nil => exact .slnil
  | cons x xs ih =>
    cases inCall with
    | false => exact (ih _).cons_cons x
    | true => exact (ih _).cons x

/-- The beginnings of what is outside of calls are what is outside of calls in the beginnings
of the text. -/
theorem prefix_outside_iff {zs xs : List Lexeme} {inCall : Bool} :
    zs <+: outside inCall xs ↔ ∃ pre, pre <+: xs ∧ outside inCall pre = zs := by
  induction xs generalizing zs inCall with
  | nil => simp [outside, eq_comm]
  | cons x xs ih =>
    cases inCall with
    | true =>
      rw [outside, ih]
      constructor
      · rintro ⟨pre, hpre, rfl⟩
        exact ⟨x :: pre, (List.prefix_cons_inj x).mpr hpre, rfl⟩
      · rintro ⟨pre, hpre, rfl⟩
        rcases List.prefix_cons_iff.mp hpre with rfl | ⟨tail, rfl, htail⟩
        · exact ⟨[], List.nil_prefix, rfl⟩
        · exact ⟨tail, htail, rfl⟩
    | false =>
      rw [outside, List.prefix_cons_iff]
      constructor
      · rintro (rfl | ⟨zs, rfl, hzs⟩)
        · exact ⟨[], List.nil_prefix, rfl⟩
        · obtain ⟨pre, hpre, rfl⟩ := ih.mp hzs
          exact ⟨x :: pre, (List.prefix_cons_inj x).mpr hpre, rfl⟩
      · rintro ⟨pre, hpre, rfl⟩
        rcases List.prefix_cons_iff.mp hpre with rfl | ⟨tail, rfl, htail⟩
        · exact .inl rfl
        · exact .inr ⟨_, rfl, ih.mpr ⟨tail, htail, rfl⟩⟩

end Lexeme

open Lexeme

/-- Arguments are made of numbers, minus signs and commas. -/
theorem IsArguments.mem_cases {count : Nat} {xs : List Lexeme} (h : IsArguments count xs)
    {x : Lexeme} (hx : x ∈ xs) : x.isNumber = true ∨ x = .operator '-' ∨ x = .comma := by
  have hargument {a : List Lexeme} (ha : IsArgument a) (hxa : x ∈ a) :
      x.isNumber = true ∨ x = .operator '-' := by
    cases ha with
    | plain n => exact .inl (List.mem_singleton.mp hxa ▸ rfl)
    | negative n =>
      rcases List.mem_cons.mp hxa with rfl | hxa
      · exact .inr rfl
      · exact .inl (List.mem_singleton.mp hxa ▸ rfl)
  induction h with
  | one ha => exact (hargument ha hx).imp_right .inl
  | more ha _ ih =>
    rcases List.mem_append.mp hx with hx | hx
    · exact (hargument ha hx).imp_right .inl
    · rcases List.mem_cons.mp hx with rfl | hx
      · exact .inr (.inr rfl)
      · exact ih hx

/-- An argument list is a run of lexemes up to its close paren, and has no names. -/
theorem Dialect.IsArgumentList.exists_eq_append {d : Dialect} {name : String} {xs : List Lexeme}
    (h : d.IsArgumentList name xs) :
    ∃ as, xs = as ++ [.closeParen] ∧ .closeParen ∉ as ∧ as.countP isIdent = 0 := by
  obtain ⟨count, args, -, hargs, rfl⟩ := h
  refine ⟨.openParen :: args, rfl, ?_, ?_⟩
  · intro hclose
    rcases List.mem_cons.mp hclose with hclose | hclose
    · cases hclose
    · rcases hargs.mem_cases hclose with h | h | h <;> cases h
  · rw [List.countP_eq_zero]
    intro x hx
    rcases List.mem_cons.mp hx with rfl | hx
    · decide
    · rcases hargs.mem_cases hx with h | rfl | rfl
      · cases x <;> simp_all [isNumber, isIdent]
      · decide
      · decide

namespace Progress

variable {d : Dialect} {p q r : Progress} {u xs : List Lexeme}

/-- Only the first lexeme of a unit is outside of argument lists. -/
theorem Reads.outsideCalls_append (h : Reads d p u q) :
    ∃ x rest, u = x :: rest ∧ ∀ xs, outsideCalls (u ++ xs) = x :: outsideCalls xs := by
  cases h with
  | call _ _ hargs =>
    obtain ⟨as, rfl, has, -⟩ := hargs.exists_eq_append
    refine ⟨_, _, rfl, fun xs => ?_⟩
    rw [List.cons_append, List.append_assoc]
    exact congrArg _ (outside_true_append has xs)
  | _ => exact ⟨_, _, rfl, fun xs => rfl⟩

/-- Units are taken apart from what comes after them. -/
theorem Reads.outsideCalls_append_eq (h : Reads d p u q) (xs : List Lexeme) :
    outsideCalls (u ++ xs) = outsideCalls u ++ outsideCalls xs := by
  obtain ⟨x, rest, -, houtside⟩ := h.outsideCalls_append
  have hunit : outsideCalls u = [x] := by simpa [outsideCalls, outside] using houtside []
  rw [houtside, hunit]
  rfl

/-- What a run adds to the tally: for each kind of lexeme, how many there are in the text. -/
structure Tallies (p : Progress) (xs : List Lexeme) (q : Progress) : Prop where
  calls : q.shape.calls = p.shape.calls + xs.countP isIdent
  operands : q.shape.operands = p.shape.operands + (outsideCalls xs).countP isNumber
  operators : q.shape.operators = p.shape.operators + (outsideCalls xs).countP isOperator
  openParens : q.shape.openParens = p.shape.openParens + (outsideCalls xs).count .openParen
  closeParens : q.shape.closeParens = p.shape.closeParens + (outsideCalls xs).count .closeParen

/-- The step lemma: a unit is tallied as the lexeme that it begins with. -/
theorem Reads.tallies (h : Reads d p u q) : p.Tallies u q := by
  obtain ⟨x, rest, hu, houtside⟩ := h.outsideCalls_append
  have hunit : outsideCalls u = [x] := by simpa [outsideCalls, outside] using houtside []
  cases h with
  | call _ _ hargs =>
    obtain ⟨as, rfl, -, hidents⟩ := hargs.exists_eq_append
    obtain ⟨rfl, -⟩ := List.cons.inj hu
    refine ⟨?_, by rw [hunit]; rfl, by rw [hunit]; rfl, by rw [hunit]; rfl, by rw [hunit]; rfl⟩
    rw [List.countP_cons, List.countP_append, hidents]
    rfl
  | _ => exact ⟨rfl, rfl, rfl, rfl, rfl⟩

/-- The run lemma: a run tallies all the lexemes of the text. -/
theorem Runs.tallies (h : Runs d p xs q) : p.Tallies xs q := by
  induction h with
  | nil p => exact ⟨rfl, rfl, rfl, rfl, rfl⟩
  | @cons p q r u xs hread _ ih =>
    have happend := hread.outsideCalls_append_eq xs
    have hstep := hread.tallies
    constructor
    · rw [ih.calls, hstep.calls, List.countP_append, Nat.add_assoc]
    · rw [ih.operands, hstep.operands, happend, List.countP_append, Nat.add_assoc]
    · rw [ih.operators, hstep.operators, happend, List.countP_append, Nat.add_assoc]
    · rw [ih.openParens, hstep.openParens, happend, List.count_append, Nat.add_assoc]
    · rw [ih.closeParens, hstep.closeParens, happend, List.count_append, Nat.add_assoc]

/-- How the numbers of the tally hang together, whatever has been read. -/
structure Consistent (p : Progress) : Prop where
  coherent : p.Coherent
  /-- Operators stand between terms, and after the last operator a term is due. -/
  terms : p.shape.operands + p.shape.calls =
    p.shape.operators + if p.last = .operand then 1 else 0
  parens : p.shape.openParens = p.shape.closeParens + p.depth
  depth_le : p.depth ≤ p.shape.maxDepth
  maxDepth_le : p.shape.maxDepth ≤ p.shape.openParens
  maxDepth_pos : 0 < p.shape.openParens → 0 < p.shape.maxDepth

/-- Nothing has been read at the start. -/
theorem consistent_start : Consistent {} :=
  ⟨coherent_start, rfl, rfl, Nat.le_refl _, Nat.le_refl _, id⟩

/-- The step lemma: every transition keeps the numbers together. -/
theorem Reads.consistent (h : Reads d p u q) (hp : p.Consistent) : q.Consistent := by
  have hcoherent := h.coherent
  obtain ⟨hstart, hterms, hparens, hdepth, hmax, hpos⟩ := hp
  cases h with
  | number n hlast =>
    rw [if_neg hlast] at hterms
    exact ⟨hcoherent, by simp only [operand, if_true]; omega, hparens, hdepth, hmax, hpos⟩
  | operator hlast =>
    rw [if_pos hlast] at hterms
    refine ⟨hcoherent, ?_, hparens, hdepth, hmax, hpos⟩
    simp only [Progress.operator, reduceCtorEq, if_false]
    omega
  | openParen hlast =>
    rw [if_neg hlast] at hterms
    constructor
    · exact hcoherent
    · simpa [openGroup] using hterms
    all_goals
      simp only [openGroup]
      omega
  | closeParen hlast hopen =>
    -- At the start no group is open, so that an operand comes before the paren.
    have hlast : p.last = .operand := hlast.resolve_left fun h => hopen (hstart.1 h)
    rw [if_pos hlast] at hterms
    exact ⟨hcoherent, by simpa [closeGroup] using hterms, by simp only [closeGroup]; omega,
      by simp only [closeGroup]; omega, hmax, hpos⟩
  | call hlast =>
    rw [if_neg hlast] at hterms
    exact ⟨hcoherent, by simp only [Progress.call, if_true]; omega, hparens, hdepth, hmax, hpos⟩

/-- The run lemma: every run keeps the numbers together. -/
theorem Runs.consistent (h : Runs d p xs q) (hp : p.Consistent) : q.Consistent := by
  induction h with
  | nil => exact hp
  | cons hread _ ih => exact ih (hread.consistent hp)

/-- The step lemma for the depth: a unit changes it by the paren that it is, and the greatest
depth grows with it. -/
theorem Reads.depth_eq (h : Reads d p u q) (hp : p.depth ≤ p.shape.maxDepth) :
    ∃ x, (∀ xs, outsideCalls (u ++ xs) = x :: outsideCalls xs) ∧
      (q.depth : Int) = p.depth + rise [x] ∧
      q.shape.maxDepth = max p.shape.maxDepth q.depth := by
  obtain ⟨x, rest, hu, houtside⟩ := h.outsideCalls_append
  refine ⟨x, houtside, ?_⟩
  cases h <;> obtain ⟨rfl, -⟩ := List.cons.inj hu
  case closeParen hopen =>
    simp only [closeGroup, rise]
    refine ⟨?_, by omega⟩
    have hrise : ((List.count Lexeme.openParen [Lexeme.closeParen] : Nat) : Int) -
        (List.count Lexeme.closeParen [Lexeme.closeParen] : Nat) = -1 := rfl
    omega
  case openParen => exact ⟨rfl, rfl⟩
  all_goals exact ⟨(Int.add_zero _).symm, (Nat.max_eq_left hp).symm⟩

/-- The run lemma for the depth: the greatest depth is what it was, or the greatest depth at the
beginnings of what is read. -/
theorem Runs.isGreatest_maxDepth (h : Runs d p xs q) (hp : p.depth ≤ p.shape.maxDepth) :
    IsGreatest (insert (p.shape.maxDepth : Int)
      {depth | ∃ zs, zs <+: outsideCalls xs ∧ depth = p.depth + rise zs}) q.shape.maxDepth := by
  induction h with
  | nil p =>
    refine ⟨.inl rfl, ?_⟩
    rintro depth (rfl | ⟨zs, hzs, rfl⟩)
    · exact le_refl _
    · obtain rfl : zs = [] := List.prefix_nil.mp hzs
      have hle : (p.depth : Int) ≤ p.shape.maxDepth := by exact_mod_cast hp
      simpa [rise] using hle
  | @cons p q r u xs hread _ ih =>
    obtain ⟨x, houtside, hdepth, hmax⟩ := hread.depth_eq hp
    obtain ⟨hmem, hupper⟩ := ih (by omega)
    rw [houtside]
    have hq : (q.shape.maxDepth : Int) ≤ r.shape.maxDepth := hupper (.inl rfl)
    constructor
    · rcases hmem with hsame | ⟨zs, hzs, heq⟩
      · by_cases hgrows : p.shape.maxDepth < q.depth
        · refine .inr ⟨[x], (List.prefix_cons_inj x).mpr List.nil_prefix, ?_⟩
          omega
        · left
          omega
      · refine .inr ⟨x :: zs, (List.prefix_cons_inj x).mpr hzs, ?_⟩
        rw [heq, hdepth, rise_cons x zs, Int.add_assoc]
    · rintro depth (rfl | ⟨zs, hzs, rfl⟩)
      · omega
      · rcases List.prefix_cons_iff.mp hzs with rfl | ⟨tail, rfl, htail⟩
        · simp only [rise, List.count_nil]
          omega
        · have hle : (q.depth : Int) + rise tail ≤ r.shape.maxDepth :=
            hupper (.inr ⟨tail, htail, rfl⟩)
          rw [rise_cons, ← Int.add_assoc, ← hdepth]
          exact hle

/-- The checker does not come back to the start. -/
theorem Runs.start_of_last_eq (h : Runs d p xs q) (hlast : q.last = .start) :
    p.last = .start ∧ xs = [] := by
  induction h with
  | nil => exact ⟨hlast, rfl⟩
  | cons hread _ ih =>
    have hmiddle := (ih hlast).1
    cases hread <;> simp at hmiddle

end Progress

/-- What a shape says about a list of lexemes. -/
structure Shape.Describes (s : Shape) (xs : List Lexeme) : Prop where
  calls_eq : s.calls = xs.countP isIdent
  operands_eq : s.operands = (outsideCalls xs).countP isNumber
  operators_eq : s.operators = (outsideCalls xs).countP isOperator
  openParens_eq : s.openParens = (outsideCalls xs).count .openParen
  closeParens_eq : s.closeParens = (outsideCalls xs).count .closeParen
  openParens_eq_closeParens : s.openParens = s.closeParens
  /-- The greatest depth is reached after some beginning of the text, and never exceeded. -/
  isGreatest_maxDepth :
    IsGreatest {depth | ∃ pre, pre <+: xs ∧ depth = groupDepth pre} (s.maxDepth : Int)
  maxDepth_le_openParens : s.maxDepth ≤ s.openParens
  maxDepth_eq_zero_iff : s.maxDepth = 0 ↔ s.openParens = 0
  operands_add_calls : s.operands + s.calls = s.operators + 1

/-- The tally of a run from the start to a good end describes the lexemes. -/
theorem Progress.Runs.describes {d : Dialect} {q : Progress} {xs : List Lexeme}
    (h : Runs d {} xs q) (hxs : xs ≠ []) (hq : q.Complete) : q.shape.Describes xs := by
  have htallies := h.tallies
  have hconsistent := h.consistent consistent_start
  have hlast : q.last = .operand := by
    cases hlast : q.last with
    | operand => rfl
    | start => exact absurd (h.start_of_last_eq hlast).2 hxs
    | operator => exact absurd hlast hq.1
    | openParen => exact absurd hq.2 (hconsistent.coherent.2 hlast)
  have hgreatest : IsGreatest {depth | ∃ pre, pre <+: xs ∧ depth = groupDepth pre}
      (q.shape.maxDepth : Int) := by
    have hset : insert (0 : Int) {depth | ∃ zs, zs <+: outsideCalls xs ∧ depth = 0 + rise zs} =
        {depth | ∃ pre, pre <+: xs ∧ depth = groupDepth pre} := by
      ext depth
      constructor
      · rintro (rfl | ⟨zs, hzs, rfl⟩)
        · exact ⟨[], List.nil_prefix, rfl⟩
        · obtain ⟨pre, hpre, rfl⟩ := prefix_outside_iff.mp hzs
          exact ⟨pre, hpre, Int.zero_add _⟩
      · rintro ⟨pre, hpre, rfl⟩
        exact .inr ⟨_, prefix_outside_iff.mpr ⟨pre, hpre, rfl⟩, (Int.zero_add _).symm⟩
    exact hset ▸ h.isGreatest_maxDepth (Nat.le_refl 0)
  refine ⟨?_, ?_, ?_, ?_, ?_, ?_, hgreatest, hconsistent.maxDepth_le, ?_, ?_⟩
  · exact htallies.calls.trans (Nat.zero_add _)
  · exact htallies.operands.trans (Nat.zero_add _)
  · exact htallies.operators.trans (Nat.zero_add _)
  · exact htallies.openParens.trans (Nat.zero_add _)
  · exact htallies.closeParens.trans (Nat.zero_add _)
  · have hparens := hconsistent.parens
    rwa [hq.2] at hparens
  · have hle := hconsistent.maxDepth_le
    have hpos := hconsistent.maxDepth_pos
    omega
  · have hterms := hconsistent.terms
    rwa [if_pos hlast] at hterms

/-- The shape of accepted lexemes describes them. -/
theorem Dialect.describes_of_checkLexemes {d : Dialect} {ls : List Located} {s : Shape}
    (h : d.checkLexemes ls = .ok s) : s.Describes (lexemes ls) := by
  obtain ⟨hne, q, hruns, hq, rfl⟩ := checkLexemes_eq_ok_iff.mp h
  exact hruns.describes (fun hnil => hne (List.map_eq_nil_iff.mp hnil)) hq

/-- **The shape of an accepted text is its true shape.** What the checker counts while it scans
is what the lexemes of the text amount to. -/
theorem Dialect.describes_of_check {d : Dialect} {text : String} {s : Shape}
    (h : d.check text = .ok s) :
    ∃ ls, Lexeme.ofText text = .ok ls ∧ s.Describes (lexemes ls) := by
  obtain ⟨ls, hlexemes, hcheck⟩ := check_eq_ok_iff.mp h
  exact ⟨ls, hlexemes, describes_of_checkLexemes hcheck⟩

/-- Two groups in one another, and a call whose own parens, minus sign and arguments do not
count. -/
theorem Dialect.describes_of_check_nested_groups :
    let d : Dialect := {}
    let s : Shape :=
      { operands := 3, operators := 3, calls := 1,
        openParens := 3, closeParens := 3, maxDepth := 2 }
    d.check "((1)+max(3,-4))*(2-5)" = .ok s ∧
      ∃ ls, Lexeme.ofText "((1)+max(3,-4))*(2-5)" = .ok ls ∧ s.Describes (lexemes ls) := by
  intro d s
  have hcheck : d.check "((1)+max(3,-4))*(2-5)" = .ok s := by decide +kernel
  exact ⟨hcheck, describes_of_check hcheck⟩

end Crosscheck
