import Crosscheck.Proofs.Grammar.FaultyCalls
import Crosscheck.Proofs.Grammar.Scanning
import Crosscheck.Proofs.Grammar.Tally

/-!
# Where a violation is found

The checker reads from left to right and stops at the first violation. This file proves that it
could not have stopped earlier and need not read on: what stands before a misplaced lexeme can
still be completed to an accepted text, and with that lexeme no completion is left. A text that
merely ends too early can be completed as it is. Every state of the checker can be brought to a
good end, by an operand where one is due and a close paren for every open group. Where all arguments
can be counted, the checker never breaks off.
-/

namespace Crosscheck

open Lexeme

namespace Violation

/-- The violations that one lexeme makes by its place among the lexemes before it. -/
def isMisplacement : Violation → Bool
  | .leadingOperator _ | .operatorAfterOpenParen .. | .adjacentOperators ..
  | .operatorBeforeCloseParen _ | .emptyGroup _ | .missingOperator _ | .unknownOperator ..
  | .unmatchedCloseParen _ | .strayComma _ => true
  | _ => false

/-- The violations that the end of the text makes. -/
def isUnfinished : Violation → Bool
  | .trailingOperator | .unbalanced .. => true
  | _ => false

/-- The byte offset that a misplacement reports. An operator in front of the text has none. -/
def offset? : Violation → Option Nat
  | .operatorAfterOpenParen _ offset | .adjacentOperators _ offset
  | .operatorBeforeCloseParen offset | .emptyGroup offset | .missingOperator offset
  | .unknownOperator _ offset | .unmatchedCloseParen offset | .strayComma offset => some offset
  | _ => none

/-- Whether a violation is reported of the lexeme at an index. -/
def IsFoundAt (ls : List Located) (i : Nat) : Violation → Prop
  | .leadingOperator _ => i = 0
  | v => ∃ l, ls[i]? = some l ∧ v.offset? = some l.offset

end Violation

/-- Lexemes that bring others to an accepted text. -/
def Dialect.CompletedBy (d : Dialect) (xs more : List Lexeme) : Prop :=
  ∃ text ls s, Lexeme.ofText text = .ok ls ∧ lexemes ls = xs ++ more ∧ d.check text = .ok s

/-- Lexemes that some accepted text begins with. -/
def Dialect.Completable (d : Dialect) (xs : List Lexeme) : Prop := ∃ more, d.CompletedBy xs more

namespace Progress

variable {d : Dialect} {p q r : Progress} {xs : List Lexeme} {l : Located} {rest : List Located}
  {v : Violation}

/-- After an operand, close parens end the open groups. -/
theorem exists_runs_closeParens (hlast : p.last = .operand) :
    ∃ r, Runs d p (List.replicate p.depth .closeParen) r ∧ r.last = .operand ∧ r.depth = 0 := by
  generalize hdepth : p.depth = depth
  induction depth generalizing p with
  | zero => exact ⟨p, .nil p, hlast, hdepth⟩
  | succ depth ih =>
    have hclose : Reads d p [.closeParen] p.closeGroup :=
      .closeParen (.inr hlast) (by omega)
    obtain ⟨r, hruns, hr⟩ := ih (p := p.closeGroup) rfl (by rw [closeGroup_depth]; omega)
    exact ⟨r, .cons hclose hruns, hr⟩

/-- Every state can be brought to a good end. -/
theorem exists_runs_complete (d : Dialect) (p : Progress) :
    ∃ ys r, Runs d p ys r ∧ r.last = .operand ∧ r.depth = 0 ∧ ∀ y ∈ ys, y.IsWritable := by
  have hclosers (depth : Nat) :
      ∀ y ∈ List.replicate depth Lexeme.closeParen, y.IsWritable := by
    intro y hy
    obtain rfl := (List.mem_replicate.mp hy).2
    trivial
  by_cases hlast : p.last = .operand
  · obtain ⟨r, hruns, hr, hdepth⟩ := exists_runs_closeParens (d := d) hlast
    exact ⟨_, r, hruns, hr, hdepth, hclosers _⟩
  · obtain ⟨r, hruns, hr, hdepth⟩ := exists_runs_closeParens (d := d) (operand_last p)
    refine ⟨_, r, .cons (.number 1 hlast) hruns, hr, hdepth, ?_⟩
    intro y hy
    rcases List.mem_append.mp hy with hy | hy
    · obtain rfl := List.mem_singleton.mp hy
      exact (by decide : 1 ≤ maxLiteral)
    · exact hclosers _ y hy

/-- The checker stops in a step, after transitions over all that is before it. -/
theorem exists_step_of_run_eq_error {ls : List Located} {error : CheckError}
    (h : run d p ls = .error error) :
    ∃ as l rest q, ls = as ++ l :: rest ∧ Runs d p (lexemes as) q ∧
      q.step d l rest = .error error := by
  fun_induction run d p ls with
  | case1 => cases h
  | case2 p l rest _ hstep =>
    cases h
    exact ⟨[], l, rest, p, rfl, .nil p, hstep⟩
  | case3 _ l _ _ _ hstep _ ih =>
    obtain ⟨us, rfl, hread⟩ := exists_reads_of_step hstep
    obtain ⟨as, m, rest, q, rfl, hruns, herror⟩ := ih h
    refine ⟨l :: us ++ as, m, rest, q, by simp, ?_, herror⟩
    simpa using Runs.cons hread hruns

/-- What is wrong with a call is neither the place of a lexeme nor the end of the text. -/
theorem unclassified_of_checkCall {name : String} {offset : Nat} {ls : List Located}
    (h : checkCall d name offset ls = .error (.violation v)) :
    v.isMisplacement = false ∧ v.isUnfinished = false := by
  have hfault := Dialect.checkCall_eq_violation_iff.mp h
  generalize lexemes ls = xs at hfault
  cases hfault <;> exact ⟨rfl, rfl⟩

/-- What an operator breaks it breaks by its place, and it is reported. -/
theorem found_of_operatorViolation? {last : LastSeen} {c : Char} {offset : Nat}
    (h : operatorViolation? d last c offset = some v) :
    v.isUnfinished = false ∧
      (v.offset? = some offset ∨ last = .start ∧ v = .leadingOperator c) := by
  unfold operatorViolation? at h
  split at h
  case h_1 =>
    cases h
    exact ⟨rfl, .inr ⟨rfl, rfl⟩⟩
  case h_4 =>
    split at h <;> cases h
    exact ⟨rfl, .inl rfl⟩
  all_goals
    cases h
    exact ⟨rfl, .inl rfl⟩

/-- What a close paren breaks it breaks by its place, and it is reported. -/
theorem found_of_closeViolation? {offset : Nat} (h : p.closeViolation? offset = some v) :
    v.isUnfinished = false ∧ v.offset? = some offset := by
  unfold closeViolation? at h
  cases hlast : p.last <;> simp only [hlast] at h
  case openParen | operator =>
    cases h
    exact ⟨rfl, rfl⟩
  all_goals
    split at h <;> cases h
    exact ⟨rfl, rfl⟩

/-- The violation of a lexeme that is in a wrong place: it is reported there, and no unit can
begin with that lexeme, whatever comes after it. -/
structure Misplaces (d : Dialect) (p : Progress) (l : Located) (v : Violation) : Prop where
  isUnfinished_eq : v.isUnfinished = false
  found : v.offset? = some l.offset ∨ p.last = .start ∧ ∃ c, v = .leadingOperator c
  not_reads (us : List Lexeme) (q : Progress) : ¬ Reads d p (l.lexeme :: us) q

/-- A step stops within a call, or at a lexeme in a wrong place. -/
theorem call_or_misplaces_of_step {error : CheckError} (h : p.step d l rest = .error error) :
    (∃ name, checkCall d name l.offset rest = .error error) ∨
      ∃ v, error = .violation v ∧ Misplaces d p l v := by
  unfold step at h
  split at h
  case h_1 n hl =>
    split at h <;> cases h
    rename_i hlast
    refine .inr ⟨_, rfl, rfl, .inl rfl, fun us q hread => ?_⟩
    rw [hl] at hread
    cases hread with
    | number _ hne => exact hne hlast
  case h_2 c hl =>
    split at h <;> cases h
    rename_i hviolation
    obtain ⟨hunfinished, hfound⟩ := found_of_operatorViolation? hviolation
    refine .inr ⟨_, rfl, hunfinished, hfound.imp_right fun ⟨hlast, hv⟩ => ⟨hlast, c, hv⟩, ?_⟩
    intro us q hread
    rw [hl] at hread
    cases hread with
    | operator hlast hc =>
      rw [(operatorViolation?_eq_none_iff l.offset).mpr ⟨hlast, hc⟩] at hviolation
      cases hviolation
  case h_3 hl =>
    split at h <;> cases h
    rename_i hlast
    refine .inr ⟨_, rfl, rfl, .inl rfl, fun us q hread => ?_⟩
    rw [hl] at hread
    cases hread with
    | openParen hne => exact hne hlast
  case h_4 hl =>
    split at h <;> cases h
    rename_i hviolation
    obtain ⟨hunfinished, hoffset⟩ := found_of_closeViolation? hviolation
    refine .inr ⟨_, rfl, hunfinished, .inl hoffset, fun us q hread => ?_⟩
    rw [hl] at hread
    cases hread with
    | closeParen hlast hdepth =>
      rw [(closeViolation?_eq_none_iff l.offset).mpr ⟨hlast, hdepth⟩] at hviolation
      cases hviolation
  case h_5 hl =>
    cases h
    refine .inr ⟨_, rfl, rfl, .inl rfl, fun us q hread => ?_⟩
    rw [hl] at hread
    cases hread
  case h_6 name hl =>
    split at h
    · rename_i hlast
      cases h
      refine .inr ⟨_, rfl, rfl, .inl rfl, fun us q hread => ?_⟩
      rw [hl] at hread
      cases hread with
      | call hne => exact hne hlast
    · left
      cases hcall : checkCall d name l.offset rest with
      | error other =>
        rw [hcall] at h
        cases h
        exact ⟨name, hcall⟩
      | ok after =>
        rw [hcall] at h
        cases h

/-- The end of the text is to blame for an operator that is last, or for groups that are open. -/
theorem finish_eq_error_cases {error : CheckError} (h : p.finish = .error error) :
    error = .violation .trailingOperator ∨
      error = .violation (.unbalanced p.shape.openParens p.shape.closeParens) ∧ p.depth ≠ 0 := by
  unfold finish at h
  split at h
  · cases h
    exact .inl rfl
  · split at h <;> cases h
    rename_i hdepth
    exact .inr ⟨rfl, hdepth⟩

end Progress

namespace Violation

variable {v : Violation} {as rest : List Located} {l : Located}

/-- A violation with an offset is found at the lexeme that stands there. -/
theorem isFoundAt_iff_of_offset? {ls : List Located} {j offset : Nat}
    (h : v.offset? = some offset) :
    v.IsFoundAt ls j ↔ ∃ m, ls[j]? = some m ∧ m.offset = offset := by
  have hoffset (m : Located) : v.offset? = some m.offset ↔ m.offset = offset := by
    rw [h, Option.some.injEq, eq_comm]
  simp only [← hoffset]
  cases v with
  | leadingOperator => cases h
  | _ => rfl

/-- Offsets that increase tell the lexemes apart, so that a violation is found at one only. -/
theorem isFoundAt_iff (hls : (as ++ l :: rest).Pairwise fun m n => m.offset < n.offset)
    (hv : v.offset? = some l.offset ∨ as = [] ∧ ∃ c, v = .leadingOperator c) (j : Nat) :
    v.IsFoundAt (as ++ l :: rest) j ↔ j = as.length := by
  rcases hv with hv | ⟨rfl, c, rfl⟩
  · have hl : (as ++ l :: rest)[as.length]? = some l := by simp
    have hnodup : ((as ++ l :: rest).map Located.offset).Nodup :=
      List.pairwise_map.mpr (hls.imp Nat.ne_of_lt)
    rw [isFoundAt_iff_of_offset? hv]
    constructor
    · rintro ⟨m, hm, hoffset⟩
      have hj : j < ((as ++ l :: rest).map Located.offset).length := by
        rw [List.length_map]
        exact (List.getElem?_eq_some_iff.mp hm).1
      refine (List.getElem?_inj hj hnodup).mp ?_
      rw [List.getElem?_map, List.getElem?_map, hm, hl, Option.map_some, Option.map_some, hoffset]
    · rintro rfl
      exact ⟨l, hl, rfl⟩
  · rfl

end Violation

namespace Dialect

variable {d : Dialect} {xs more : List Lexeme} {q : Progress} {ls : List Located} {v : Violation}

/-- What the checker can run over, it can run over to a good end. -/
theorem completable_of_runs (h : Progress.Runs d {} xs q) (hxs : ∀ x ∈ xs, x.IsWritable) :
    d.Completable xs := by
  obtain ⟨ys, r, hruns, hlast, hdepth, hys⟩ := Progress.exists_runs_complete d q
  have hwritable : ∀ x ∈ xs ++ ys, x.IsWritable := fun x hx =>
    (List.mem_append.mp hx).elim (hxs x) (hys x)
  obtain ⟨text, ls, hlexemes, hls⟩ := exists_ofText hwritable
  have hrun : Progress.Runs d {} (lexemes ls) r := hls ▸ h.append hruns
  refine ⟨ys, text, ls, r.shape, hlexemes, hls, ?_⟩
  rw [check_of_ofText hlexemes]
  refine checkLexemes_eq_ok_iff.mpr ⟨?_, r, hrun, ⟨by simp [hlast], hdepth⟩, rfl⟩
  rintro rfl
  -- The good end comes after an operand, so that something has been read.
  have hstart : Progress.run d {} [] = .ok r := Progress.run_of_runs hrun rfl
  rw [Progress.run] at hstart
  cases hstart
  cases hlast

/-- A completion is a run to a good end from the state after what is completed. -/
theorem CompletedBy.exists_runs (hmore : d.CompletedBy xs more) (h : Progress.Runs d {} xs q) :
    ∃ r, Progress.Runs d q more r ∧ r.Complete := by
  obtain ⟨text, ls, s, hlexemes, hls, hcheck⟩ := hmore
  rw [check_of_ofText hlexemes] at hcheck
  obtain ⟨-, r, hruns, hr, -⟩ := checkLexemes_eq_ok_iff.mp hcheck
  obtain ⟨as, bs, rfl, has, rfl⟩ := lexemes_eq_append hls
  have hrun : Progress.run d q bs = .ok r := by
    rw [← Progress.run_append_of_runs h has bs]
    exact Progress.run_of_runs hruns rfl
  exact ⟨r, Progress.runs_of_run hrun, hr⟩

/-- Where no unit can begin with a lexeme, no completion is left after it. -/
theorem not_completable_of_not_reads {x : Lexeme} (h : Progress.Runs d {} xs q)
    (hx : ∀ us r, ¬ Progress.Reads d q (x :: us) r) : ¬ d.Completable (xs ++ [x]) := by
  rintro ⟨more, text, ls, s, hlexemes, hls, hcheck⟩
  rw [List.append_assoc] at hls
  obtain ⟨r, hruns, -⟩ := CompletedBy.exists_runs ⟨text, ls, s, hlexemes, hls, hcheck⟩ h
  generalize hys : [x] ++ more = ys at hruns
  cases hruns with
  | nil => cases hys
  | @cons _ _ _ u _ hread =>
    cases u with
    | nil => cases hread
    | cons y us =>
      obtain rfl : x = y := (List.cons.inj hys).1
      exact hx us _ hread

/-- A completion closes every group that is open. -/
theorem CompletedBy.depth_le_count (hmore : d.CompletedBy xs more)
    (h : Progress.Runs d {} xs q) : q.depth ≤ more.count .closeParen := by
  obtain ⟨r, hruns, hr⟩ := hmore.exists_runs h
  have hq := h.consistent Progress.consistent_start
  have hparens := (hruns.consistent hq).parens
  have htallies := hruns.tallies
  have hopens := htallies.openParens
  have hcloses := htallies.closeParens
  have houtside : (outsideCalls more).count .closeParen ≤ more.count .closeParen :=
    (outside_sublist false more).count_le _
  have hqparens := hq.parens
  have hdepth := hr.2
  omega

/-- The checker stops because there is nothing to read, in a step, or at the end. -/
theorem checkLexemes_eq_error_cases {error : CheckError} (h : d.checkLexemes ls = .error error) :
    error = .violation .empty ∨
      (∃ as l rest q, ls = as ++ l :: rest ∧ Progress.Runs d {} (lexemes as) q ∧
        q.step d l rest = .error error) ∨
      ∃ q, Progress.Runs d {} (lexemes ls) q ∧ q.finish = .error error := by
  unfold checkLexemes at h
  split at h
  · cases h
    exact .inl rfl
  · cases hrun : Progress.run d {} ls with
    | error other =>
      rw [hrun] at h
      cases h
      exact .inr (.inl (Progress.exists_step_of_run_eq_error hrun))
    | ok q =>
      rw [hrun] at h
      exact .inr (.inr ⟨q, Progress.runs_of_run hrun, h⟩)

/-- The lexemes before a misplaced one can be completed, and with it no longer. The violation
points at it and at no other. -/
theorem exists_index_of_misplaces {offset : Nat} {cs : List Char} {as rest : List Located}
    {l : Located} (hscans : Scans offset cs (as ++ l :: rest))
    (hruns : Progress.Runs d {} (lexemes as) q) (hplace : q.Misplaces d l v) :
    ∃ i < (as ++ l :: rest).length, (∀ j, v.IsFoundAt (as ++ l :: rest) j ↔ j = i) ∧
      d.Completable (lexemes ((as ++ l :: rest).take i)) ∧
      ¬ d.Completable (lexemes ((as ++ l :: rest).take (i + 1))) := by
  refine ⟨as.length, by simp, ?_, ?_, ?_⟩
  · refine Violation.isFoundAt_iff hscans.pairwise_offset.2 (hplace.found.imp_right ?_)
    rintro ⟨hlast, hc⟩
    exact ⟨List.map_eq_nil_iff.mp (hruns.start_of_last_eq hlast).2, hc⟩
  · rw [List.take_left]
    refine completable_of_runs hruns fun x hx => hscans.isWritable x ?_
    rw [lexemes_append]
    exact List.mem_append_left _ hx
  · rw [List.take_length_add_append 1, lexemes_append]
    exact not_completable_of_not_reads hruns hplace.not_reads

/-- **A violation is found as early as can be.** Before a misplaced lexeme the text can still be
completed, and with it no longer; the violation points at that lexeme and no other. A text that
ends too early can be completed as it is, and each group left open costs a close paren. -/
theorem check_finds_earliest {text : String} (hlexemes : Lexeme.ofText text = .ok ls)
    (h : d.check text = .error (.violation v)) :
    (v.isMisplacement = true → ∃ i < ls.length, (∀ j, v.IsFoundAt ls j ↔ j = i) ∧
        d.Completable (lexemes (ls.take i)) ∧ ¬ d.Completable (lexemes (ls.take (i + 1)))) ∧
      (v.isUnfinished = true → d.Completable (lexemes ls)) ∧
      ∀ opened closed, v = .unbalanced opened closed → closed < opened ∧
        ∀ more, d.CompletedBy (lexemes ls) more → opened - closed ≤ more.count .closeParen := by
  rw [check_of_ofText hlexemes] at h
  have hscans := scans_of_scan hlexemes
  rcases checkLexemes_eq_error_cases h with
    hempty | ⟨as, l, rest, q, rfl, hruns, hstep⟩ | ⟨q, hruns, hq⟩
  · cases hempty
    exact ⟨nofun, nofun, nofun⟩
  · rcases Progress.call_or_misplaces_of_step hstep with ⟨name, hcall⟩ | ⟨w, hw, hplace⟩
    · -- What is wrong within a call is of neither class.
      obtain ⟨hmisplaced, hunfinished⟩ := Progress.unclassified_of_checkCall hcall
      refine ⟨fun hv => absurd (hmisplaced.symm.trans hv) nofun,
        fun hv => absurd (hunfinished.symm.trans hv) nofun, ?_⟩
      rintro opened closed rfl
      cases hunfinished
    · cases hw
      refine ⟨fun _ => exists_index_of_misplaces hscans hruns hplace,
        fun hv => absurd (hplace.isUnfinished_eq.symm.trans hv) nofun, ?_⟩
      rintro opened closed rfl
      cases hplace.isUnfinished_eq
  · refine ⟨?_, fun _ => completable_of_runs hruns hscans.isWritable, ?_⟩
    · intro hv
      rcases Progress.finish_eq_error_cases hq with hend | ⟨hend, -⟩ <;> cases hend <;> cases hv
    · rintro opened closed rfl
      rcases Progress.finish_eq_error_cases hq with hv | ⟨hv, hdepth⟩
      · cases hv
      · cases hv
        have hparens := (hruns.consistent Progress.consistent_start).parens
        refine ⟨by omega, fun more hmore => ?_⟩
        have hcount := hmore.depth_le_count hruns
        omega

/-- An operator before the close paren of a group, after a call whose parens are not groups, and
two groups of which only one is closed. -/
theorem check_finds_earliest_operator_before_closeParen :
    let d : Dialect := {}
    let ls : List Located :=
      [⟨0, .ident "max"⟩, ⟨3, .openParen⟩, ⟨4, .number 1⟩, ⟨5, .comma⟩, ⟨6, .number 2⟩,
        ⟨7, .closeParen⟩, ⟨8, .operator '+'⟩, ⟨9, .openParen⟩, ⟨10, .number 3⟩,
        ⟨11, .operator '*'⟩, ⟨12, .closeParen⟩]
    let ks : List Located :=
      [⟨0, .openParen⟩, ⟨1, .openParen⟩, ⟨2, .number 1⟩, ⟨3, .operator '+'⟩, ⟨4, .number 2⟩,
        ⟨5, .closeParen⟩]
    (Lexeme.ofText "max(1,2)+(3*)" = .ok ls ∧
      d.check "max(1,2)+(3*)" = .error (.violation (.operatorBeforeCloseParen 12)) ∧
      ∃ i < ls.length, (∀ j, (Violation.operatorBeforeCloseParen 12).IsFoundAt ls j ↔ j = i) ∧
        d.Completable (lexemes (ls.take i)) ∧ ¬ d.Completable (lexemes (ls.take (i + 1)))) ∧
      Lexeme.ofText "((1+2)" = .ok ks ∧ d.check "((1+2)" = .error (.violation (.unbalanced 2 1)) ∧
      d.Completable (lexemes ks) ∧
      ∀ more, d.CompletedBy (lexemes ks) more → 2 - 1 ≤ more.count .closeParen := by
  intro d ls ks
  have hls : Lexeme.ofText "max(1,2)+(3*)" = .ok ls := by decide +kernel
  have hmisplaced : d.check "max(1,2)+(3*)" =
      .error (.violation (.operatorBeforeCloseParen 12)) := by decide +kernel
  have hks : Lexeme.ofText "((1+2)" = .ok ks := by decide +kernel
  have hunbalanced : d.check "((1+2)" = .error (.violation (.unbalanced 2 1)) := by decide +kernel
  obtain ⟨-, hcompletable, hcount⟩ := check_finds_earliest hks hunbalanced
  exact ⟨⟨hls, hmisplaced, (check_finds_earliest hls hmisplaced).1 rfl⟩, hks, hunbalanced,
    hcompletable rfl, (hcount 2 1 rfl).2⟩

end Dialect

end Crosscheck
