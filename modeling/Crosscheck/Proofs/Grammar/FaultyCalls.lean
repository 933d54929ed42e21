import Crosscheck.Proofs.Grammar.Calls
import Mathlib.Data.List.Infix

/-!
# What is wrong with a call

The checker reads a call lexeme by lexeme and stops at the close paren or at the first fault.
This file says what each fault means for the lexemes as a whole: a call is unclosed when all that
is left is the beginning of arguments with their close paren, the number of arguments is wrong
only when the arguments are complete, and everything else that is not empty is malformed. The
checker yields exactly the violation of this description, and for a call without one the index
just past it. It breaks off exactly at complete arguments whose number has no upper bound.
-/

namespace Crosscheck

/-- What follows the open paren of a call: arguments, then the close paren. -/
def IsClosedArguments (count : Nat) (xs : List Lexeme) : Prop :=
  ∃ args, IsArguments count args ∧ xs = args ++ [.closeParen]

/-- Whether lexemes are a proper beginning of arguments with their close paren. -/
def IsUnclosed (xs : List Lexeme) : Prop :=
  ∃ count whole, IsClosedArguments count whole ∧ xs <+: whole ∧ xs ≠ whole

/-- What is wrong with a call, given all the lexemes after its name. A call has at most one of
these faults, as the checker reports every one of them and stops there. -/
inductive Dialect.CallFault (d : Dialect) (name : String) (offset : Nat) :
    List Lexeme → Violation → Prop
  | unknownFunction {xs : List Lexeme} : name ∉ d.functions →
      CallFault d name offset xs (.unknownFunction name offset)
  | missingOpenParen {xs : List Lexeme} : name ∈ d.functions → xs.head? ≠ some .openParen →
      CallFault d name offset xs (.callMissingOpenParen name offset)
  | empty {rest : List Lexeme} : name ∈ d.functions →
      CallFault d name offset (.openParen :: .closeParen :: rest) (.emptyArgumentList name offset)
  | unclosed {inner : List Lexeme} : name ∈ d.functions → IsUnclosed inner →
      CallFault d name offset (.openParen :: inner) (.unclosedCall name offset)
  | arityMismatch {count most : Nat} {closed rest : List Lexeme} : name ∈ d.functions →
      IsClosedArguments count closed → d.maxArguments name = some most →
      ¬d.TakesArguments name count →
      CallFault d name offset (.openParen :: (closed ++ rest))
        (.arityMismatch name count (d.minArguments name) most)
  /-- No other fault, and no complete arguments either. -/
  | malformed {inner : List Lexeme} : name ∈ d.functions → inner.head? ≠ some .closeParen →
      ¬IsUnclosed inner → (∀ count closed, IsClosedArguments count closed → ¬closed <+: inner) →
      CallFault d name offset (.openParen :: inner) (.malformedArgument name offset)

/-- A call with complete arguments to a function that has no greatest number of them. -/
def Dialect.CallOverflow (d : Dialect) (name : String) (xs : List Lexeme) : Prop :=
  name ∈ d.functions ∧ d.maxArguments name = none ∧
    ∃ count closed rest, IsClosedArguments count closed ∧ xs = .openParen :: (closed ++ rest)

/-- Lexemes can stand at any offsets. -/
theorem exists_lexemes_eq (xs : List Lexeme) : ∃ ls, lexemes ls = xs :=
  ⟨xs.map (⟨0, ·⟩), by simp [lexemes, Function.comp_def]⟩

section

variable {expected : ArgumentPart} {count n : Nat} {ls rest : List Located}

/-- A fault other than the end of the text is found whatever comes after it. -/
theorem readArguments_append_of_eq_error {fault : ArgumentFault}
    (h : readArguments expected count ls = .error fault) (hfault : fault ≠ .unclosed)
    (more : List Located) : readArguments expected count (ls ++ more) = .error fault := by
  fun_induction readArguments expected count ls <;> simp_all [readArguments]

/-- Where the text ends too early, an argument and a close paren can follow, or the paren alone. -/
theorem exists_append_of_eq_unclosed (h : readArguments expected count ls = .error .unclosed) :
    ∃ more k, more ≠ [] ∧ readArguments expected count (ls ++ more) = .ok (k, []) := by
  fun_induction readArguments expected count ls with
  | case1 expected count =>
    cases expected with
    | separator => exact ⟨[⟨0, .closeParen⟩], _, by simp, rfl⟩
    | argument | literal => exact ⟨[⟨0, .number 1⟩, ⟨0, .closeParen⟩], _, by simp, rfl⟩
  | case2 _ _ _ _ ih | case3 _ _ _ ih | case5 _ _ _ _ ih | case6 _ _ _ ih =>
    obtain ⟨more, k, hmore, hread⟩ := ih h
    exact ⟨more, k, hmore, by simpa [readArguments] using hread⟩
  | case4 => split at h <;> cases h
  | case7 | case8 => cases h

/-- Only a close paren in the place of the first argument makes an empty list. -/
theorem eq_closeParen_of_eq_empty (h : readArguments expected count ls = .error .empty)
    (hcount : expected = .separator → 0 < count) :
    expected = .argument ∧ count = 0 ∧ ∃ offset after, ls = ⟨offset, .closeParen⟩ :: after := by
  fun_induction readArguments expected count ls with
  | case1 => cases h
  | case2 _ _ _ _ ih | case5 _ _ _ _ ih =>
    -- Once an argument is read, a separator is due and the count is not zero.
    cases (ih h fun _ => Nat.succ_pos _).1
  | case3 _ _ _ ih => cases (ih h nofun).1
  | case4 count offset after =>
    by_cases hzero : count = 0
    · exact ⟨rfl, hzero, offset, after, rfl⟩
    · rw [if_neg hzero] at h
      cases h
  | case6 _ _ _ ih =>
    have hpos := hcount rfl
    have hzero := (ih h nofun).2.1
    omega
  | case7 | case8 => cases h

/-- Arguments that are read up to their close paren are closed arguments of the grammar. -/
theorem readArguments_eq_ok_iff {inner : List Located} :
    readArguments .argument 0 inner = .ok (n, rest) ↔
      ∃ closed, inner = closed ++ rest ∧ IsClosedArguments n (lexemes closed) := by
  constructor
  · intro h
    obtain ⟨k, as, offset, rfl, has, rfl⟩ := isArguments_of_readArguments h
    refine ⟨as ++ [⟨offset, .closeParen⟩], by simp, lexemes as, ?_, by simp⟩
    rwa [Nat.zero_add]
  · rintro ⟨closed, rfl, args, hargs, hclosed⟩
    obtain ⟨as, last, rfl, has, hlast⟩ := lexemes_eq_append hclosed
    obtain ⟨offset, tail, rfl, htail⟩ := lexemes_eq_cons hlast
    obtain rfl := List.map_eq_nil_iff.mp htail
    have hread := readArguments_of_isArguments hargs has 0 offset rest
    rw [Nat.zero_add] at hread
    rwa [List.append_assoc, List.singleton_append]

/-- Reading runs into the end of the text exactly in proper beginnings of closed arguments. -/
theorem readArguments_eq_unclosed_iff {inner : List Located} :
    readArguments .argument 0 inner = .error .unclosed ↔ IsUnclosed (lexemes inner) := by
  constructor
  · intro h
    obtain ⟨more, k, hmore, hread⟩ := exists_append_of_eq_unclosed h
    obtain ⟨closed, hsplit, hclosed⟩ := readArguments_eq_ok_iff.mp hread
    rw [List.append_nil] at hsplit
    subst hsplit
    rw [lexemes_append] at hclosed
    refine ⟨k, _, hclosed, List.prefix_append .., fun hwhole => hmore ?_⟩
    exact List.map_eq_nil_iff.mp (List.self_eq_append_right.mp hwhole)
  · rintro ⟨k, whole, hwhole, ⟨ys, rfl⟩, hne⟩
    obtain ⟨more, rfl⟩ := exists_lexemes_eq ys
    rw [← lexemes_append] at hwhole hne
    have hread : readArguments .argument 0 (inner ++ more) = .ok (k, []) :=
      readArguments_eq_ok_iff.mpr ⟨inner ++ more, (List.append_nil _).symm, hwhole⟩
    have hmore : more ≠ [] := by
      rintro rfl
      exact hne (by rw [List.append_nil])
    -- Neither arguments that end earlier nor another fault would leave the whole list readable.
    match hinner : readArguments .argument 0 inner with
    | .ok (j, rest) =>
      obtain ⟨closed, rfl, hclosed⟩ := readArguments_eq_ok_iff.mp hinner
      have happend : readArguments .argument 0 (closed ++ rest ++ more) = .ok (j, rest ++ more) :=
        readArguments_eq_ok_iff.mpr ⟨closed, List.append_assoc .., hclosed⟩
      rw [hread] at happend
      simp only [Except.ok.injEq, Prod.mk.injEq] at happend
      exact absurd (List.append_eq_nil_iff.mp happend.2.symm).2 hmore
    | .error fault =>
      by_contra hfault
      have happend := readArguments_append_of_eq_error hinner (by rintro rfl; exact hfault rfl) more
      rw [hread] at happend
      cases happend

/-- An argument list is empty exactly when its close paren comes at once. -/
theorem readArguments_eq_empty_iff {inner : List Located} :
    readArguments .argument 0 inner = .error .empty ↔
      (lexemes inner).head? = some .closeParen := by
  constructor
  · intro h
    obtain ⟨-, -, offset, after, rfl⟩ := eq_closeParen_of_eq_empty h nofun
    rfl
  · intro h
    obtain ⟨tail, htail⟩ := List.head?_eq_some_iff.mp h
    obtain ⟨offset, after, rfl, -⟩ := lexemes_eq_cons htail
    simp [readArguments]

end

namespace Dialect

variable {d : Dialect} {name : String} {offset : Nat} {ls inner : List Located} {v : Violation}

/-- A call to something else than a function is not read at all. -/
theorem checkCall_of_notMem (hname : name ∉ d.functions) :
    checkCall d name offset ls = .error (.violation (.unknownFunction name offset)) := by
  rw [← isFunction_iff, Bool.not_eq_true] at hname
  simp [checkCall, hname]

/-- A call to a function needs an open paren. -/
theorem checkCall_of_head?_ne (hname : name ∈ d.functions)
    (hopen : (lexemes ls).head? ≠ some .openParen) :
    checkCall d name offset ls = .error (.violation (.callMissingOpenParen name offset)) := by
  unfold checkCall
  rw [isFunction_iff.mpr hname]
  cases ls with
  | nil => rfl
  | cons l rest =>
    obtain ⟨_, lexeme⟩ := l
    cases lexeme with
    | openParen => exact absurd rfl hopen
    | _ => rfl

/-- A fault of the arguments is reported as what it means for the lexemes. -/
theorem callFault_of_readArguments (hname : name ∈ d.functions) {fault : ArgumentFault}
    (h : readArguments .argument 0 inner = .error fault) :
    d.CallFault name offset (.openParen :: lexemes inner) (fault.violation name offset) := by
  cases fault with
  | empty =>
    obtain ⟨rest, hrest⟩ := List.head?_eq_some_iff.mp (readArguments_eq_empty_iff.mp h)
    rw [hrest]
    exact .empty hname
  | unclosed => exact .unclosed hname (readArguments_eq_unclosed_iff.mp h)
  | malformed =>
    apply CallFault.malformed hname
    · intro hclose
      cases h.symm.trans (readArguments_eq_empty_iff.mpr hclose)
    · intro hunclosed
      cases h.symm.trans (readArguments_eq_unclosed_iff.mpr hunclosed)
    · rintro count closed hclosed ⟨rest, hrest⟩
      obtain ⟨as, bs, rfl, rfl, -⟩ := lexemes_eq_append hrest.symm
      cases h.symm.trans (readArguments_eq_ok_iff.mpr ⟨as, rfl, hclosed⟩)

/-- The checker stops at a call for what is wrong with it, or because of its number of
arguments. -/
theorem checkCall_eq_error_cases {error : CheckError}
    (h : checkCall d name offset ls = .error error) :
    (∃ v, error = .violation v ∧ d.CallFault name offset (lexemes ls) v) ∨
      error = .overflow ∧ d.CallOverflow name (lexemes ls) := by
  by_cases hname : name ∈ d.functions
  · by_cases hopen : (lexemes ls).head? = some .openParen
    · obtain ⟨tail, htail⟩ := List.head?_eq_some_iff.mp hopen
      obtain ⟨_, inner, rfl, -⟩ := lexemes_eq_cons htail
      rw [checkCall_cons_openParen hname] at h
      cases hread : readArguments .argument 0 inner with
      | error fault =>
        rw [hread] at h
        cases h
        exact .inl ⟨_, rfl, callFault_of_readArguments hname hread⟩
      | ok result =>
        obtain ⟨count, rest⟩ := result
        obtain ⟨closed, rfl, hclosed⟩ := readArguments_eq_ok_iff.mp hread
        simp only [hread] at h
        split at h <;> cases h
        rename_i hcount
        rw [lexemes_cons, lexemes_append]
        cases error with
        | violation v =>
          obtain ⟨most, hmost, htakes, rfl⟩ := countError?_eq_violation_iff.mp hcount
          exact .inl ⟨_, rfl, .arityMismatch hname hclosed hmost htakes⟩
        | overflow =>
          have hmost := countError?_eq_overflow_iff.mp hcount
          exact .inr ⟨rfl, hname, hmost, count, _, _, hclosed, rfl⟩
    · cases (checkCall_of_head?_ne hname hopen).symm.trans h
      exact .inl ⟨_, rfl, .missingOpenParen hname hopen⟩
  · cases (checkCall_of_notMem hname).symm.trans h
    exact .inl ⟨_, rfl, .unknownFunction hname⟩

/-- Whatever is wrong with a call is reported by the checker. -/
theorem CallFault.checkCall_eq (h : d.CallFault name offset (lexemes ls) v) :
    checkCall d name offset ls = .error (.violation v) := by
  generalize hxs : lexemes ls = xs at h
  cases h with
  | unknownFunction hname => exact checkCall_of_notMem hname
  | missingOpenParen hname hopen => exact checkCall_of_head?_ne hname (hxs ▸ hopen)
  | empty hname =>
    obtain ⟨_, inner, rfl, hinner⟩ := lexemes_eq_cons hxs
    have hread : readArguments .argument 0 inner = .error .empty :=
      readArguments_eq_empty_iff.mpr (by rw [hinner]; rfl)
    rw [checkCall_cons_openParen hname, hread]
    rfl
  | unclosed hname hunclosed =>
    obtain ⟨_, inner, rfl, rfl⟩ := lexemes_eq_cons hxs
    rw [checkCall_cons_openParen hname, readArguments_eq_unclosed_iff.mpr hunclosed]
    rfl
  | arityMismatch hname hclosed hmost htakes =>
    obtain ⟨_, inner, rfl, hinner⟩ := lexemes_eq_cons hxs
    obtain ⟨as, rest, rfl, rfl, -⟩ := lexemes_eq_append hinner
    have hcount := countError?_eq_violation_iff.mpr ⟨_, hmost, htakes, rfl⟩
    rw [checkCall_cons_openParen hname, readArguments_eq_ok_iff.mpr ⟨as, rfl, hclosed⟩]
    simp only [hcount]
  | malformed hname hclose hunclosed hclosed =>
    obtain ⟨_, inner, rfl, rfl⟩ := lexemes_eq_cons hxs
    have hread : readArguments .argument 0 inner = .error .malformed := by
      match hinner : readArguments .argument 0 inner with
      | .ok (count, rest) =>
        obtain ⟨closed, rfl, h⟩ := readArguments_eq_ok_iff.mp hinner
        exact absurd (by rw [lexemes_append]; exact List.prefix_append ..) (hclosed count _ h)
      | .error .empty => exact absurd (readArguments_eq_empty_iff.mp hinner) hclose
      | .error .unclosed => exact absurd (readArguments_eq_unclosed_iff.mp hinner) hunclosed
      | .error .malformed => rfl
    rw [checkCall_cons_openParen hname, hread]
    rfl

/-- The check of a call with complete arguments breaks off without an upper bound. -/
theorem CallOverflow.checkCall_eq (h : d.CallOverflow name (lexemes ls)) :
    checkCall d name offset ls = .error .overflow := by
  obtain ⟨hname, hmost, count, closed, rest, hclosed, hls⟩ := h
  obtain ⟨_, inner, rfl, hinner⟩ := lexemes_eq_cons hls
  obtain ⟨as, bs, rfl, rfl, -⟩ := lexemes_eq_append hinner
  have hcount : countError? d name count = some .overflow := countError?_eq_overflow_iff.mpr hmost
  rw [checkCall_cons_openParen hname, readArguments_eq_ok_iff.mpr ⟨as, rfl, hclosed⟩]
  simp only [hcount]

/-- The checker reports exactly what is wrong with a call. -/
theorem checkCall_eq_violation_iff : checkCall d name offset ls = .error (.violation v) ↔
    d.CallFault name offset (lexemes ls) v := by
  refine ⟨fun h => ?_, CallFault.checkCall_eq⟩
  rcases checkCall_eq_error_cases h with ⟨w, hw, hfault⟩ | ⟨hoverflow, -⟩
  · cases hw
    exact hfault
  · cases hoverflow

/-- The check breaks off exactly at complete arguments whose number has no upper bound. -/
theorem checkCall_eq_overflow_iff : checkCall d name offset ls = .error .overflow ↔
    d.CallOverflow name (lexemes ls) := by
  refine ⟨fun h => ?_, CallOverflow.checkCall_eq⟩
  rcases checkCall_eq_error_cases h with ⟨w, hw, -⟩ | ⟨-, hoverflow⟩
  · cases hw
  · exact hoverflow

/-- The index just past the call whose name stands at an index, or why the checker stops. -/
def callEnd (d : Dialect) (ls : List Located) (start : Nat) (name : String) :
    Except CheckError Nat :=
  (checkCall d name ((ls[start]?).elim 0 Located.offset) (ls.drop (start + 1))).map
    fun rest => ls.length - rest.length

/-- An argument list has its two parens and something between them. -/
theorem IsArgumentList.three_le_length {xs : List Lexeme} (h : d.IsArgumentList name xs) :
    3 ≤ xs.length := by
  obtain ⟨count, args, -, hargs, rfl⟩ := h
  have hpos : 0 < args.length := by
    cases hargs with
    | one ha => cases ha <;> simp
    | more =>
      rw [List.length_append, List.length_cons]
      omega
  simp only [List.length_cons, List.length_append, List.length_nil]
  omega

/-- A call ends at an index exactly if the lexemes up to there are its argument list. -/
theorem callEnd_eq_ok_iff {start j : Nat} :
    d.callEnd ls start name = .ok j ↔
      name ∈ d.functions ∧ j ≤ ls.length ∧
        d.IsArgumentList name (lexemes (ls.extract (start + 1) j)) := by
  rw [List.extract_eq_take_drop]
  constructor
  · intro h
    unfold callEnd at h
    cases hcall : checkCall d name ((ls[start]?).elim 0 Located.offset) (ls.drop (start + 1)) with
    | error _ =>
      rw [hcall] at h
      cases h
    | ok rest =>
      rw [hcall] at h
      cases h
      obtain ⟨hname, as, hsplit, hlist⟩ := checkCall_eq_ok_iff.mp hcall
      have hthree := hlist.three_le_length
      have hlength := congrArg List.length hsplit
      rw [lexemes, List.length_map] at hthree
      rw [List.length_drop, List.length_append] at hlength
      have hcount : ls.length - rest.length - (start + 1) = as.length := by omega
      refine ⟨hname, Nat.sub_le .., ?_⟩
      rwa [hcount, hsplit, List.take_left]
  · rintro ⟨hname, hj, hlist⟩
    have hthree := hlist.three_le_length
    rw [lexemes, List.length_map, List.length_take, List.length_drop] at hthree
    have hsplit := (List.take_append_drop (j - (start + 1)) (ls.drop (start + 1))).symm
    unfold callEnd
    rw [checkCall_eq_ok_iff.mpr ⟨hname, _, hsplit, hlist⟩, Except.map]
    congr 1
    rw [List.length_drop, List.length_drop]
    omega

/-- The checker stops at a name exactly as it stops in the check of the call. -/
theorem callEnd_eq_error_iff {start : Nat} {error : CheckError}
    (hstart : ls[start]? = some ⟨offset, .ident name⟩) :
    d.callEnd ls start name = .error error ↔
      checkCall d name offset (ls.drop (start + 1)) = .error error := by
  rw [callEnd, hstart, Option.elim_some]
  cases checkCall d name offset (ls.drop (start + 1)) with
  | error other => simp [Except.map]
  | ok rest => simp [Except.map]

/-- **A call is read to its end or refused for what is wrong with it.** For a name at an index, the
checker yields an index exactly if the lexemes from the name up to there are a call of the dialect.
At least three lexemes stand between the two, and the index is no greater than the number of
lexemes. Otherwise it yields a violation, and exactly the one that says what is wrong, unless there
is no upper bound for the number of arguments of a complete call. -/
theorem callEnd_delimits_or_reports {start : Nat}
    (hstart : ls[start]? = some ⟨offset, .ident name⟩) :
    (∀ j, d.callEnd ls start name = .ok j ↔
      name ∈ d.functions ∧ j ≤ ls.length ∧
        ∃ count args most, d.maxArguments name = some most ∧ d.minArguments name ≤ count ∧
          count ≤ most ∧ IsArguments count args ∧
          lexemes (ls.extract (start + 1) j) = .openParen :: (args ++ [.closeParen])) ∧
    (∀ j, d.callEnd ls start name = .ok j → start + 4 ≤ j ∧ j ≤ ls.length) ∧
    (∀ violation, d.callEnd ls start name = .error (.violation violation) ↔
      d.CallFault name offset (lexemes (ls.drop (start + 1))) violation) ∧
    (d.callEnd ls start name = .error .overflow ↔
      d.CallOverflow name (lexemes (ls.drop (start + 1)))) := by
  refine ⟨fun j => ?_, fun j h => ?_, fun violation => ?_, ?_⟩
  · rw [callEnd_eq_ok_iff]
    refine and_congr_right fun _ => and_congr_right fun _ => exists_congr fun count => ?_
    refine exists_congr fun args => ?_
    simp only [TakesArguments]
    constructor
    · rintro ⟨⟨hmin, most, hmost, hmax⟩, hargs, hsplit⟩
      exact ⟨most, hmost, hmin, hmax, hargs, hsplit⟩
    · rintro ⟨most, hmost, hmin, hmax, hargs, hsplit⟩
      exact ⟨⟨hmin, most, hmost, hmax⟩, hargs, hsplit⟩
  · obtain ⟨-, hj, hlist⟩ := callEnd_eq_ok_iff.mp h
    have hthree := hlist.three_le_length
    rw [lexemes, List.length_map, List.extract_eq_take_drop, List.length_take] at hthree
    exact ⟨by omega, hj⟩
  · rw [callEnd_eq_error_iff hstart, checkCall_eq_violation_iff]
  · rw [callEnd_eq_error_iff hstart, checkCall_eq_overflow_iff]

/-- A call with a negative argument, which is unclosed when the text ends after the minus sign. -/
theorem callEnd_delimits_or_reports_negative_argument :
    let d : Dialect := {}
    let ls : List Located :=
      [⟨0, .number 1⟩, ⟨1, .operator '+'⟩, ⟨2, .ident "max"⟩, ⟨5, .openParen⟩, ⟨6, .number 1⟩,
        ⟨7, .comma⟩, ⟨8, .operator '-'⟩, ⟨9, .number 2⟩, ⟨10, .closeParen⟩, ⟨11, .operator '*'⟩,
        ⟨12, .number 3⟩]
    ls[2]? = some ⟨2, .ident "max"⟩ ∧ (ls.take 7)[2]? = some ⟨2, .ident "max"⟩ ∧
      d.callEnd ls 2 "max" = .ok 9 ∧
      d.callEnd (ls.take 7) 2 "max" = .error (.violation (.unclosedCall "max" 2)) := by
  intro d ls
  have hname : "max" ∈ d.functions := by decide
  have hargs : IsArguments 2 [.number 1, .comma, .operator '-', .number 2] :=
    .more (.plain 1) (.one (.negative 2))
  refine ⟨rfl, rfl, ?_, ?_⟩
  · apply ((callEnd_delimits_or_reports rfl).1 9).mpr
    exact ⟨hname, by decide, 2, _, 15, by decide, by decide, by decide, hargs, rfl⟩
  · apply ((callEnd_delimits_or_reports rfl).2.2.1 _).mpr
    exact .unclosed hname ⟨2, _, ⟨_, hargs, rfl⟩, by decide, by decide⟩

end Dialect

end Crosscheck
