import Crosscheck.Grammar.Call

/-!
# The grammar of calls

The checker reads an argument list lexeme by lexeme. This file gives the grammar of
argument lists and proves that reading accepts exactly the lists of the grammar, with
the right count; a call is then a name, an argument list between parens, and a count
within the bounds of the dialect.
-/

namespace Crosscheck

/-- The lexemes of a list with offsets. -/
def lexemes (ls : List Located) : List Lexeme := ls.map Located.lexeme

@[simp] theorem lexemes_nil : lexemes [] = [] := rfl

@[simp] theorem lexemes_cons (l : Located) (ls : List Located) :
    lexemes (l :: ls) = l.lexeme :: lexemes ls := rfl

@[simp] theorem lexemes_append (ls ks : List Located) :
    lexemes (ls ++ ks) = lexemes ls ++ lexemes ks := List.map_append

/-- Lexemes that begin with a given one belong to a list that begins with it. -/
theorem lexemes_eq_cons {ls : List Located} {x : Lexeme} {xs : List Lexeme}
    (h : lexemes ls = x :: xs) : ∃ offset rest, ls = ⟨offset, x⟩ :: rest ∧ lexemes rest = xs := by
  obtain ⟨l, rest, rfl, rfl, rfl⟩ := List.map_eq_cons_iff.mp h
  exact ⟨l.offset, rest, rfl, rfl⟩

/-- Lexemes in two parts belong to a list in two parts. -/
theorem lexemes_eq_append {ls : List Located} {xs ys : List Lexeme}
    (h : lexemes ls = xs ++ ys) : ∃ as bs, ls = as ++ bs ∧ lexemes as = xs ∧ lexemes bs = ys :=
  List.map_eq_append_iff.mp h

/-- An argument of a call: a number, with or without a minus sign in front. -/
inductive IsArgument : List Lexeme → Prop
  | plain (n : Nat) : IsArgument [.number n]
  | negative (n : Nat) : IsArgument [.operator '-', .number n]

/-- One or more arguments with commas between them, with their number. -/
inductive IsArguments : Nat → List Lexeme → Prop
  | one {a : List Lexeme} : IsArgument a → IsArguments 1 a
  | more {count : Nat} {a rest : List Lexeme} :
      IsArgument a → IsArguments count rest → IsArguments (count + 1) (a ++ .comma :: rest)

/-- Reading an argument takes its lexemes and counts it. -/
theorem readArguments_append_argument {a : List Located} (ha : IsArgument (lexemes a))
    (count : Nat) (ls : List Located) :
    readArguments .argument count (a ++ ls) = readArguments .separator (count + 1) ls := by
  generalize hx : lexemes a = x at ha
  cases ha with
  | plain n =>
    obtain ⟨_, rest, rfl, hrest⟩ := lexemes_eq_cons hx
    obtain rfl := List.map_eq_nil_iff.mp hrest
    simp [readArguments]
  | negative n =>
    obtain ⟨_, rest, rfl, hrest⟩ := lexemes_eq_cons hx
    obtain ⟨_, rest', rfl, hrest'⟩ := lexemes_eq_cons hrest
    obtain rfl := List.map_eq_nil_iff.mp hrest'
    simp [readArguments]

/-- After a minus sign, successful reading begins with a number. -/
theorem exists_number_of_readArguments {count n : Nat} {ls rest : List Located}
    (h : readArguments .literal count ls = .ok (n, rest)) :
    ∃ offset k after, ls = ⟨offset, .number k⟩ :: after ∧
      readArguments .separator (count + 1) after = .ok (n, rest) := by
  match ls with
  | [] => simp [readArguments] at h
  | ⟨offset, lexeme⟩ :: after =>
    cases lexeme with
    | number k => exact ⟨offset, k, after, rfl, by simpa only [readArguments] using h⟩
    | _ => simp [readArguments] at h

/-- Where an argument is due, successful reading begins with one. -/
theorem exists_argument_of_readArguments {count n : Nat} {ls rest : List Located}
    (h : readArguments .argument count ls = .ok (n, rest)) :
    ∃ a after, ls = a ++ after ∧ IsArgument (lexemes a) ∧
      readArguments .separator (count + 1) after = .ok (n, rest) := by
  match ls with
  | [] => simp [readArguments] at h
  | ⟨offset, lexeme⟩ :: after =>
    cases lexeme with
    | number k =>
      exact ⟨[⟨offset, .number k⟩], after, rfl, .plain k, by simpa only [readArguments] using h⟩
    | operator c =>
      by_cases hc : c = '-'
      · subst hc
        obtain ⟨offset', k, after', rfl, h'⟩ :=
          exists_number_of_readArguments (by simpa only [readArguments] using h)
        exact ⟨[⟨offset, .operator '-'⟩, ⟨offset', .number k⟩], after', rfl, .negative k, h'⟩
      · simp [readArguments, hc] at h
    | _ => simp [readArguments] at h

/-- After an argument, successful reading ends with a close paren or goes on after a comma. -/
theorem closeParen_or_comma_of_readArguments {count n : Nat} {ls rest : List Located}
    (h : readArguments .separator count ls = .ok (n, rest)) :
    (∃ offset, ls = ⟨offset, .closeParen⟩ :: rest ∧ n = count) ∨
      ∃ offset after, ls = ⟨offset, .comma⟩ :: after ∧
        readArguments .argument count after = .ok (n, rest) := by
  match ls with
  | [] => simp [readArguments] at h
  | ⟨offset, lexeme⟩ :: after =>
    cases lexeme with
    | closeParen =>
      left
      simp only [readArguments, Except.ok.injEq, Prod.mk.injEq] at h
      obtain ⟨rfl, rfl⟩ := h
      exact ⟨offset, rfl, rfl⟩
    | comma =>
      right
      exact ⟨offset, after, rfl, by simpa only [readArguments] using h⟩
    | _ => simp [readArguments] at h

/-- The arguments of the grammar are read up to the close paren, and all are counted. -/
theorem readArguments_of_isArguments {k : Nat} {xs : List Lexeme} (hxs : IsArguments k xs)
    {as : List Located} (has : lexemes as = xs) (count offset : Nat) (rest : List Located) :
    readArguments .argument count (as ++ ⟨offset, .closeParen⟩ :: rest) =
      .ok (count + k, rest) := by
  induction hxs generalizing as count with
  | one ha =>
    rw [readArguments_append_argument (has ▸ ha)]
    simp [readArguments]
  | @more k a xs ha _ ih =>
    obtain ⟨as, tail, rfl, rfl, htail⟩ := lexemes_eq_append has
    obtain ⟨_, bs, rfl, hbs⟩ := lexemes_eq_cons htail
    rw [List.append_assoc, readArguments_append_argument ha, List.cons_append, readArguments,
      ih hbs]
    congr 2
    omega

/-- Reading accepts nothing but arguments of the grammar and a close paren. -/
theorem isArguments_of_readArguments {count n : Nat} {ls rest : List Located}
    (h : readArguments .argument count ls = .ok (n, rest)) :
    ∃ k as offset, ls = as ++ ⟨offset, .closeParen⟩ :: rest ∧ IsArguments k (lexemes as) ∧
      n = count + k := by
  obtain ⟨a, after, rfl, ha, hafter⟩ := exists_argument_of_readArguments h
  rcases closeParen_or_comma_of_readArguments hafter with
    ⟨offset, rfl, rfl⟩ | ⟨offset, more, rfl, hmore⟩
  · exact ⟨1, a, offset, rfl, .one ha, rfl⟩
  · obtain ⟨k, as, close, rfl, has, rfl⟩ := isArguments_of_readArguments hmore
    refine ⟨k + 1, a ++ ⟨offset, .comma⟩ :: as, close, by simp, ?_, by omega⟩
    simpa using IsArguments.more ha has
termination_by ls.length
decreasing_by
  subst_vars
  simp only [List.length_append, List.length_cons]
  omega

/-- The number of arguments that a call to `name` may have. Without an upper bound there is
no such number. -/
def Dialect.TakesArguments (d : Dialect) (name : String) (count : Nat) : Prop :=
  d.minArguments name ≤ count ∧ ∃ most, d.maxArguments name = some most ∧ count ≤ most

/-- With an upper bound, the numbers of arguments are those between the two bounds. -/
theorem Dialect.takesArguments_iff {d : Dialect} {name : String} {most : Nat}
    (h : d.maxArguments name = some most) (count : Nat) :
    d.TakesArguments name count ↔ d.minArguments name ≤ count ∧ count ≤ most := by
  simp [TakesArguments, h]

/-- Nothing is wrong exactly with the numbers of arguments that a call may have. -/
theorem countError?_eq_none_iff {d : Dialect} {name : String} {count : Nat} :
    countError? d name count = none ↔ d.TakesArguments name count := by
  unfold countError?
  cases hmost : d.maxArguments name with
  | none => simp [Dialect.TakesArguments, hmost]
  | some most => simp [Dialect.takesArguments_iff hmost]

/-- The violation is an arity that lies outside the bounds. -/
theorem countError?_eq_violation_iff {d : Dialect} {name : String} {count : Nat} {v : Violation} :
    countError? d name count = some (.violation v) ↔
      ∃ most, d.maxArguments name = some most ∧ ¬d.TakesArguments name count ∧
        v = .arityMismatch name count (d.minArguments name) most := by
  unfold countError?
  cases hmost : d.maxArguments name with
  | none => simp
  | some most => simp [Dialect.takesArguments_iff hmost, eq_comm]

/-- The check of the number breaks off exactly without an upper bound. -/
theorem countError?_eq_overflow_iff {d : Dialect} {name : String} {count : Nat} :
    countError? d name count = some .overflow ↔ d.maxArguments name = none := by
  unfold countError?
  cases d.maxArguments name <;> simp

/-- What may follow the name of a function in a call: arguments between parens. -/
def Dialect.IsArgumentList (d : Dialect) (name : String) (xs : List Lexeme) : Prop :=
  ∃ count args, d.TakesArguments name count ∧ IsArguments count args ∧
    xs = .openParen :: (args ++ [.closeParen])

/-- The functions of a dialect are those that it lists. -/
theorem Dialect.isFunction_iff {d : Dialect} {name : String} :
    d.isFunction name = true ↔ name ∈ d.functions := by
  simp [isFunction]

/-- The check of a call to a function after its open paren. -/
theorem checkCall_cons_openParen {d : Dialect} {name : String} (hname : name ∈ d.functions)
    (offset first : Nat) (inner : List Located) :
    checkCall d name offset (⟨first, .openParen⟩ :: inner) =
      match readArguments .argument 0 inner with
      | .error fault => .error (.violation (fault.violation name offset))
      | .ok (count, rest) =>
        match countError? d name count with
        | some error => .error error
        | none => .ok rest := by
  unfold checkCall
  rw [Dialect.isFunction_iff.mpr hname]
  rfl

/-- The checker accepts exactly the calls of the grammar, and reads no further. -/
theorem checkCall_eq_ok_iff {d : Dialect} {name : String} {offset : Nat}
    {ls rest : List Located} :
    checkCall d name offset ls = .ok rest ↔
      name ∈ d.functions ∧
        ∃ as, ls = as ++ rest ∧ d.IsArgumentList name (lexemes as) := by
  constructor
  · intro h
    unfold checkCall at h
    split at h
    · cases h
    · rename_i hname
      split at h
      · rename_i offset' inner
        cases hread : readArguments .argument 0 inner with
        | error fault => simp [hread] at h
        | ok result =>
          obtain ⟨n, after⟩ := result
          simp only [hread] at h
          split at h
          · cases h
          · rename_i hcount
            cases h
            obtain ⟨k, as, close, rfl, has, rfl⟩ := isArguments_of_readArguments hread
            rw [Nat.zero_add] at hcount
            refine ⟨by simpa [Dialect.isFunction_iff] using hname,
              ⟨offset', .openParen⟩ :: as ++ [⟨close, .closeParen⟩], by simp, ?_⟩
            exact ⟨k, lexemes as, countError?_eq_none_iff.mp hcount, has, by simp⟩
      · cases h
  · rintro ⟨hname, as, rfl, count, args, hcount, hargs, has⟩
    obtain ⟨_, tail, rfl, htail⟩ := lexemes_eq_cons has
    obtain ⟨inner, last, rfl, hinner, hlast⟩ := lexemes_eq_append htail
    obtain ⟨close, last, rfl, hnil⟩ := lexemes_eq_cons hlast
    obtain rfl := List.map_eq_nil_iff.mp hnil
    have hread := readArguments_of_isArguments hargs hinner 0 close rest
    rw [Nat.zero_add] at hread
    rw [List.cons_append, List.append_assoc, checkCall_cons_openParen hname, List.singleton_append,
      hread]
    simp [countError?_eq_none_iff.mpr hcount]

end Crosscheck
