import Crosscheck.Expression.Token
import Crosscheck.Proofs.Grammar.Spelling

/-!
# The lexemes of tokens

A token is written as one lexeme, except for a call, which is written as a name and an
argument list between parens, with a minus sign of its own for each negative argument.
Proper tokens are written as the scanner expects them, and a list of proper tokens can be
told from its lexemes.
-/

namespace Crosscheck

open Text

namespace Token

/-- The lexemes of a literal with its sign. -/
def literalLexemes (n : Int64) : List Lexeme :=
  if n < 0 then [.operator '-', .number n.toInt.natAbs] else [.number n.toInt.natAbs]

/-- The lexemes of arguments, with commas between them. -/
def argumentLexemes : List Int64 → List Lexeme
  | [] => []
  | [n] => literalLexemes n
  | n :: rest => literalLexemes n ++ .comma :: argumentLexemes rest

/-- The lexemes of a token. -/
def lexemes : Token → List Lexeme
  | .operand n => [.number n.toInt.toNat]
  | .operator c => [.operator c]
  | .openParen => [.openParen]
  | .closeParen => [.closeParen]
  | .call name arguments => .ident name :: .openParen :: (argumentLexemes arguments ++ [.closeParen])

/-- Whether a token reads back as itself: operands have no sign, operators and names are such
to the scanner, and the arguments of calls have a literal for their absolute value. -/
def IsProper : Token → Prop
  | .operand n => 0 ≤ n
  | .operator c => isOperatorSymbol c = true
  | .call name arguments => isName name = true ∧ ∀ n ∈ arguments, n ≠ Int64.minValue
  | _ => True

/-- The absolute value of every 64-bit integer but the least one is a literal. -/
theorem natAbs_le_maxLiteral {n : Int64} (hn : n ≠ Int64.minValue) :
    n.toInt.natAbs ≤ maxLiteral := by
  have hlow := n.le_toInt
  have hhigh := n.toInt_lt
  have hne : n.toInt ≠ -2 ^ 63 := fun h => hn (Int64.toInt_inj.mp h)
  unfold maxLiteral
  omega

/-- A literal that is not negative has no sign. -/
theorem signedDecimal_eq_decimal {n : Int64} (hn : 0 ≤ n) :
    signedDecimal n = decimal n.toInt.toNat := by
  have hsign : ¬n < 0 := by
    rw [Int64.not_lt]
    exact hn
  have hvalue : 0 ≤ n.toInt := Int64.le_iff_toInt_le.mp hn
  have hnat : n.toInt.natAbs = n.toInt.toNat := by omega
  rw [signedDecimal, if_neg hsign, hnat]

/-- A literal is written as its lexemes. -/
theorem flatMap_chars_literalLexemes (n : Int64) :
    (literalLexemes n).flatMap Lexeme.chars = signedDecimal n := by
  unfold literalLexemes signedDecimal
  split <;> simp [Lexeme.chars]

/-- Arguments are written as their lexemes. -/
theorem flatMap_chars_argumentLexemes (arguments : List Int64) :
    (argumentLexemes arguments).flatMap Lexeme.chars = argumentChars arguments := by
  fun_induction argumentChars arguments <;>
    simp_all [argumentLexemes, flatMap_chars_literalLexemes, Lexeme.chars]

/-- A proper token is written as its lexemes. -/
theorem flatMap_chars_lexemes {t : Token} (ht : t.IsProper) :
    t.lexemes.flatMap Lexeme.chars = t.chars := by
  cases t with
  | operand n => simp [lexemes, Token.chars, Lexeme.chars, signedDecimal_eq_decimal ht]
  | call name arguments =>
    simp [lexemes, Token.chars, Lexeme.chars, flatMap_chars_argumentLexemes]
  | _ => rfl

/-- The scanner knows the lexemes of a literal. -/
theorem isWritable_of_mem_literalLexemes {n : Int64} (hn : n ≠ Int64.minValue) {x : Lexeme}
    (hx : x ∈ literalLexemes n) : x.IsWritable := by
  have hminus : isOperatorSymbol '-' = true := by decide
  have hnumber : Lexeme.IsWritable (.number n.toInt.natAbs) := natAbs_le_maxLiteral hn
  unfold literalLexemes at hx
  split at hx
  · simp only [List.mem_cons, List.not_mem_nil, or_false] at hx
    rcases hx with rfl | rfl
    · exact hminus
    · exact hnumber
  · rw [List.mem_singleton] at hx
    exact hx ▸ hnumber

/-- The scanner knows the lexemes of arguments. -/
theorem isWritable_of_mem_argumentLexemes {arguments : List Int64}
    (harguments : ∀ n ∈ arguments, n ≠ Int64.minValue) {x : Lexeme}
    (hx : x ∈ argumentLexemes arguments) : x.IsWritable := by
  fun_induction argumentLexemes arguments with
  | case1 => simp at hx
  | case2 n => exact isWritable_of_mem_literalLexemes (harguments n (by simp)) hx
  | case3 n rest _ ih =>
    rw [List.mem_append, List.mem_cons] at hx
    rcases hx with hx | rfl | hx
    · exact isWritable_of_mem_literalLexemes (harguments n (by simp)) hx
    · trivial
    · exact ih (fun m hm => harguments m (by simp [hm])) hx

/-- The scanner knows the lexemes of a proper token. -/
theorem IsProper.isWritable {t : Token} (ht : t.IsProper) {x : Lexeme} (hx : x ∈ t.lexemes) :
    x.IsWritable := by
  cases t with
  | operand n =>
    have hvalue : 0 ≤ n.toInt := Int64.le_iff_toInt_le.mp ht
    have hhigh := n.toInt_lt
    rw [lexemes, List.mem_singleton] at hx
    subst hx
    simp only [Lexeme.IsWritable, maxLiteral]
    omega
  | operator c =>
    rw [lexemes, List.mem_singleton] at hx
    exact hx ▸ ht
  | openParen =>
    rw [lexemes, List.mem_singleton] at hx
    exact hx ▸ trivial
  | closeParen =>
    rw [lexemes, List.mem_singleton] at hx
    exact hx ▸ trivial
  | call name arguments =>
    simp only [lexemes, List.mem_cons, List.mem_append, List.not_mem_nil, or_false] at hx
    rcases hx with rfl | rfl | hx | rfl
    · exact ht.1
    · trivial
    · exact isWritable_of_mem_argumentLexemes ht.2 hx
    · trivial

/-- The lexemes of a literal are apart from one another, and from what is not a word. -/
theorem isChain_literalLexemes_append (n : Int64) {xs : List Lexeme}
    (hhead : ∀ x ∈ xs.head?, x.isWord = false) (hxs : xs.IsChain Lexeme.Apart) :
    (literalLexemes n ++ xs).IsChain Lexeme.Apart := by
  have hnumber := Lexeme.isChain_cons_of_head?_isWord_eq_false (.number n.toInt.natAbs) hhead hxs
  unfold literalLexemes
  split
  · exact Lexeme.isChain_cons_of_isWord_eq_false rfl hnumber
  · exact hnumber

/-- The lexemes of arguments are apart from one another, and from what is not a word. -/
theorem isChain_argumentLexemes_append (arguments : List Int64) {xs : List Lexeme}
    (hhead : ∀ x ∈ xs.head?, x.isWord = false) (hxs : xs.IsChain Lexeme.Apart) :
    (argumentLexemes arguments ++ xs).IsChain Lexeme.Apart := by
  fun_induction argumentLexemes arguments with
  | case1 => exact hxs
  | case2 n => exact isChain_literalLexemes_append n hhead hxs
  | case3 n rest _ ih =>
    rw [List.append_assoc, List.cons_append]
    apply isChain_literalLexemes_append
    · simp [Lexeme.isWord]
    · exact Lexeme.isChain_cons_of_isWord_eq_false rfl ih

/-- Whether a token ends with a number, which another word would prolong. -/
def endsWithWord : Token → Bool
  | .operand _ => true
  | _ => false

/-- Whether a token begins with a number or a name. -/
def beginsWithWord : Token → Bool
  | .operand _ | .call .. => true
  | _ => false

/-- Two neighbouring tokens are apart when no word of one meets a word of the other. -/
def Apart (t u : Token) : Prop := t.endsWithWord = true → u.beginsWithWord = false

/-- The first lexeme of a token is a word exactly if the token begins with one. -/
theorem exists_lexemes_eq_cons (t : Token) :
    ∃ x xs, t.lexemes = x :: xs ∧ x.isWord = t.beginsWithWord := by
  cases t <;> exact ⟨_, _, rfl, rfl⟩

/-- The lexemes of a token are apart from one another, and from what may follow it. -/
theorem isChain_lexemes_append (t : Token) {xs : List Lexeme}
    (hhead : t.endsWithWord = true → ∀ x ∈ xs.head?, x.isWord = false)
    (hxs : xs.IsChain Lexeme.Apart) : (t.lexemes ++ xs).IsChain Lexeme.Apart := by
  cases t with
  | operand n => exact Lexeme.isChain_cons_of_head?_isWord_eq_false _ (hhead rfl) hxs
  | call name arguments =>
    have hclose : (Lexeme.closeParen :: xs).IsChain Lexeme.Apart :=
      Lexeme.isChain_cons_of_isWord_eq_false rfl hxs
    have hinner := isChain_argumentLexemes_append arguments (by simp [Lexeme.isWord]) hclose
    have hopen := Lexeme.isChain_cons_of_isWord_eq_false (x := .openParen) rfl hinner
    rw [lexemes, List.cons_append, List.cons_append, List.append_assoc, List.singleton_append]
    exact Lexeme.isChain_cons_of_head?_isWord_eq_false _ (by simp [Lexeme.isWord]) hopen
  | _ => exact Lexeme.isChain_cons_of_isWord_eq_false rfl hxs

/-- The lexemes of tokens that are apart are apart. -/
theorem isChain_flatMap_lexemes {ts : List Token} (hts : ts.IsChain Apart) :
    (ts.flatMap lexemes).IsChain Lexeme.Apart := by
  induction ts with
  | nil => exact .nil
  | cons t ts ih =>
    rw [List.flatMap_cons]
    refine isChain_lexemes_append t ?_ (ih hts.tail)
    intro hword x hx
    cases ts with
    | nil => simp at hx
    | cons u us =>
      obtain ⟨y, ys, hu, hy⟩ := exists_lexemes_eq_cons u
      rw [List.flatMap_cons, hu] at hx
      cases hx
      rw [hy]
      exact (List.isChain_cons_cons.mp hts).1 hword

/-- **Tokens scan back.** Proper tokens that are apart are written without a gap, and scanned
as their lexemes, each at the offset where its characters begin. -/
theorem ofText_text {ts : List Token} (hproper : ∀ t ∈ ts, t.IsProper)
    (hapart : ts.IsChain Apart) :
    (text ts).toList = (ts.flatMap lexemes).flatMap Lexeme.chars ∧
      Lexeme.ofText (text ts) = .ok (Lexeme.locate 0 (ts.flatMap lexemes)) := by
  have hchars : (text ts).toList = (ts.flatMap lexemes).flatMap Lexeme.chars := by
    rw [text, String.toList_ofList, List.flatMap_assoc]
    exact List.flatMap_congr fun t ht => (flatMap_chars_lexemes (hproper t ht)).symm
  have hwritable : ∀ x ∈ ts.flatMap lexemes, x.IsWritable := by
    intro x hx
    obtain ⟨t, ht, hxt⟩ := List.mem_flatMap.mp hx
    exact (hproper t ht).isWritable hxt
  refine ⟨hchars, ?_⟩
  rw [Lexeme.ofText, hchars]
  exact Lexeme.scan_flatMap_chars hwritable (isChain_flatMap_lexemes hapart) 0

/-- A literal can be told from its lexemes, whatever comes after them. -/
theorem literalLexemes_append_inj {m n : Int64} {xs ys : List Lexeme}
    (h : literalLexemes m ++ xs = literalLexemes n ++ ys) : m = n ∧ xs = ys := by
  have hvalue (hsign : m < 0 ↔ n < 0) (habs : m.toInt.natAbs = n.toInt.natAbs) : m = n := by
    simp only [Int64.lt_iff_toInt_lt, Int64.toInt_zero] at hsign
    apply Int64.toInt_inj.mp
    omega
  unfold literalLexemes at h
  split at h <;> split at h <;> simp only [List.cons_append, List.nil_append, List.cons.injEq,
    Lexeme.number.injEq, reduceCtorEq, true_and, false_and] at h
  · exact ⟨hvalue (by simp [*]) h.1, h.2⟩
  · exact ⟨hvalue (by simp [*]) h.1, h.2⟩

/-- A literal does not begin like the end of an argument list. -/
theorem literalLexemes_append_ne (n : Int64) (xs ys : List Lexeme) :
    literalLexemes n ++ xs ≠ .closeParen :: ys := by
  unfold literalLexemes
  split <;> simp

/-- The lexemes of further arguments, each with a comma in front. -/
def moreArguments : List Int64 → List Lexeme
  | [] => []
  | n :: rest => .comma :: (literalLexemes n ++ moreArguments rest)

/-- Arguments are the first one and further ones. -/
theorem argumentLexemes_cons (n : Int64) (rest : List Int64) :
    argumentLexemes (n :: rest) = literalLexemes n ++ moreArguments rest := by
  induction rest generalizing n with
  | nil => simp [argumentLexemes, moreArguments]
  | cons m rest ih =>
    rw [argumentLexemes, ih, moreArguments]
    simp

/-- Further arguments up to a close paren can be told from their lexemes. -/
theorem moreArguments_append_inj {as bs : List Int64} {xs ys : List Lexeme}
    (h : moreArguments as ++ .closeParen :: xs = moreArguments bs ++ .closeParen :: ys) :
    as = bs ∧ xs = ys := by
  induction as generalizing bs with
  | nil =>
    cases bs with
    | nil => exact ⟨rfl, (List.cons.inj h).2⟩
    | cons b bs => cases h
  | cons a as ih =>
    cases bs with
    | nil => cases h
    | cons b bs =>
      rw [moreArguments, moreArguments, List.cons_append, List.cons_append, List.append_assoc,
        List.append_assoc] at h
      obtain ⟨rfl, hmore⟩ := literalLexemes_append_inj (List.cons.inj h).2
      obtain ⟨rfl, rfl⟩ := ih hmore
      exact ⟨rfl, rfl⟩

/-- Arguments up to a close paren can be told from their lexemes. -/
theorem argumentLexemes_append_inj {as bs : List Int64} {xs ys : List Lexeme}
    (h : argumentLexemes as ++ .closeParen :: xs = argumentLexemes bs ++ .closeParen :: ys) :
    as = bs ∧ xs = ys := by
  cases as with
  | nil =>
    cases bs with
    | nil => exact ⟨rfl, (List.cons.inj h).2⟩
    | cons b bs =>
      rw [argumentLexemes_cons, List.append_assoc] at h
      exact absurd h.symm (literalLexemes_append_ne _ _ _)
  | cons a as =>
    cases bs with
    | nil =>
      rw [argumentLexemes_cons, List.append_assoc] at h
      exact absurd h (literalLexemes_append_ne _ _ _)
    | cons b bs =>
      rw [argumentLexemes_cons, argumentLexemes_cons, List.append_assoc, List.append_assoc] at h
      obtain ⟨rfl, hmore⟩ := literalLexemes_append_inj h
      obtain ⟨rfl, rfl⟩ := moreArguments_append_inj hmore
      exact ⟨rfl, rfl⟩

/-- A proper token can be told from its lexemes, whatever comes after them. -/
theorem lexemes_append_inj {t u : Token} (ht : t.IsProper) (hu : u.IsProper) {xs ys : List Lexeme}
    (h : t.lexemes ++ xs = u.lexemes ++ ys) : t = u ∧ xs = ys := by
  cases t <;> cases u <;> simp only [lexemes, List.cons_append, List.nil_append, List.append_assoc,
    List.cons.injEq, reduceCtorEq, true_and, false_and] at h
  case operand.operand m n =>
    obtain ⟨hnumber, rfl⟩ := h
    have hm : 0 ≤ m.toInt := Int64.le_iff_toInt_le.mp ht
    have hn : 0 ≤ n.toInt := Int64.le_iff_toInt_le.mp hu
    have hvalue := Lexeme.number.inj hnumber
    have heq : m.toInt = n.toInt := by omega
    exact ⟨by rw [Int64.toInt_inj.mp heq], rfl⟩
  case operator.operator c c' =>
    obtain ⟨hc, rfl⟩ := h
    exact ⟨by rw [Lexeme.operator.inj hc], rfl⟩
  case openParen.openParen => exact ⟨rfl, h⟩
  case closeParen.closeParen => exact ⟨rfl, h⟩
  case call.call name as name' bs =>
    obtain ⟨hname, hrest⟩ := h
    obtain ⟨rfl, hxs⟩ := argumentLexemes_append_inj hrest
    exact ⟨by rw [Lexeme.ident.inj hname], hxs⟩

/-- **Nothing is lost.** Proper tokens can be told from their lexemes. -/
theorem eq_of_flatMap_lexemes_eq {ts us : List Token} (hts : ∀ t ∈ ts, t.IsProper)
    (hus : ∀ u ∈ us, u.IsProper) (h : ts.flatMap lexemes = us.flatMap lexemes) : ts = us := by
  induction ts generalizing us with
  | nil =>
    cases us with
    | nil => rfl
    | cons u us =>
      obtain ⟨x, xs, hu, -⟩ := exists_lexemes_eq_cons u
      simp [hu] at h
  | cons t ts ih =>
    cases us with
    | nil =>
      obtain ⟨x, xs, ht, -⟩ := exists_lexemes_eq_cons t
      simp [ht] at h
    | cons u us =>
      rw [List.flatMap_cons, List.flatMap_cons] at h
      obtain ⟨rfl, hrest⟩ := lexemes_append_inj (hts t (by simp)) (hus u (by simp)) h
      rw [ih (fun t ht => hts t (by simp [ht])) (fun u hu => hus u (by simp [hu])) hrest]

end Token

end Crosscheck
