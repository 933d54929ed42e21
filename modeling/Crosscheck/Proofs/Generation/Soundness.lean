import Crosscheck.Proofs.Generation.Draws

/-!
# Generated expressions are accepted

The checker follows the tokens of a balanced draft one by one. What a token needs of the
dialect is what the draws of the dialect provide, so that every transition is possible, and
the printed text of a generated expression passes validation.
-/

namespace Crosscheck

namespace Token

/-- A literal is an argument. -/
theorem isArgument_literalLexemes (n : Int64) : IsArgument (literalLexemes n) := by
  unfold literalLexemes
  split
  · exact .negative _
  · exact .plain _

/-- Literals are as many arguments as there are literals. -/
theorem isArguments_argumentLexemes {arguments : List Int64} (h : arguments ≠ []) :
    IsArguments arguments.length (argumentLexemes arguments) := by
  fun_induction argumentLexemes arguments with
  | case1 => exact absurd rfl h
  | case2 n => exact .one (isArgument_literalLexemes n)
  | case3 n rest hrest ih => exact .more (isArgument_literalLexemes n) (ih hrest)

/-- Tokens have lexemes. -/
theorem flatMap_lexemes_ne_nil {ts : List Token} (h : ts ≠ []) : ts.flatMap lexemes ≠ [] := by
  obtain ⟨t, us, rfl⟩ := List.exists_cons_of_ne_nil h
  obtain ⟨x, xs, ht, -⟩ := exists_lexemes_eq_cons t
  rw [List.flatMap_cons, ht]
  simp

end Token

namespace Dialect

variable {d : Dialect}

/-- Whether the dialect has the operator or the function of a token, and the function takes
as many arguments. -/
def Has (d : Dialect) : Token → Prop
  | .operator c => c ∈ d.operators
  | .call name arguments => name ∈ d.functions ∧ d.TakesArguments name arguments.length
  | _ => True

/-- Every call has an argument. -/
theorem TakesArguments.pos {name : String} {count : Nat} (h : d.TakesArguments name count) :
    0 < count := by
  have hmin := h.1
  unfold minArguments at hmin
  split at hmin <;> omega

/-- The number of further arguments that is drawn leads to a number that the function takes,
when the count of all arguments fits 64 bits. -/
theorem TakesExtra.takesArguments (hcount : 1 + d.maxExtraArguments.toNat < UInt64.size)
    {name : String} {count : Nat} (h : d.TakesExtra name count) :
    d.TakesArguments name (count + 1) := by
  rw [takesArguments_iff (maxArguments_eq_mostArguments fun _ => hcount)]
  exact takesExtra_iff.mp h

/-- The tokens of a draw are in the dialect that makes it. -/
theorem Draws.has (hcount : 1 + d.maxExtraArguments.toNat < UInt64.size) {draw : SlotDraw}
    (h : d.Draws draw) {t : Token} (ht : t ∈ draw.tokens) : d.Has t := by
  obtain ⟨hadmits, hchooses⟩ := h
  cases draw with
  | operator c =>
    rw [SlotDraw.tokens, List.mem_singleton] at ht
    subst ht
    exact hadmits
  | operand n =>
    rw [SlotDraw.tokens, List.mem_singleton] at ht
    subst ht
    trivial
  | group close n =>
    simp only [SlotDraw.tokens, List.mem_cons, List.not_mem_nil, or_false] at ht
    rcases ht with rfl | rfl | rfl <;> trivial
  | call name first extra =>
    rw [SlotDraw.tokens, List.mem_singleton] at ht
    subst ht
    exact ⟨hadmits.1, hchooses.2.takesArguments hcount⟩

end Dialect

namespace Progress

variable {d : Dialect} {p : Progress}

/-- The checker reads the lexemes of a token that may come next. -/
theorem Takes.reads {t : Token} (h : p.Takes t) (ht : d.Has t) :
    Reads d p t.lexemes (p.after t) := by
  cases t with
  | operand n => exact .number _ h
  | operator c => exact .operator h ht
  | openParen => exact .openParen h
  | closeParen => exact .closeParen (.inr h.1) h.2
  | call name arguments =>
    have hne : arguments ≠ [] := List.length_pos_iff.mp ht.2.pos
    exact .call h ht.1 ⟨arguments.length, _, ht.2, Token.isArguments_argumentLexemes hne, rfl⟩

/-- The checker runs over the lexemes of tokens that may come one after the other. -/
theorem TakesAll.runs {ts : List Token} (h : p.TakesAll ts) (hts : ∀ t ∈ ts, d.Has t) :
    Runs d p (ts.flatMap Token.lexemes) (p.afterAll ts) := by
  induction ts generalizing p with
  | nil => exact .nil p
  | cons t ts ih =>
    have hread : Reads d p t.lexemes (p.after t) := h.1.reads (hts t (by simp))
    rw [List.flatMap_cons]
    exact .cons hread (ih h.2 fun u hu => hts u (by simp [hu]))

end Progress

namespace Dialect

variable {d : Dialect}

/-- The tokens of the balanced draft that draws of a dialect make are in the dialect. -/
theorem has_of_mem_balance (hcount : 1 + d.maxExtraArguments.toNat < UInt64.size)
    {draws : List SlotDraw} (hdraws : ∀ draw ∈ draws, d.Draws draw) {t : Token}
    (ht : t ∈ (Draft.ofDraws draws).balance.tokens.toList) : d.Has t := by
  rw [Draft.balance_tokens, List.mem_append] at ht
  rcases ht with ht | ht
  · obtain ⟨draw, hdraw, ht⟩ := Draft.exists_draw_of_mem_ofDraws ht
    exact (hdraws draw hdraw).has hcount ht
  · exact (List.mem_replicate.mp ht).2 ▸ trivial

/-- Validation accepts the text of a balanced draft that an odd number of draws makes in
alternation, and tallies what the checker does over its tokens. -/
theorem check_text_balance (hd : d.Usable) (hcount : 1 + d.maxExtraArguments.toNat < UInt64.size)
    {draws : List SlotDraw} (hodd : draws.length % 2 = 1) (halternate : Alternate false draws)
    (hdraws : ∀ draw ∈ draws, d.Draws draw) :
    d.check (Token.text (Draft.ofDraws draws).balance.tokens.toList) =
      .ok (Draft.ofDraws draws).balance.progress.shape := by
  have hbuffer : d.IsBuffer (Draft.ofDraws draws).balance.tokens.toList :=
    ⟨draws, halternate, fun draw hdraw => (hdraws draw hdraw).1, .inr rfl⟩
  have hscan := (Token.ofText_text (hbuffer.isProper hd) hbuffer.isChain).2
  have hsound := Draft.sound_ofDraws hodd halternate
  obtain ⟨htakes, hcomplete⟩ := hsound.balance
  have hruns := htakes.runs fun t ht => has_of_mem_balance hcount hdraws ht
  rw [check_of_ofText hscan, checkLexemes_eq_ok_iff, Lexeme.lexemes_locate]
  refine ⟨?_, _, hruns, hcomplete, rfl⟩
  intro hnil
  have hlexemes := congrArg lexemes hnil
  rw [Lexeme.lexemes_locate] at hlexemes
  exact Token.flatMap_lexemes_ne_nil hsound.balance_ne_nil hlexemes

variable {σ : Type} [WordSource σ]

/-- The text of every expression that is drawn passes validation. -/
theorem yields_accepted (hd : d.Usable) (hcount : 1 + d.maxExtraArguments.toNat < UInt64.size)
    {length : Nat} (hlength : minimumLength ≤ length) :
    (d.drawExpression (σ := σ) length).Yields fun tokens =>
      ∃ shape, d.check (Token.text tokens) = .ok shape := by
  refine (yields_drawExpression hd hlength).mono ?_
  rintro tokens ⟨draws, hslots, halternate, hdraws, rfl⟩
  have hodd : draws.length % 2 = 1 := by
    rw [hslots]
    exact lastSlot_odd hlength
  exact ⟨_, check_text_balance hd hcount hodd halternate hdraws⟩

/-- **Generated expressions are accepted.** With a dialect that validation passes, of any
length from two on and from any words, drawing an expression fails in no other way than that
the source gives up, and the text of the expression passes the check of the same dialect. -/
theorem drawExpression_accepted (hvalid : d.validate = .ok ())
    (hcount : 1 + d.maxExtraArguments.toNat < UInt64.size) {length : Nat} (hlength : 2 ≤ length)
    (s : σ) (hstops : (d.drawExpression length).run s ≠ .error .sourceExhausted) :
    ∃ tokens s' shape, (d.drawExpression length).run s = .ok (tokens, s') ∧
      d.check (Token.text tokens) = .ok shape := by
  have haccepted := yields_accepted (σ := σ) (validate_eq_ok_iff.mp hvalid) hcount hlength
  obtain ⟨tokens, s', hrun, shape, hcheck⟩ := haccepted.exists_ok hstops
  exact ⟨tokens, s', shape, hrun, hcheck⟩

/-- The expression `12-min(2,-12,-85)×(5)` of length 6, with an operator beyond ASCII. -/
theorem drawExpression_accepted_variadic_call :
    let d : Dialect := { operators := ['-', '×'], maxExtraArguments := 2 }
    let s : Tape :=
      { word := fun i => UInt64.ofNat ((i + 1) * 15074714826142052245), patience := 8 }
    ((d.drawExpression 6).run s).map (Token.text ·.1) = .ok "12-min(2,-12,-85)×(5)" ∧
      ∃ tokens s' shape, (d.drawExpression 6).run s = .ok (tokens, s') ∧
        d.check (Token.text tokens) = .ok shape := by
  intro d s
  have hrun : ((d.drawExpression 6).run s).map (Token.text ·.1) =
      .ok "12-min(2,-12,-85)×(5)" := by decide +kernel
  refine ⟨hrun, drawExpression_accepted (by decide +kernel) (by decide) (by decide) s ?_⟩
  intro hstop
  rw [hstop] at hrun
  cases hrun

end Dialect

end Crosscheck
