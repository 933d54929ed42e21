import Crosscheck.Proofs.Dialect.Usable
import Crosscheck.Proofs.Expression.Alternation

/-!
# Printing and scanning

Whatever a usable dialect puts into a draft in alternation is printed so that the scanner
finds the same lexemes again, without a gap between them. The text of such a draft
therefore determines its tokens.
-/

namespace Crosscheck

open Text

namespace LiteralRange

/-- Membership in a range. -/
theorem contains_iff {r : LiteralRange} {n : Int64} :
    r.contains n = true ↔ r.min ≤ n ∧ n ≤ r.max := by
  simp [contains]

end LiteralRange

namespace Dialect

variable {d : Dialect}

/-- Whether the symbol, the name and the literals of a draw belong to the dialect. -/
def Admits (d : Dialect) : SlotDraw → Prop
  | .operator c => c ∈ d.operators
  | .call name first extra => name ∈ d.functions ∧ d.firstArgumentRange.contains first = true ∧
      ∀ n ∈ extra, d.extraArgumentRange.contains n = true
  | .group _ n => d.groupOperandRange.contains n = true
  | .operand n => d.operandRange.contains n = true

/-- The tokens of drafts that are filled in alternation with draws of the dialect, the first
of them for an operand slot; such a draft may have been balanced. -/
def IsBuffer (d : Dialect) (tokens : List Token) : Prop :=
  ∃ draws, Alternate false draws ∧ (∀ draw ∈ draws, d.Admits draw) ∧
    (tokens = (Draft.ofDraws draws).tokens.toList ∨
      tokens = (Draft.ofDraws draws).balance.tokens.toList)

/-- A range without the least 64-bit integer at its lower end does not contain it. -/
theorem Usable.ne_minValue (hd : d.Usable) (role : LiteralRole) {n : Int64}
    (hn : (d.range role).contains n = true) : n ≠ Int64.minValue := by
  have hmin := (LiteralRange.contains_iff.mp hn).1
  have hne := hd.range_min_ne role
  rintro rfl
  apply hne
  rw [Int64.le_iff_toInt_le] at hmin
  have hlow := (d.range role).min.minValue_le_toInt
  exact Int64.toInt_inj.mp (Int.le_antisymm hmin hlow)

/-- The draws of a usable dialect lead to proper tokens. -/
theorem Admits.isProper (hd : d.Usable) {draw : SlotDraw} (h : d.Admits draw) {t : Token}
    (ht : t ∈ draw.tokens) : t.IsProper := by
  cases draw with
  | operator c =>
    rw [SlotDraw.tokens, List.mem_singleton] at ht
    subst ht
    exact hd.isOperatorSymbol_of_mem c h
  | operand n =>
    rw [SlotDraw.tokens, List.mem_singleton] at ht
    subst ht
    exact Int64.le_trans hd.operandRange_nonneg (LiteralRange.contains_iff.mp h).1
  | group close n =>
    simp only [SlotDraw.tokens, List.mem_cons, List.not_mem_nil, or_false] at ht
    rcases ht with rfl | rfl | rfl
    · trivial
    · exact Int64.le_trans hd.groupOperandRange_nonneg (LiteralRange.contains_iff.mp h).1
    · trivial
  | call name first extra =>
    obtain ⟨hname, hfirst, hextra⟩ := h
    rw [SlotDraw.tokens, List.mem_singleton] at ht
    subst ht
    refine ⟨hd.isName_of_mem name hname, ?_⟩
    intro n hn
    rcases List.mem_cons.mp hn with rfl | hn
    · exact hd.ne_minValue .firstArgument hfirst
    · exact hd.ne_minValue .extraArgument (hextra n hn)

/-- The tokens of a buffer are proper. -/
theorem IsBuffer.isProper (hd : d.Usable) {tokens : List Token} (h : d.IsBuffer tokens) :
    ∀ t ∈ tokens, t.IsProper := by
  obtain ⟨draws, -, hadmits, htokens⟩ := h
  intro t ht
  have hdraft : t ∈ (Draft.ofDraws draws).tokens.toList → t.IsProper := by
    intro hmem
    obtain ⟨draw, hdraw, ht⟩ := Draft.exists_draw_of_mem_ofDraws hmem
    exact (hadmits draw hdraw).isProper hd ht
  rcases htokens with rfl | rfl
  · exact hdraft ht
  · rw [Draft.balance_tokens, List.mem_append] at ht
    rcases ht with ht | ht
    · exact hdraft ht
    · exact (List.mem_replicate.mp ht).2 ▸ trivial

/-- The tokens of a buffer are apart from one another. -/
theorem IsBuffer.isChain {tokens : List Token} (h : d.IsBuffer tokens) :
    tokens.IsChain Token.Apart := by
  obtain ⟨draws, halternate, -, htokens⟩ := h
  have hdraft : (Draft.ofDraws draws).tokens.toList.IsChain Token.Apart :=
    (Draft.sound_empty.foldl_step halternate).takesAll.isChain
  rcases htokens with rfl | rfl
  · exact hdraft
  · rw [Draft.balance_tokens]
    refine hdraft.append ?_ ?_
    · exact List.isChain_replicate_of_rel _ fun h => by cases h
    · intro t _ u hu _
      have hclose := List.mem_replicate.mp (List.mem_of_mem_head? hu)
      rw [hclose.2]
      rfl

end Dialect

/-- **Printing fuses nothing and loses nothing.** The text of a buffer is made of the written
forms of its lexemes without a gap, the scanner yields exactly these lexemes, each at the
offset where its characters begin, and no other buffer has the same text. -/
theorem scan_text_of_isBuffer {d : Dialect} (hd : d.validate = .ok ()) {tokens : List Token}
    (htokens : d.IsBuffer tokens) :
    (Token.text tokens).toList = (tokens.flatMap Token.lexemes).flatMap Lexeme.chars ∧
      Lexeme.ofText (Token.text tokens) =
        .ok (Lexeme.locate 0 (tokens.flatMap Token.lexemes)) ∧
      ∀ {d' : Dialect} {others : List Token}, d'.validate = .ok () → d'.IsBuffer others →
        Token.text others = Token.text tokens → others = tokens := by
  have hproper := htokens.isProper (Dialect.validate_eq_ok_iff.mp hd)
  obtain ⟨hchars, hscan⟩ := Token.ofText_text hproper htokens.isChain
  refine ⟨hchars, hscan, ?_⟩
  intro d' others hd' hothers htext
  have hproper' := hothers.isProper (Dialect.validate_eq_ok_iff.mp hd')
  have hscan' := (Token.ofText_text hproper' hothers.isChain).2
  rw [htext, hscan] at hscan'
  have hlocated := congrArg lexemes (Except.ok.inj hscan')
  rw [Lexeme.lexemes_locate, Lexeme.lexemes_locate] at hlocated
  exact Token.eq_of_flatMap_lexemes_eq hproper' hproper hlocated.symm

/-- The text `(1-max(3,-4))` of a balanced draft. -/
theorem scan_text_of_isBuffer_group_call :
    let d : Dialect := {}
    let tokens : List Token :=
      [.openParen, .operand 1, .operator '-', .call "max" [3, -4], .closeParen]
    d.validate = .ok () ∧ d.IsBuffer tokens ∧
      Lexeme.ofText (Token.text tokens) = .ok [⟨0, .openParen⟩, ⟨1, .number 1⟩,
        ⟨2, .operator '-'⟩, ⟨3, .ident "max"⟩, ⟨6, .openParen⟩, ⟨7, .number 3⟩, ⟨8, .comma⟩,
        ⟨9, .operator '-'⟩, ⟨10, .number 4⟩, ⟨11, .closeParen⟩, ⟨12, .closeParen⟩] := by
  intro d tokens
  have hd : d.validate = .ok () := by decide
  have htokens : d.IsBuffer tokens := by
    refine ⟨[.group false 1, .operator '-', .call "max" 3 [-4]], ?_, ?_, .inr ?_⟩
    · simp [Alternate, SlotDraw.isOperator]
    · simp [Dialect.Admits, d]
      decide
    · decide
  refine ⟨hd, htokens, ?_⟩
  rw [(scan_text_of_isBuffer hd htokens).2.1]
  decide +kernel

end Crosscheck
