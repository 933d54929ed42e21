import Crosscheck.Proofs.Grammar.Scanning

/-!
# Texts as tiles

A text is laid out without a gap by blanks and by spellings of lexemes, each spelling as long as
it can be. There is one list of lexemes at most that lays out a text in this way, and scanning
finds it: no character is dropped or read twice, and the offsets are where the spellings begin.
-/

namespace Crosscheck

open Text

/-- The bytes of two parts of a text. -/
theorem byteLength_append (cs ds : List Char) :
    byteLength (cs ++ ds) = byteLength cs + byteLength ds := by
  induction cs with
  | nil => exact (Nat.zero_add _).symm
  | cons c cs ih => rw [List.cons_append, byteLength, byteLength, ih, Nat.add_assoc]

/-- A text has one first part of each number of bytes at most. -/
theorem append_inj_of_byteLength_eq {before before' after after' : List Char}
    (htext : before ++ after = before' ++ after') (h : byteLength before = byteLength before') :
    before = before' ∧ after = after' := by
  induction before generalizing before' with
  | nil =>
    cases before' with
    | nil => exact ⟨rfl, htext⟩
    | cons c before' =>
      have hpos := c.utf8Size_pos
      simp only [byteLength] at h
      omega
  | cons c before ih =>
    cases before' with
    | nil =>
      have hpos := c.utf8Size_pos
      simp only [byteLength] at h
      omega
    | cons c' before' =>
      rw [List.cons_append, List.cons_append, List.cons.injEq] at htext
      obtain ⟨rfl, htext⟩ := htext
      obtain ⟨rfl, rfl⟩ := ih htext (Nat.add_left_cancel h)
      exact ⟨rfl, rfl⟩

/-- Bytes are counted as they are in a string. -/
theorem utf8ByteSize_ofList (cs : List Char) :
    (String.ofList cs).utf8ByteSize = byteLength cs := by
  induction cs with
  | nil => rfl
  | cons c cs ih =>
    have hsplit : String.ofList (c :: cs) = String.singleton c ++ String.ofList cs := by
      rw [String.singleton_eq_ofList, ← String.ofList_append]
      rfl
    rw [hsplit, String.utf8ByteSize_append, String.utf8ByteSize_singleton, ih, byteLength]

namespace Lexeme

/-- Whether a text that starts at an offset is laid out by lexemes at their offsets, with nothing
but white space between their spellings, and no spelling is prolonged by what comes after it. -/
inductive Tiles : (offset : Nat) → List Char → List Located → Prop
  | nil (offset : Nat) : Tiles offset [] []
  | blank {offset : Nat} {c : Char} {rest : List Char} {ls : List Located} :
      isWhiteSpace c = true → Tiles (offset + c.utf8Size) rest ls → Tiles offset (c :: rest) ls
  | lexeme {offset : Nat} {x : Lexeme} {span rest : List Char} {ls : List Located} :
      x.SpelledBy span → x.EndsBefore rest → Tiles (offset + byteLength span) rest ls →
      Tiles offset (span ++ rest) (⟨offset, x⟩ :: ls)

/-- A text that is taken apart piece by piece is laid out by the lexemes of the pieces. -/
theorem Scans.tiles {offset : Nat} {cs : List Char} {ls : List Located} (h : Scans offset cs ls) :
    Tiles offset cs ls := by
  induction h with
  | nil offset => exact .nil offset
  | @cons offset c rest p ls hfirst _ ih =>
    rcases Piece.blank_or_lexeme_of_first hfirst with ⟨hspace, rfl⟩ | ⟨x, hx, hspelled, hends⟩
    · exact .blank hspace ih
    · rw [← Piece.chars_append_rest hfirst, Piece.located, hx]
      exact .lexeme hspelled hends ih

/-- Lexemes that lay out a text are those that scanning finds. -/
theorem Tiles.scan_eq_ok {offset : Nat} {cs : List Char} {ls : List Located}
    (h : Tiles offset cs ls) : scan offset cs = .ok ls := by
  induction h with
  | nil offset => rw [scan]
  | @blank offset c rest ls hspace _ ih =>
    have hfirst : Piece.first offset c rest = .ok (.single c none rest) := by
      rw [Piece.first, if_pos hspace]
    have hsize : byteLength (Piece.single c none rest).chars = c.utf8Size := Nat.add_zero _
    rw [scan_cons hfirst, hsize]
    exact congrArg (Except.map ([] ++ ·)) ih
  | lexeme hspelled hends _ ih =>
    rw [scan_append_of_spelledBy hspelled hends, ih]
    rfl

/-- Scanning finds exactly the lexemes that lay out a text. -/
theorem scan_eq_ok_iff_tiles {offset : Nat} {cs : List Char} {ls : List Located} :
    scan offset cs = .ok ls ↔ Tiles offset cs ls :=
  ⟨fun h => (scans_of_scan h).tiles, Tiles.scan_eq_ok⟩

/-- A lexeme of a text is spelled where its offset says, and not prolonged by what comes after. -/
theorem Tiles.exists_span {offset : Nat} {cs : List Char} {ls : List Located}
    (h : Tiles offset cs ls) {l : Located} (hl : l ∈ ls) :
    ∃ before span after, cs = before ++ span ++ after ∧
      l.offset = offset + byteLength before ∧ l.lexeme.SpelledBy span ∧
      l.lexeme.EndsBefore after := by
  induction h with
  | nil => cases hl
  | @blank offset c rest ls _ _ ih =>
    obtain ⟨before, span, after, hrest, hoffset, hspelled, hends⟩ := ih hl
    refine ⟨c :: before, span, after, by rw [hrest]; rfl, ?_, hspelled, hends⟩
    rw [hoffset, byteLength, Nat.add_assoc]
  | @lexeme offset x span rest ls hspelled hends _ ih =>
    rcases List.mem_cons.mp hl with rfl | hl
    · exact ⟨[], span, rest, rfl, rfl, hspelled, hends⟩
    · obtain ⟨before, later, after, hrest, hoffset, hlater, hafter⟩ := ih hl
      refine ⟨span ++ before, later, after, by simp [hrest], ?_, hlater, hafter⟩
      rw [hoffset, byteLength_append, Nat.add_assoc]

/-- The number of bytes of a first part of a text is a position between two characters. -/
theorem isValid_byteLength {text : String} {before after : List Char}
    (h : text.toList = before ++ after) :
    String.Pos.Raw.IsValid text ⟨byteLength before⟩ := by
  rw [String.Pos.Raw.isValid_iff_exists_append]
  refine ⟨String.ofList before, String.ofList after, ?_, ?_⟩
  · rw [← String.ofList_append, ← h, String.ofList_toList]
  · rw [← utf8ByteSize_ofList]
    rfl

/-- **Scanning loses nothing and reads as far as it can.** When a text is scanned, the offsets of
the lexemes increase, and they are positions between two characters. From its offset on, each
lexeme is spelled by characters that the rest of the text does not prolong. The spellings lay out
the text, with white space between them and nothing else, and no other lexemes do so. -/
theorem ofText_lossless {text : String} {ls : List Located} (h : ofText text = .ok ls) :
    (ls.Pairwise fun l m => l.offset < m.offset) ∧
    (∀ l ∈ ls, String.Pos.Raw.IsValid text ⟨l.offset⟩ ∧
      ∃ before span after, text.toList = before ++ span ++ after ∧
        byteLength before = l.offset ∧ l.lexeme.SpelledBy span ∧ l.lexeme.EndsBefore after) ∧
    Tiles 0 text.toList ls ∧
    ∀ ms, Tiles 0 text.toList ms → ms = ls := by
  have htiles := scan_eq_ok_iff_tiles.mp h
  refine ⟨(scans_of_scan h).pairwise_offset.2, ?spans, htiles, ?unique⟩
  case spans =>
    intro l hl
    obtain ⟨before, span, after, htext, hoffset, hspelled, hends⟩ := htiles.exists_span hl
    rw [Nat.zero_add] at hoffset
    refine ⟨?_, before, span, after, htext, hoffset.symm, hspelled, hends⟩
    rw [hoffset]
    exact isValid_byteLength (by rw [htext, List.append_assoc])
  case unique =>
    intro ms hms
    have hscan : ofText text = .ok ms := hms.scan_eq_ok
    rw [h] at hscan
    cases hscan
    rfl

/-- Zeros in front of a number, a digit in a name, a number right before a name, and an operator
and a blank of two bytes each. -/
theorem ofText_lossless_wide_characters :
    let text := " max(007,\u00a0-5)×x1 12ab"
    let ls : List Located :=
      [⟨1, .ident "max"⟩, ⟨4, .openParen⟩, ⟨5, .number 7⟩, ⟨8, .comma⟩, ⟨11, .operator '-'⟩,
        ⟨12, .number 5⟩, ⟨13, .closeParen⟩, ⟨14, .operator '×'⟩, ⟨16, .ident "x1"⟩,
        ⟨19, .number 12⟩, ⟨21, .ident "ab"⟩]
    ofText text = .ok ls ∧ (ls.Pairwise fun l m => l.offset < m.offset) ∧
      Tiles 0 text.toList ls ∧ ∀ ms, Tiles 0 text.toList ms → ms = ls := by
  intro text ls
  have hscan : ofText text = .ok ls := by decide +kernel
  obtain ⟨hpairwise, -, htiles, hunique⟩ := ofText_lossless hscan
  exact ⟨hscan, hpairwise, htiles, hunique⟩

end Lexeme

end Crosscheck
