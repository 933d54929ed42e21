import Crosscheck.Proofs.Grammar.Spelling
import Mathlib.Data.List.TakeWhile

/-!
# What the scanner yields

The lexemes of a text are writable, and they stand at increasing offsets. Conversely, every list
of writable lexemes belongs to some text: blanks between the written forms keep them apart.
-/

namespace Crosscheck

open Text

/-- What is spelled by characters is writable. -/
theorem Lexeme.SpelledBy.isWritable {x : Lexeme} {span : List Char} (h : x.SpelledBy span) :
    x.IsWritable := by
  cases x with
  | number n => exact h.2.2.2
  | operator c => exact h.2
  | ident name => exact h.2
  | _ => trivial

/-- The first piece of a text is a blank, or the spelling of a lexeme that the rest of the text
does not prolong. -/
theorem Piece.blank_or_lexeme_of_first {offset : Nat} {c : Char} {rest : List Char} {p : Piece}
    (h : first offset c rest = .ok p) :
    (isWhiteSpace c = true ∧ p = single c none rest) ∨
      ∃ x, p.lexeme? = some x ∧ x.SpelledBy p.chars ∧ x.EndsBefore p.rest := by
  unfold first at h
  split at h
  · rename_i hspace
    cases h
    exact .inl ⟨hspace, rfl⟩
  · right
    repeat' split at h
    all_goals cases h
    · subst c
      exact ⟨.openParen, rfl, rfl, trivial⟩
    · subst c
      exact ⟨.closeParen, rfl, rfl, trivial⟩
    · subst c
      exact ⟨.comma, rfl, rfl, trivial⟩
    · rename_i hdigit hle
      refine ⟨_, rfl, ⟨List.cons_ne_nil _ _, ?_, rfl, hle⟩, stopsAt_dropWhile _ _⟩
      intro d hd
      rcases List.mem_cons.mp hd with rfl | hd
      · exact hdigit
      · exact List.mem_takeWhile_imp hd
    · rename_i hstart
      refine ⟨_, rfl, ⟨by simp [run], ?_⟩, stopsAt_dropWhile _ _⟩
      simp only [isName, String.toList_ofList, hstart, Bool.true_and, List.all_eq_true]
      exact fun d hd => List.mem_takeWhile_imp hd
    · exact ⟨_, rfl, ⟨rfl, by assumption⟩, trivial⟩

/-- The lexeme of the first piece of a text is writable. -/
theorem Piece.isWritable_of_first {offset : Nat} {c : Char} {rest : List Char} {p : Piece}
    (h : first offset c rest = .ok p) {x : Lexeme} (hx : p.lexeme? = some x) : x.IsWritable := by
  rcases blank_or_lexeme_of_first h with ⟨-, rfl⟩ | ⟨y, hy, hspelled, -⟩
  · cases hx
  · rw [hy] at hx
    cases hx
    exact hspelled.isWritable

/-- A piece has a byte at least. -/
theorem Piece.byteLength_pos {offset : Nat} {c : Char} {rest : List Char} {p : Piece}
    (h : first offset c rest = .ok p) : 0 < byteLength p.chars := by
  obtain ⟨d, ds, hchars⟩ := List.exists_cons_of_ne_nil (chars_ne_nil h)
  rw [hchars, byteLength]
  have hpos := d.utf8Size_pos
  omega

namespace Lexeme

/-- The scanner without its failures: a text is taken apart piece by piece. -/
inductive Scans : (offset : Nat) → List Char → List Located → Prop
  | nil (offset : Nat) : Scans offset [] []
  | cons {offset : Nat} {c : Char} {rest : List Char} {p : Piece} {ls : List Located} :
      Piece.first offset c rest = .ok p → Scans (offset + byteLength p.chars) p.rest ls →
      Scans offset (c :: rest) (p.located offset ++ ls)

/-- A text that is scanned is taken apart. -/
theorem scans_of_scan {offset : Nat} {cs : List Char} {ls : List Located}
    (h : scan offset cs = .ok ls) : Scans offset cs ls := by
  fun_induction scan offset cs generalizing ls with
  | case1 =>
    cases h
    exact .nil _
  | case2 => cases h
  | case3 offset c rest p hfirst _ ih =>
    cases hrest : scan (offset + byteLength p.chars) p.rest with
    | error violation =>
      rw [hrest] at h
      cases h
    | ok more =>
      rw [hrest] at h
      cases h
      exact .cons hfirst (ih hrest)

/-- The lexemes of a text are writable. -/
theorem Scans.isWritable {offset : Nat} {cs : List Char} {ls : List Located}
    (h : Scans offset cs ls) : ∀ x ∈ lexemes ls, x.IsWritable := by
  induction h with
  | nil => simp
  | @cons offset c rest p ls hfirst _ ih =>
    intro x hx
    rw [lexemes_append, List.mem_append] at hx
    rcases hx with hx | hx
    · cases hlexeme : p.lexeme? with
      | none => simp [Piece.located, hlexeme] at hx
      | some y =>
        obtain rfl : x = y := by simpa [Piece.located, hlexeme] using hx
        exact Piece.isWritable_of_first hfirst hlexeme
    · exact ih x hx

/-- The lexemes of a text stand in order, none of them before the text. -/
theorem Scans.pairwise_offset {offset : Nat} {cs : List Char} {ls : List Located}
    (h : Scans offset cs ls) :
    (∀ l ∈ ls, offset ≤ l.offset) ∧ ls.Pairwise fun l m => l.offset < m.offset := by
  induction h with
  | nil => simp
  | @cons offset c rest p ls hfirst _ ih =>
    obtain ⟨hlower, hpairwise⟩ := ih
    have hpos := Piece.byteLength_pos hfirst
    have hafter : ∀ l ∈ ls, offset < l.offset := by
      intro l hl
      have hle := hlower l hl
      omega
    cases hlexeme : p.lexeme? with
    | none =>
      simp only [Piece.located, hlexeme, List.nil_append]
      exact ⟨fun l hl => Nat.le_of_lt (hafter l hl), hpairwise⟩
    | some x =>
      simp only [Piece.located, hlexeme, List.singleton_append, List.mem_cons, forall_eq_or_imp,
        List.pairwise_cons]
      exact ⟨⟨Nat.le_refl _, fun l hl => Nat.le_of_lt (hafter l hl)⟩, hafter, hpairwise⟩

/-- Lexemes written with a blank after each. -/
def spacedChars (xs : List Lexeme) : List Char := xs.flatMap fun x => x.chars ++ [' ']

/-- Writable lexemes that are kept apart by blanks are scanned as they are. -/
theorem exists_scan_spacedChars {xs : List Lexeme} (hxs : ∀ x ∈ xs, x.IsWritable) (offset : Nat) :
    ∃ ls, scan offset (spacedChars xs) = .ok ls ∧ lexemes ls = xs := by
  induction xs generalizing offset with
  | nil => exact ⟨[], by rw [spacedChars, List.flatMap_nil, scan], rfl⟩
  | cons x xs ih =>
    have hblank (start : Nat) :
        scan start (' ' :: spacedChars xs) = scan (start + 1) (spacedChars xs) := by
      have hfirst : Piece.first start ' ' (spacedChars xs) =
          .ok (.single ' ' none (spacedChars xs)) := rfl
      rw [scan_cons hfirst]
      change (scan (start + 1) (spacedChars xs)).map ([] ++ ·) = _
      cases scan (start + 1) (spacedChars xs) <;> rfl
    obtain ⟨ls, hscan, hlexemes⟩ :=
      ih (fun y hy => hxs y (by simp [hy])) (offset + byteLength x.chars + 1)
    refine ⟨⟨offset, x⟩ :: ls, ?_, by rw [lexemes_cons, hlexemes]⟩
    have hchars : spacedChars (x :: xs) = x.chars ++ ' ' :: spacedChars xs := by
      rw [spacedChars, List.flatMap_cons, List.append_assoc]
      rfl
    have hstop : StopsAt isNamePart (' ' :: spacedChars xs) := by
      intro c hc
      obtain rfl : ' ' = c := by simpa using hc
      decide
    rw [hchars, scan_chars_append (hxs x (by simp)) fun _ => hstop, hblank, hscan]
    rfl

/-- Every list of writable lexemes belongs to a text. -/
theorem exists_ofText {xs : List Lexeme} (hxs : ∀ x ∈ xs, x.IsWritable) :
    ∃ text ls, ofText text = .ok ls ∧ lexemes ls = xs := by
  obtain ⟨ls, hscan, hlexemes⟩ := exists_scan_spacedChars hxs 0
  exact ⟨String.ofList (spacedChars xs), ls, by rwa [ofText, String.toList_ofList], hlexemes⟩

end Lexeme

end Crosscheck
