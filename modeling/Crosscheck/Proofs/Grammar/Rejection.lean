import Crosscheck.Proofs.Grammar.Tiling

/-!
# Texts that are not scanned

Two things in a text stop the scanner: a character that belongs to no lexeme, and a word, that is
a run of letters, digits and underscores as long as it can be, which begins with digits of too
high a value. Scanning fails exactly when a text has one of them somewhere, and the failure is
that of the first one. The scanner divides a text before a digit only where a word begins, so that
it takes the digits of a word from the first one on and meets each cause where it stands.
-/

namespace Crosscheck

open Text

/-- Zeros in front do not change the value of digits. -/
theorem readDecimal_replicate_zero_append (zeros : Nat) (digits : List Char) :
    readDecimal (List.replicate zeros '0' ++ digits) = readDecimal digits := by
  induction zeros with
  | zero => rfl
  | succ zeros ih => exact ih

namespace Lexeme

/-- A character is foreign when it is neither white space, nor a paren or a comma, nor part of a
word, nor an operator symbol. -/
def IsForeign (c : Char) : Prop :=
  isWhiteSpace c = false ∧ (c ≠ '(' ∧ c ≠ ')' ∧ c ≠ ',') ∧ isNamePart c = false ∧
    isOperatorSymbol c = false

/-- What stops the scanner between a first part of a text and the rest: the rest begins with a
foreign character, or with a word whose leading digits have a value that is too high. -/
inductive Blocks (before : List Char) : (after : List Char) → Violation → Prop
  | character {c : Char} {rest : List Char} : IsForeign c →
      Blocks before (c :: rest) (.unexpectedCharacter c (byteLength before))
  | number {word rest : List Char} : (∀ c ∈ before.getLast?, isNamePart c = false) →
      (∀ c ∈ word, isNamePart c = true) → StopsAt isNamePart rest →
      maxLiteral < readDecimal (word.takeWhile Char.isDigit) →
      Blocks before (word ++ rest) (.numberOutOfRange (byteLength before))

/-- Whether a text has a cause of a violation at a byte offset. -/
def BlockedAt (cs : List Char) (offset : Nat) (v : Violation) : Prop :=
  ∃ before after, cs = before ++ after ∧ byteLength before = offset ∧ Blocks before after v

/-- White space is not foreign, and it is no part of a word. -/
theorem not_isForeign_of_isWhiteSpace {c : Char} (h : isWhiteSpace c = true) :
    isNamePart c = false ∧ ¬ IsForeign c := by
  refine ⟨isNamePart_eq_false_of_isWhiteSpace h, fun hforeign => ?_⟩
  rw [hforeign.1] at h
  cases h

/-- A lexeme that is not a word is spelled by one character, which is not foreign and no part of a
word. -/
theorem SpelledBy.exists_eq_singleton {x : Lexeme} {span : List Char} (h : x.SpelledBy span)
    (hword : x.isWord = false) : ∃ c, span = [c] ∧ isNamePart c = false ∧ ¬ IsForeign c := by
  cases x with
  | number n => cases hword
  | ident name => cases hword
  | operator c =>
    refine ⟨c, h.1, isNamePart_eq_false_of_isOperatorSymbol h.2, fun hforeign => ?_⟩
    have hsymbol := h.2
    rw [hforeign.2.2.2] at hsymbol
    cases hsymbol
  | openParen => exact ⟨'(', h, by decide, fun hforeign => hforeign.2.1.1 rfl⟩
  | closeParen => exact ⟨')', h, by decide, fun hforeign => hforeign.2.1.2.1 rfl⟩
  | comma => exact ⟨',', h, by decide, fun hforeign => hforeign.2.1.2.2 rfl⟩

/-- Nothing stops the scanner at the end of a text. -/
theorem not_blocks_nil {before : List Char} {v : Violation} : ¬ Blocks before [] v := by
  intro h
  generalize hafter : ([] : List Char) = after at h
  cases h with
  | character => cases hafter
  | @number word rest _ _ _ hvalue =>
    rw [(List.append_eq_nil_iff.mp hafter.symm).1] at hvalue
    exact absurd hvalue (by decide)

/-- What stops the scanner is decided by the next character and by the digits from there on. -/
theorem blocks_cons_iff {before : List Char} {c : Char} {rest : List Char} {v : Violation} :
    Blocks before (c :: rest) v ↔
      (IsForeign c ∧ v = .unexpectedCharacter c (byteLength before)) ∨
        (c.isDigit = true ∧ (∀ d ∈ before.getLast?, isNamePart d = false) ∧
          maxLiteral < readDecimal ((c :: rest).takeWhile Char.isDigit) ∧
          v = .numberOutOfRange (byteLength before)) := by
  constructor
  · intro h
    generalize hafter : c :: rest = after at h
    cases h with
    | character hforeign =>
      cases hafter
      exact .inl ⟨hforeign, rfl⟩
    | @number word rest' hbefore _ hrest hvalue =>
      right
      have hdigits : (c :: rest).takeWhile Char.isDigit = word.takeWhile Char.isDigit := by
        rw [hafter]
        exact hrest.isDigit.takeWhile_append_left
      rw [← hafter, hdigits]
      refine ⟨?_, hbefore, hvalue, rfl⟩
      by_contra hdigit
      rw [← hdigits, List.takeWhile_cons_of_neg hdigit] at hvalue
      exact absurd hvalue (by decide)
  · rintro (⟨hforeign, rfl⟩ | ⟨-, hbefore, hvalue, rfl⟩)
    · exact .character hforeign
    · have hstop := stopsAt_dropWhile isNamePart (c :: rest)
      rw [← List.takeWhile_append_dropWhile (p := isNamePart) (l := c :: rest)] at hvalue ⊢
      rw [hstop.isDigit.takeWhile_append_left] at hvalue
      exact .number hbefore (fun d hd => List.mem_takeWhile_imp hd) hstop hvalue

/-- A place in a text has one cause of failure at most. -/
theorem Blocks.unique {before after : List Char} {v w : Violation} (hv : Blocks before after v)
    (hw : Blocks before after w) : v = w := by
  cases after with
  | nil => exact absurd hv not_blocks_nil
  | cons c rest =>
    have hexclusive (hforeign : IsForeign c) (hdigit : c.isDigit = true) : False := by
      have hpart := isNamePart_iff.mpr (.inr hdigit)
      rw [hforeign.2.2.1] at hpart
      cases hpart
    -- A foreign character and the first digit of a word cannot be the same character.
    rcases blocks_cons_iff.mp hv with ⟨hforeign, rfl⟩ | ⟨hdigit, -, -, rfl⟩ <;>
      rcases blocks_cons_iff.mp hw with ⟨hforeign', rfl⟩ | ⟨hdigit', -, -, rfl⟩
    · rfl
    · exact (hexclusive hforeign hdigit').elim
    · exact (hexclusive hforeign' hdigit).elim
    · rfl

end Lexeme

namespace Piece

open Lexeme

variable {offset : Nat} {before : List Char} {c : Char} {rest : List Char} {p : Piece}

/-- The first piece of a text is one character that is neither foreign nor part of a word, or it is
part of a word: then no digit follows it, and digits that it begins with are not too high. -/
theorem mark_or_word_of_first (h : first offset c rest = .ok p) :
    (p.chars = [c] ∧ isNamePart c = false ∧ ¬ IsForeign c) ∨
      ((∀ d ∈ p.chars, isNamePart d = true) ∧ StopsAt Char.isDigit p.rest ∧
        readDecimal ((c :: rest).takeWhile Char.isDigit) ≤ maxLiteral) := by
  have htext := chars_append_rest h
  rcases blank_or_lexeme_of_first h with ⟨hspace, rfl⟩ | ⟨x, -, hspelled, hends⟩
  · exact .inl ⟨rfl, not_isForeign_of_isWhiteSpace hspace⟩
  · cases x with
    | number n =>
      obtain ⟨-, hdigits, hvalue, hle⟩ := hspelled
      right
      refine ⟨fun d hd => isNamePart_iff.mpr (.inr (hdigits d hd)), hends, ?_⟩
      rw [← htext, StopsAt.takeWhile_append hends hdigits, hvalue]
      exact hle
    | ident name =>
      obtain ⟨hspan, hname⟩ := hspelled
      right
      obtain ⟨d, ds, hname, hstart, hparts⟩ := exists_cons_of_isName hname
      rw [hspan, hname] at htext ⊢
      refine ⟨?_, hends.isDigit, ?_⟩
      · intro e he
        rcases List.mem_cons.mp he with rfl | he
        · exact isNamePart_of_isNameStart hstart
        · exact hparts e he
      · have hdigit : ¬ d.isDigit = true := by
          simp [isDigit_eq_false_of_isNameStart hstart]
        rw [← htext, List.cons_append, List.takeWhile_cons_of_neg hdigit]
        decide
    | _ =>
      obtain ⟨d, hspan, hmark⟩ := hspelled.exists_eq_singleton rfl
      rw [hspan] at htext
      cases htext
      exact .inl ⟨hspan, hmark⟩

/-- Nothing stops the scanner inside the first piece of a text. -/
theorem not_blocks_inside (h : first offset c rest = .ok p) {mid inside : List Char} {d : Char}
    (hchars : p.chars = mid ++ d :: inside) {v : Violation} :
    ¬ Blocks (before ++ mid) (d :: (inside ++ p.rest)) v := by
  intro hblocks
  rw [blocks_cons_iff] at hblocks
  rcases mark_or_word_of_first h with ⟨hmark, hpart, hforeign⟩ | ⟨hparts, -, hle⟩
  · obtain ⟨rfl, rfl, rfl⟩ : mid = [] ∧ d = c ∧ inside = [] := by
      rw [hmark, List.singleton_eq_append_iff] at hchars
      simpa using hchars
    rcases hblocks with ⟨hforeign', -⟩ | ⟨hdigit, -⟩
    · exact hforeign hforeign'
    · rw [isNamePart_iff.mpr (.inr hdigit)] at hpart
      cases hpart
  · have hd := hparts d (by simp [hchars])
    rcases hblocks with ⟨hforeign, -⟩ | ⟨-, hlast, hvalue, -⟩
    · rw [hforeign.2.2.1] at hd
      cases hd
    · -- The digits of a word are read from its beginning on, and nowhere else.
      rcases List.eq_nil_or_concat mid with rfl | ⟨front, e, rfl⟩
      · have htext : d :: (inside ++ p.rest) = c :: rest := by
          rw [← chars_append_rest h, hchars]
          rfl
        rw [htext] at hvalue
        omega
      · have he := hlast e (by simp)
        rw [hparts e (by simp [hchars])] at he
        cases he

/-- What stops the scanner comes after the first piece of the text. -/
theorem exists_eq_append_of_blocks (h : first offset c rest = .ok p) {mid tail : List Char}
    {v : Violation} (hsplit : c :: rest = mid ++ tail) (hblocks : Blocks (before ++ mid) tail v) :
    ∃ more, mid = p.chars ++ more ∧ p.rest = more ++ tail := by
  rw [← chars_append_rest h, List.append_eq_append_iff] at hsplit
  rcases hsplit with hafter | ⟨inside, hchars, rfl⟩
  · exact hafter
  · cases inside with
    | nil => exact ⟨[], by simp [hchars], rfl⟩
    | cons d inside => exact absurd hblocks (not_blocks_inside h hchars)

end Piece

namespace Lexeme

/-- Whether a digit that comes after a first part of a text begins a word. The scanner divides a
text at such places only. -/
def Divides (before after : List Char) : Prop :=
  ∀ c ∈ after.head?, c.isDigit = true → ∀ d ∈ before.getLast?, isNamePart d = false

/-- A text is divided behind its first piece. -/
theorem divides_of_first {offset : Nat} {c : Char} {rest : List Char} {p : Piece}
    (h : Piece.first offset c rest = .ok p) (before : List Char) :
    Divides (before ++ p.chars) p.rest := by
  intro d hd hdigit e he
  rcases Piece.mark_or_word_of_first h with ⟨hmark, hpart, -⟩ | ⟨-, hstop, -⟩
  · rw [hmark, List.getLast?_append] at he
    cases he
    exact hpart
  · rw [hstop d hd] at hdigit
    cases hdigit

/-- A piece is refused where something stops the scanner. -/
theorem blocks_of_first_eq_error {before : List Char} {c : Char} {rest : List Char}
    {v : Violation} (hdivides : Divides before (c :: rest))
    (h : Piece.first (byteLength before) c rest = .error v) : Blocks before (c :: rest) v := by
  rw [blocks_cons_iff]
  unfold Piece.first at h
  repeat' split at h
  all_goals cases h
  · rename_i hdigit hvalue
    right
    rw [List.takeWhile_cons_of_pos hdigit]
    exact ⟨hdigit, hdivides c rfl hdigit, Nat.not_le.mp hvalue, rfl⟩
  · rename_i hspace hopen hclose hcomma hdigit hstart hsymbol
    left
    have hpart : isNamePart c = false := by
      by_contra hpart
      rw [Bool.not_eq_false, isNamePart_iff] at hpart
      exact hpart.elim hstart hdigit
    rw [Bool.not_eq_true] at hspace hsymbol
    exact ⟨⟨hspace, ⟨hopen, hclose, hcomma⟩, hpart, hsymbol⟩, rfl⟩

/-- Nothing stops the scanner in a text that is taken apart piece by piece. -/
theorem Scans.not_blocks {offset : Nat} {cs : List Char} {ls : List Located}
    (h : Scans offset cs ls) {before mid tail : List Char} (hsplit : cs = mid ++ tail)
    {v : Violation} : ¬ Blocks (before ++ mid) tail v := by
  induction h generalizing before mid with
  | nil =>
    rw [(List.append_eq_nil_iff.mp hsplit.symm).2]
    exact not_blocks_nil
  | @cons offset c rest p ls hfirst _ ih =>
    intro hblocks
    obtain ⟨more, rfl, hrest⟩ := Piece.exists_eq_append_of_blocks hfirst hsplit hblocks
    rw [← List.append_assoc] at hblocks
    exact ih hrest hblocks

/-- A failure of the scanner is that of the first thing that stops it. -/
theorem exists_blocks_of_scan_eq_error {before after : List Char} {v : Violation}
    (hdivides : Divides before after) (h : scan (byteLength before) after = .error v) :
    ∃ mid tail, after = mid ++ tail ∧ Blocks (before ++ mid) tail v ∧
      ∀ mid' tail' v', after = mid' ++ tail' → Blocks (before ++ mid') tail' v' →
        byteLength mid ≤ byteLength mid' := by
  generalize hoffset : byteLength before = offset at h
  fun_induction scan offset after generalizing before with
  | case1 => cases h
  | case2 offset c rest violation hfirst =>
    cases h
    subst offset
    refine ⟨[], c :: rest, rfl, ?_, fun _ _ _ _ _ => Nat.zero_le _⟩
    rw [List.append_nil]
    exact blocks_of_first_eq_error hdivides hfirst
  | case3 offset c rest p hfirst _ ih =>
    have hrest : scan (offset + byteLength p.chars) p.rest = .error v := by
      cases hscan : scan (offset + byteLength p.chars) p.rest with
      | error violation =>
        rw [hscan] at h
        cases h
        rfl
      | ok ls =>
        rw [hscan] at h
        cases h
    have hbefore : byteLength (before ++ p.chars) = offset + byteLength p.chars := by
      rw [byteLength_append, hoffset]
    obtain ⟨mid, tail, hsplit, hblocks, hleast⟩ := ih (divides_of_first hfirst before) hbefore hrest
    rw [List.append_assoc] at hblocks
    refine ⟨p.chars ++ mid, tail, ?_, hblocks, ?_⟩
    · rw [List.append_assoc, ← hsplit, Piece.chars_append_rest hfirst]
    · intro mid' tail' v' hsplit' hblocks'
      obtain ⟨more, rfl, hmore⟩ := Piece.exists_eq_append_of_blocks hfirst hsplit' hblocks'
      rw [← List.append_assoc] at hblocks'
      have hle := hleast more tail' v' hmore hblocks'
      rw [byteLength_append, byteLength_append]
      omega

/-- A number is spelled by its numeral with zeros in front. -/
theorem spelledBy_replicate_zero_append (zeros : Nat) {n : Nat} (hn : n ≤ maxLiteral) :
    SpelledBy (.number n) (List.replicate zeros '0' ++ decimal n) := by
  refine ⟨?_, ?_, ?_, hn⟩
  · simp [decimal_ne_nil]
  · intro c hc
    rcases List.mem_append.mp hc with hc | hc
    · rw [List.eq_of_mem_replicate hc]
      rfl
    · exact isDigit_of_mem_decimal hc
  · rw [readDecimal_replicate_zero_append, readDecimal_decimal]

/-- A text at which something stops the scanner is not scanned. -/
theorem BlockedAt.exists_eq_error {text : String} {offset : Nat} {v : Violation}
    (h : BlockedAt text.toList offset v) : ∃ w, ofText text = .error w := by
  obtain ⟨before, after, htext, -, hblocks⟩ := h
  cases hscan : ofText text with
  | error w => exact ⟨w, rfl⟩
  | ok ls =>
    rw [← List.nil_append before] at hblocks
    exact absurd hblocks ((scans_of_scan hscan).not_blocks htext)

/-- The failure of a text is a cause in the text, and no cause stands before it. -/
theorem exists_blockedAt_of_ofText_eq_error {text : String} {v : Violation}
    (h : ofText text = .error v) :
    ∃ offset, BlockedAt text.toList offset v ∧
      ∀ offset' v', BlockedAt text.toList offset' v' → offset ≤ offset' := by
  have hdivides : Divides [] text.toList := fun _ _ _ d hd => by cases hd
  obtain ⟨before, after, htext, hblocks, hleast⟩ := exists_blocks_of_scan_eq_error hdivides h
  refine ⟨byteLength before, ⟨before, after, htext, rfl, hblocks⟩, ?_⟩
  rintro offset' v' ⟨before', after', htext', rfl, hblocks'⟩
  exact hleast before' after' v' htext' hblocks'

/-- There is one cause of failure at most at an offset. -/
theorem BlockedAt.unique {cs : List Char} {offset : Nat} {v w : Violation}
    (hv : BlockedAt cs offset v) (hw : BlockedAt cs offset w) : v = w := by
  obtain ⟨before, after, hsplit, hoffset, hblocks⟩ := hv
  obtain ⟨before', after', hsplit', hoffset', hblocks'⟩ := hw
  obtain ⟨rfl, rfl⟩ := append_inj_of_byteLength_eq (hsplit.symm.trans hsplit')
    (hoffset.trans hoffset'.symm)
  exact hblocks.unique hblocks'

/-- **A text is refused for the first thing that stops the scanner, and for nothing else.**
Scanning fails exactly when the text has, somewhere, a character that belongs to no lexeme or a
word whose leading digits have too high a value. The failure names what stands first in the text:
the character and its offset, or the offset of the first digit. Zeros in front of a number are
read with it, however many, and a name is read whatever digits are in it. -/
theorem ofText_rejects (text : String) :
    ((∃ v, ofText text = .error v) ↔ ∃ offset v, BlockedAt text.toList offset v) ∧
    (∀ v, ofText text = .error v ↔ ∃ offset, BlockedAt text.toList offset v ∧
      ∀ offset' v', BlockedAt text.toList offset' v' → offset ≤ offset') ∧
    (∀ zeros n rest offset, n ≤ maxLiteral → StopsAt Char.isDigit rest →
      scan offset (List.replicate zeros '0' ++ decimal n ++ rest) =
        (scan (offset + byteLength (List.replicate zeros '0' ++ decimal n)) rest).map
          (⟨offset, .number n⟩ :: ·)) ∧
    ∀ name rest offset, isName name = true → StopsAt isNamePart rest →
      scan offset (name.toList ++ rest) =
        (scan (offset + byteLength name.toList) rest).map (⟨offset, .ident name⟩ :: ·) := by
  refine ⟨⟨?fails, ?blocked⟩, fun v => ⟨exists_blockedAt_of_ofText_eq_error, ?first⟩, ?zeros,
    ?names⟩
  case fails =>
    rintro ⟨v, hscan⟩
    obtain ⟨offset, hblocked, -⟩ := exists_blockedAt_of_ofText_eq_error hscan
    exact ⟨offset, v, hblocked⟩
  case blocked =>
    rintro ⟨offset, v, hblocked⟩
    exact hblocked.exists_eq_error
  case first =>
    rintro ⟨offset, hblocked, hleast⟩
    obtain ⟨w, hscan⟩ := hblocked.exists_eq_error
    obtain ⟨offset', hblocked', hleast'⟩ := exists_blockedAt_of_ofText_eq_error hscan
    obtain rfl : offset = offset' :=
      Nat.le_antisymm (hleast _ _ hblocked') (hleast' _ _ hblocked)
    rw [hscan, hblocked.unique hblocked']
  case zeros =>
    intro zeros n rest offset hn hrest
    exact scan_append_of_spelledBy (spelledBy_replicate_zero_append zeros hn) hrest offset
  case names =>
    intro name rest offset hname hrest
    have hspelled : SpelledBy (.ident name) name.toList := ⟨rfl, hname⟩
    exact scan_append_of_spelledBy hspelled hrest offset

/-- The digits of one more than the largest number stand twice: in a name, where they are not read
as a number, and by themselves, where they are refused. The largest number with zeros in front of
it, between the two, is read, and the foreign character at the end is not reached. -/
theorem ofText_rejects_first_of_two_causes :
    let text := "max9223372036854775808+0009223372036854775807-9223372036854775808 é"
    ofText text = .error (.numberOutOfRange 46) ∧
      BlockedAt text.toList 66 (.unexpectedCharacter 'é' 66) ∧
      (∃ offset, BlockedAt text.toList offset (.numberOutOfRange 46) ∧
        ∀ offset' v', BlockedAt text.toList offset' v' → offset ≤ offset') ∧
      scan 23 (List.replicate 3 '0' ++ decimal maxLiteral ++ ['-']) =
        (scan (23 + byteLength (List.replicate 3 '0' ++ decimal maxLiteral)) ['-']).map
          (⟨23, .number maxLiteral⟩ :: ·) := by
  intro text
  have hscan : ofText text = .error (.numberOutOfRange 46) := by decide +kernel
  have hforeign : IsForeign 'é' := ⟨by decide, by decide, by decide, by decide +kernel⟩
  obtain ⟨-, hfirst, hzeros, -⟩ := ofText_rejects text
  refine ⟨hscan, ⟨text.toList.dropLast, ['é'], by decide +kernel, by decide +kernel, ?_⟩,
    (hfirst _).mp hscan, hzeros 3 maxLiteral ['-'] 23 (Nat.le_refl _) ?_⟩
  · have hoffset : byteLength text.toList.dropLast = 66 := by decide +kernel
    rw [← hoffset]
    exact .character hforeign
  · intro c hc
    cases hc
    rfl

end Lexeme

end Crosscheck
