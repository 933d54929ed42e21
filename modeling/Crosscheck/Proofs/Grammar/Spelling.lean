import Crosscheck.Dialect.Validity
import Crosscheck.Grammar.Lexeme
import Crosscheck.Proofs.Grammar.Calls
import Crosscheck.Proofs.Text.Character
import Mathlib.Data.List.Chain

/-!
# Spelling and scanning

A lexeme has a written form, and a number can also be spelled with zeros in front. A spelling
is read back as its lexeme, unless the text after it prolongs it. When no two numbers or names
stand next to each other, the written forms of a list of lexemes scan back to the list, each
lexeme at the offset where its own characters begin: nothing is fused, lost or left over.
-/

namespace Crosscheck

open Text

namespace Lexeme

/-- The written form of a lexeme. -/
def chars : Lexeme → List Char
  | .number n => decimal n
  | .operator c => [c]
  | .openParen => ['(']
  | .closeParen => [')']
  | .comma => [',']
  | .ident name => name.toList

/-- Whether the written form of a lexeme is one that the scanner knows. -/
def IsWritable : Lexeme → Prop
  | .number n => n ≤ maxLiteral
  | .operator c => isOperatorSymbol c = true
  | .ident name => isName name = true
  | _ => True

/-- Whether a lexeme is a run of characters that another one could prolong. -/
def isWord : Lexeme → Bool
  | .number _ | .ident _ => true
  | _ => false

/-- Two neighbouring lexemes are apart when they are not both words. -/
def Apart (x y : Lexeme) : Prop := x.isWord = true → y.isWord = false

/-- A lexeme that is not a word is apart from whatever comes after it. -/
theorem isChain_cons_of_isWord_eq_false {x : Lexeme} (hx : x.isWord = false) {xs : List Lexeme}
    (hxs : xs.IsChain Apart) : (x :: xs).IsChain Apart := by
  refine List.isChain_cons.mpr ⟨?_, hxs⟩
  intro y _ hword
  simp [hx] at hword

/-- Whatever comes before a lexeme that is not a word is apart from it. -/
theorem isChain_cons_of_head?_isWord_eq_false (x : Lexeme) {xs : List Lexeme}
    (hhead : ∀ y ∈ xs.head?, y.isWord = false) (hxs : xs.IsChain Apart) :
    (x :: xs).IsChain Apart :=
  List.isChain_cons.mpr ⟨fun y hy _ => hhead y hy, hxs⟩

/-- Lexemes written without a gap, each at the offset where its characters begin. -/
def locate (offset : Nat) : List Lexeme → List Located
  | [] => []
  | x :: xs => ⟨offset, x⟩ :: locate (offset + byteLength x.chars) xs

/-- Offsets do not change the lexemes. -/
@[simp] theorem lexemes_locate (offset : Nat) (xs : List Lexeme) :
    lexemes (locate offset xs) = xs := by
  induction xs generalizing offset with
  | nil => rfl
  | cons x xs ih => simp [locate, ih]

/-- The scanner takes the first piece and goes on after it. -/
theorem scan_cons {offset : Nat} {c : Char} {rest : List Char} {p : Piece}
    (h : Piece.first offset c rest = .ok p) :
    scan offset (c :: rest) =
      (scan (offset + byteLength p.chars) p.rest).map (p.located offset ++ ·) := by
  rw [scan]
  split
  · simp_all
  · simp_all

end Lexeme

/-- A text does not begin with a character that passes a test. -/
def StopsAt (test : Char → Bool) (rest : List Char) : Prop := ∀ c ∈ rest.head?, test c = false

namespace StopsAt

variable {test : Char → Bool} {body rest : List Char}

/-- The part of a text that passes a test, up to where it stops. -/
theorem takeWhile_append (h : StopsAt test rest) (hbody : ∀ c ∈ body, test c = true) :
    (body ++ rest).takeWhile test = body := by
  rw [List.takeWhile_append_of_pos hbody]
  cases rest with
  | nil => simp
  | cons c rest => simp [h c rfl]

/-- What is after the part of a text that passes a test. -/
theorem dropWhile_append (h : StopsAt test rest) (hbody : ∀ c ∈ body, test c = true) :
    (body ++ rest).dropWhile test = rest := by
  rw [List.dropWhile_append_of_pos hbody]
  cases rest with
  | nil => simp
  | cons c rest => simp [h c rfl]

/-- The part of a text that passes a test lies before the place where the text stops. -/
theorem takeWhile_append_left {cs : List Char} (h : StopsAt test rest) :
    (cs ++ rest).takeWhile test = cs.takeWhile test := by
  induction cs with
  | nil => exact @takeWhile_append test [] rest h (by simp)
  | cons c cs ih =>
    by_cases hc : test c = true
    · rw [List.cons_append, List.takeWhile_cons_of_pos hc, List.takeWhile_cons_of_pos hc, ih]
    · rw [List.cons_append, List.takeWhile_cons_of_neg hc, List.takeWhile_cons_of_neg hc]

/-- What ends a name also ends a number. -/
theorem isDigit (h : StopsAt isNamePart rest) : StopsAt Char.isDigit rest := by
  intro c hc
  have hpart := h c hc
  rw [← Bool.not_eq_true] at hpart ⊢
  exact fun hdigit => hpart (isNamePart_iff.mpr (.inr hdigit))

end StopsAt

/-- Behind the part that passes a test the test fails. -/
theorem stopsAt_dropWhile (test : Char → Bool) (cs : List Char) :
    StopsAt test (cs.dropWhile test) := by
  intro c hc
  have hhead := List.head?_dropWhile_not test cs
  rw [Option.mem_def.mp hc] at hhead
  simpa using hhead

namespace Piece

/-- The first piece of a text that begins with digits is the number that they denote, zeros in
front included. -/
theorem first_digits {c : Char} {cs rest : List Char} (hdigits : ∀ x ∈ c :: cs, x.isDigit = true)
    (hle : readDecimal (c :: cs) ≤ maxLiteral) (hrest : StopsAt Char.isDigit rest)
    (offset : Nat) :
    first offset c (cs ++ rest) =
      .ok ⟨c :: cs, some (.number (readDecimal (c :: cs))), rest⟩ := by
  have hdigit := hdigits c (by simp)
  have htail : ∀ x ∈ cs, x.isDigit = true := fun x hx => hdigits x (by simp [hx])
  have hpart : isNamePart c = true := isNamePart_iff.mpr (.inr hdigit)
  have hspace := isWhiteSpace_eq_false_of_isNamePart hpart
  have hmarks := ne_of_isNamePart hpart
  simp [first, run, hspace, hmarks, hdigit, hrest.takeWhile_append htail,
    hrest.dropWhile_append htail, hle]

/-- The first piece of a text that begins with a name is the name. -/
theorem first_name {name : String} (hname : isName name = true) {c : Char} {cs rest : List Char}
    (hcs : name.toList = c :: cs) (hrest : StopsAt isNamePart rest) (offset : Nat) :
    first offset c (cs ++ rest) = .ok ⟨c :: cs, some (.ident name), rest⟩ := by
  simp only [isName, hcs, Bool.and_eq_true, List.all_eq_true] at hname
  obtain ⟨hstart, htail⟩ := hname
  have hpart := isNamePart_of_isNameStart hstart
  have hspace := isWhiteSpace_eq_false_of_isNamePart hpart
  have hmarks := ne_of_isNamePart hpart
  have hdigit := isDigit_eq_false_of_isNameStart hstart
  have hofList : String.ofList (c :: cs) = name := by rw [← hcs, String.ofList_toList]
  simp [first, run, hspace, hmarks, hdigit, hstart, hrest.takeWhile_append htail,
    hrest.dropWhile_append htail, hofList]

/-- The first piece of a text that begins with an operator symbol is the operator. -/
theorem first_operator {c : Char} (hc : isOperatorSymbol c = true) (rest : List Char)
    (offset : Nat) : first offset c rest = .ok ⟨[c], some (.operator c), rest⟩ := by
  have hspace := isWhiteSpace_eq_false_of_isOperatorSymbol hc
  have hmarks := ne_of_isOperatorSymbol hc
  have hpart := isNamePart_eq_false_of_isOperatorSymbol hc
  have hstart : isNameStart c = false := by
    rw [Bool.eq_false_iff]
    intro h
    simp [isNamePart_of_isNameStart h] at hpart
  have hdigit : c.isDigit = false := by
    rw [Bool.eq_false_iff]
    intro h
    simp [isNamePart_iff.mpr (.inr h)] at hpart
  simp [first, single, hspace, hmarks, hdigit, hstart, hc]

end Piece

namespace Lexeme

/-- Whether characters are a way to write a lexeme. A number can be written with zeros in front;
every other lexeme is written in one way. -/
def SpelledBy : Lexeme → List Char → Prop
  | .number n, span =>
    span ≠ [] ∧ (∀ c ∈ span, c.isDigit = true) ∧ readDecimal span = n ∧ n ≤ maxLiteral
  | .operator c, span => span = [c] ∧ isOperatorSymbol c = true
  | .openParen, span => span = ['(']
  | .closeParen, span => span = [')']
  | .comma, span => span = [',']
  | .ident name, span => span = name.toList ∧ isName name = true

/-- Whether the text after a lexeme does not prolong it. -/
def EndsBefore : Lexeme → List Char → Prop
  | .number _, rest => StopsAt Char.isDigit rest
  | .ident _, rest => StopsAt isNamePart rest
  | _, _ => True

/-- Writable lexemes are spelled by their written forms. -/
theorem IsWritable.spelledBy {x : Lexeme} (hx : x.IsWritable) : x.SpelledBy x.chars := by
  cases x with
  | number n =>
    exact ⟨decimal_ne_nil n, fun c hc => isDigit_of_mem_decimal hc, readDecimal_decimal n, hx⟩
  | operator c => exact ⟨rfl, hx⟩
  | ident name => exact ⟨rfl, hx⟩
  | openParen => rfl
  | closeParen => rfl
  | comma => rfl

/-- What ends a name ends every lexeme, and only words need an end. -/
theorem endsBefore_of_stopsAt {x : Lexeme} {rest : List Char}
    (hrest : x.isWord = true → StopsAt isNamePart rest) : x.EndsBefore rest := by
  cases x with
  | number n => exact (hrest rfl).isDigit
  | ident name => exact hrest rfl
  | _ => trivial

/-- A name is a character that starts it and characters that continue it. -/
theorem exists_cons_of_isName {name : String} (h : isName name = true) :
    ∃ c cs, name.toList = c :: cs ∧ isNameStart c = true ∧ ∀ d ∈ cs, isNamePart d = true := by
  unfold isName at h
  split at h
  · cases h
  · rename_i c cs hname
    rw [Bool.and_eq_true, List.all_eq_true] at h
    exact ⟨c, cs, hname, h.1, h.2⟩

/-- A lexeme is spelled by a character at least. -/
theorem SpelledBy.exists_cons {x : Lexeme} {span : List Char} (h : x.SpelledBy span) :
    ∃ c cs, span = c :: cs := by
  apply List.exists_cons_of_ne_nil
  rintro rfl
  cases x with
  | number n => exact h.1 rfl
  | operator c => cases h.1
  | ident name =>
    obtain ⟨c, cs, hname, -⟩ := exists_cons_of_isName h.2
    rw [SpelledBy, hname] at h
    cases h.1
  | _ => cases h

/-- The first piece of a text that begins with a spelling of a lexeme is the lexeme, unless the
text after it prolongs it. -/
theorem first_of_spelledBy {x : Lexeme} {c : Char} {cs rest : List Char}
    (hx : x.SpelledBy (c :: cs)) (hrest : x.EndsBefore rest) (offset : Nat) :
    Piece.first offset c (cs ++ rest) = .ok ⟨c :: cs, some x, rest⟩ := by
  cases x with
  | number n =>
    obtain ⟨-, hdigits, rfl, hle⟩ := hx
    exact Piece.first_digits hdigits hle hrest offset
  | ident name => exact Piece.first_name hx.2 hx.1.symm hrest offset
  | operator c' =>
    obtain ⟨hspan, hsymbol⟩ := hx
    cases hspan
    exact Piece.first_operator hsymbol rest offset
  | openParen =>
    cases hx
    rfl
  | closeParen =>
    cases hx
    rfl
  | comma =>
    cases hx
    rfl

/-- A spelling of a lexeme is read back as that lexeme, unless the text after it prolongs it. -/
theorem scan_append_of_spelledBy {x : Lexeme} {span rest : List Char} (hx : x.SpelledBy span)
    (hrest : x.EndsBefore rest) (offset : Nat) :
    scan offset (span ++ rest) =
      (scan (offset + byteLength span) rest).map (⟨offset, x⟩ :: ·) := by
  obtain ⟨c, cs, rfl⟩ := hx.exists_cons
  rw [List.cons_append, scan_cons (first_of_spelledBy hx hrest offset)]
  rfl

/-- The written form of a lexeme is read back as that lexeme, whatever comes after it, unless
it is a word that the text after it prolongs. -/
theorem scan_chars_append {x : Lexeme} (hx : x.IsWritable) {rest : List Char}
    (hrest : x.isWord = true → StopsAt isNamePart rest) (offset : Nat) :
    scan offset (x.chars ++ rest) =
      (scan (offset + byteLength x.chars) rest).map (⟨offset, x⟩ :: ·) :=
  scan_append_of_spelledBy hx.spelledBy (endsBefore_of_stopsAt hrest) offset

/-- A lexeme that is not a word ends the word before it. -/
theorem stopsAt_chars_append {x : Lexeme} (hx : x.IsWritable) (hword : x.isWord = false)
    (rest : List Char) : StopsAt isNamePart (x.chars ++ rest) := by
  intro c hc
  cases x with
  | number n => cases hword
  | ident name => cases hword
  | operator c' =>
    obtain rfl : c' = c := by simpa [chars] using hc
    exact isNamePart_eq_false_of_isOperatorSymbol hx
  | openParen => cases hc; rfl
  | closeParen => cases hc; rfl
  | comma => cases hc; rfl

/-- **Nothing is fused.** Lexemes written without a gap scan back to themselves when no two
words are neighbours, each at the offset where its characters begin. -/
theorem scan_flatMap_chars {xs : List Lexeme} (hxs : ∀ x ∈ xs, x.IsWritable)
    (hapart : xs.IsChain Apart) (offset : Nat) :
    scan offset (xs.flatMap chars) = .ok (locate offset xs) := by
  induction xs generalizing offset with
  | nil => rw [List.flatMap_nil, scan, locate]
  | cons x xs ih =>
    have hstop : x.isWord = true → StopsAt isNamePart (xs.flatMap chars) := by
      intro hword
      cases xs with
      | nil => simp [StopsAt]
      | cons y ys =>
        have hnext : y.isWord = false := (List.isChain_cons_cons.mp hapart).1 hword
        rw [List.flatMap_cons]
        exact stopsAt_chars_append (hxs y (by simp)) hnext _
    rw [List.flatMap_cons, scan_chars_append (hxs x (by simp)) hstop,
      ih (fun y hy => hxs y (by simp [hy])) hapart.tail]
    rfl

end Lexeme

end Crosscheck
