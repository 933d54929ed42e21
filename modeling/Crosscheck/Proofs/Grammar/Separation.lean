import Crosscheck.Proofs.Grammar.Tiling

/-!
# Texts divided at separators

White space, parens, commas and operator symbols end every number and every name before them, and
are pieces of their own. A text is therefore scanned on both sides of such a character as if each
side stood alone, except that on the right side everything stands as many bytes further on as come
before it. This holds of sides that are not scanned as well, whose failures are kept in this order.
-/

namespace Crosscheck

open Text

/-- What a text does not begin with is dropped from what comes before the text only. -/
theorem StopsAt.dropWhile_append_left {test : Char → Bool} {rest : List Char}
    (h : StopsAt test rest) (cs : List Char) :
    (cs ++ rest).dropWhile test = cs.dropWhile test ++ rest := by
  induction cs with
  | nil => exact @StopsAt.dropWhile_append test [] rest h (by simp)
  | cons c cs ih =>
    by_cases hc : test c = true
    · rw [List.cons_append, List.dropWhile_cons_of_pos hc, List.dropWhile_cons_of_pos hc, ih]
    · rw [List.cons_append, List.dropWhile_cons_of_neg hc, List.dropWhile_cons_of_neg hc]
      rfl

/-- The same violation in a text with that many more bytes in front. -/
def Violation.moved (bytes : Nat) : Violation → Violation
  | .unexpectedCharacter c offset => .unexpectedCharacter c (bytes + offset)
  | .numberOutOfRange offset => .numberOutOfRange (bytes + offset)
  | .operatorAfterOpenParen c offset => .operatorAfterOpenParen c (bytes + offset)
  | .adjacentOperators c offset => .adjacentOperators c (bytes + offset)
  | .operatorBeforeCloseParen offset => .operatorBeforeCloseParen (bytes + offset)
  | .emptyGroup offset => .emptyGroup (bytes + offset)
  | .missingOperator offset => .missingOperator (bytes + offset)
  | .unknownOperator c offset => .unknownOperator c (bytes + offset)
  | .unmatchedCloseParen offset => .unmatchedCloseParen (bytes + offset)
  | .strayComma offset => .strayComma (bytes + offset)
  | .unknownFunction name offset => .unknownFunction name (bytes + offset)
  | .callMissingOpenParen name offset => .callMissingOpenParen name (bytes + offset)
  | .emptyArgumentList name offset => .emptyArgumentList name (bytes + offset)
  | .malformedArgument name offset => .malformedArgument name (bytes + offset)
  | .unclosedCall name offset => .unclosedCall name (bytes + offset)
  | v => v

/-- The same lexeme in a text with that many more bytes in front. -/
def Located.moved (bytes : Nat) (l : Located) : Located := { l with offset := bytes + l.offset }

namespace Piece

/-- What comes after a text does not change its first piece, unless it goes on with a word. -/
theorem first_append {rest : List Char} (hrest : StopsAt isNamePart rest) (offset : Nat) (c : Char)
    (cs : List Char) :
    first offset c (cs ++ rest) =
      (first offset c cs).map fun p => { p with rest := p.rest ++ rest } := by
  have hdigits := hrest.isDigit
  simp only [first, run, single, hrest.takeWhile_append_left, hrest.dropWhile_append_left,
    hdigits.takeWhile_append_left, hdigits.dropWhile_append_left]
  split_ifs <;> rfl

/-- The first piece of a text is the same wherever the text stands. -/
theorem first_add (bytes offset : Nat) (c : Char) (rest : List Char) :
    first (bytes + offset) c rest = (first offset c rest).mapError (·.moved bytes) := by
  simp only [first]
  split_ifs <;> rfl

/-- The lexeme of a piece moves with the piece. -/
theorem located_add (p : Piece) (bytes offset : Nat) :
    p.located (bytes + offset) = (p.located offset).map (·.moved bytes) := by
  unfold located
  split <;> rfl

end Piece

namespace Lexeme

/-- The scanner stops at a piece that it refuses. -/
theorem scan_cons_error {offset : Nat} {c : Char} {rest : List Char} {v : Violation}
    (h : Piece.first offset c rest = .error v) : scan offset (c :: rest) = .error v := by
  rw [scan]
  split
  · rename_i other hother
    rw [hother] at h
    cases h
    rfl
  · rename_i p hp
    rw [hp] at h
    cases h

/-- Lexemes put in front of a result one after the other are put there together. -/
theorem map_append_map_append (front mid : List Located)
    (r : Except Violation (List Located)) :
    (r.map (mid ++ ·)).map (front ++ ·) = r.map ((front ++ mid) ++ ·) := by
  cases r with
  | error v => rfl
  | ok ls => exact congrArg Except.ok (List.append_assoc ..).symm

/-- A text is scanned behind another one as if it stood alone, unless it goes on with a word. -/
theorem scan_append {rest : List Char} (hrest : StopsAt isNamePart rest) (offset : Nat)
    (cs : List Char) :
    scan offset (cs ++ rest) =
      (scan offset cs).bind fun ls => (scan (offset + byteLength cs) rest).map (ls ++ ·) := by
  fun_induction scan offset cs with
  | case1 offset =>
    change scan offset rest = (scan offset rest).map ([] ++ ·)
    cases scan offset rest <;> rfl
  | case2 offset c cs v hfirst =>
    have happend : Piece.first offset c (cs ++ rest) = .error v := by
      rw [Piece.first_append hrest, hfirst]
      rfl
    exact scan_cons_error happend
  | case3 offset c cs p hfirst _ ih =>
    have happend : Piece.first offset c (cs ++ rest) = .ok { p with rest := p.rest ++ rest } := by
      rw [Piece.first_append hrest, hfirst]
      rfl
    have hbytes : byteLength (c :: cs) = byteLength p.chars + byteLength p.rest := by
      rw [← Piece.chars_append_rest hfirst, byteLength_append]
    -- The piece is the same with and without the rest, so the induction goes on behind it.
    rw [List.cons_append, scan_cons happend, hbytes, ← Nat.add_assoc]
    dsimp only
    rw [ih]
    cases scan (offset + byteLength p.chars) p.rest with
    | error v => rfl
    | ok ls => exact map_append_map_append _ _ _

/-- A text is scanned in the same way wherever it stands. -/
theorem scan_add (bytes offset : Nat) (cs : List Char) :
    scan (bytes + offset) cs =
      ((scan offset cs).map (List.map (·.moved bytes))).mapError (·.moved bytes) := by
  fun_induction scan offset cs with
  | case1 offset =>
    rw [scan]
    rfl
  | case2 offset c cs v hfirst =>
    refine scan_cons_error ?_
    rw [Piece.first_add, hfirst]
    rfl
  | case3 offset c cs p hfirst _ ih =>
    have hmoved : Piece.first (bytes + offset) c cs = .ok p := by
      rw [Piece.first_add, hfirst]
      rfl
    rw [scan_cons hmoved, Nat.add_assoc, ih, Piece.located_add]
    cases scan (offset + byteLength p.chars) p.rest with
    | error v => rfl
    | ok ls => exact congrArg Except.ok List.map_append.symm

/-- A character that ends every word before it, and what it stands for itself: white space stands
for nothing, a paren, a comma or an operator symbol for a lexeme. -/
inductive Separates : Char → Option Lexeme → Prop
  | blank {c : Char} : isWhiteSpace c = true → Separates c none
  | openParen : Separates '(' (some .openParen)
  | closeParen : Separates ')' (some .closeParen)
  | comma : Separates ',' (some .comma)
  | operator {c : Char} : isOperatorSymbol c = true → Separates c (some (.operator c))

/-- A separator is no part of a word. -/
theorem Separates.isNamePart_eq_false {c : Char} {own : Option Lexeme} (h : Separates c own) :
    isNamePart c = false := by
  cases h with
  | blank hspace => exact isNamePart_eq_false_of_isWhiteSpace hspace
  | openParen => decide
  | closeParen => decide
  | comma => decide
  | operator hsymbol => exact isNamePart_eq_false_of_isOperatorSymbol hsymbol

/-- A separator is a piece of its own. -/
theorem Separates.first_eq {c : Char} {own : Option Lexeme} (h : Separates c own) (offset : Nat)
    (rest : List Char) : Piece.first offset c rest = .ok (.single c own rest) := by
  cases h with
  | blank hspace => rw [Piece.first, if_pos hspace]
  | openParen => rfl
  | closeParen => rfl
  | comma => rfl
  | operator hsymbol => exact Piece.first_operator hsymbol rest offset

/-- A text that begins with a separator is the separator and the rest of the text, moved by the
bytes of the separator. -/
theorem Separates.scan_cons_eq {c : Char} {own : Option Lexeme} (h : Separates c own)
    (offset : Nat) (rest : List Char) :
    scan offset (c :: rest) =
      (scan (offset + c.utf8Size) rest).map (own.toList.map (Located.mk offset) ++ ·) := by
  have hlocated :
      (Piece.single c own rest).located offset = own.toList.map (Located.mk offset) := by
    cases own <;> rfl
  rw [scan_cons (h.first_eq offset rest), hlocated]
  rfl

/-- **A text falls into parts at separators.** Two texts with a separator between them fail as the
left one does, if that is not scanned, and otherwise as the right one does, if that is not scanned.
If both are, the lexemes are those of the left one, then that of the separator at its own offset,
unless it is white space, then those of the right one. Everything on the right side stands as many
bytes further on as the left side and the separator have. -/
theorem ofText_append_separator (a b : String) {c : Char} {own : Option Lexeme}
    (hc : Separates c own) :
    ofText (a ++ String.singleton c ++ b) =
      match ofText a, ofText b with
      | .error v, _ => .error v
      | .ok _, .error v => .error (v.moved (a.utf8ByteSize + c.utf8Size))
      | .ok ls, .ok ms => .ok (ls ++ own.toList.map (Located.mk a.utf8ByteSize) ++
          ms.map (·.moved (a.utf8ByteSize + c.utf8Size))) := by
  have hstop : StopsAt isNamePart (c :: b.toList) := by
    intro d hd
    cases hd
    exact hc.isNamePart_eq_false
  have hbytes : byteLength a.toList = a.utf8ByteSize := by
    rw [← utf8ByteSize_ofList, String.ofList_toList]
  have htext : (a ++ String.singleton c ++ b).toList = a.toList ++ c :: b.toList := by simp
  have hright := scan_add (a.utf8ByteSize + c.utf8Size) 0 b.toList
  rw [Nat.add_zero] at hright
  rw [ofText, htext, scan_append hstop, Nat.zero_add, hbytes, hc.scan_cons_eq, hright]
  change (ofText a).bind _ = _
  cases ofText a with
  | error v => rfl
  | ok ls =>
    refine (map_append_map_append _ _ _).trans ?_
    change (((ofText b).map _).mapError _).map _ = _
    cases ofText b <;> rfl

/-- An operator of two bytes between a number and digits that go over into a name, between two
sides that both are not scanned, and behind a name that it keeps from being prolonged. -/
theorem ofText_append_separator_wide_operator :
    Separates '×' (some (.operator '×')) ∧
      ofText ("max(007" ++ String.singleton '×' ++ "9x") =
        .ok [⟨0, .ident "max"⟩, ⟨3, .openParen⟩, ⟨4, .number 7⟩, ⟨7, .operator '×'⟩, ⟨9, .number 9⟩,
          ⟨10, .ident "x"⟩] ∧
      ofText ("1 é" ++ String.singleton '×' ++ "99999999999999999999") =
        .error (.unexpectedCharacter 'é' 2) ∧
      ofText ("x1" ++ String.singleton '×' ++ "0 é") = .error (.unexpectedCharacter 'é' 6) := by
  have hc : Separates '×' (some (.operator '×')) := .operator (by decide +kernel)
  have hmax : ofText "max(007" = .ok [⟨0, .ident "max"⟩, ⟨3, .openParen⟩, ⟨4, .number 7⟩] := by
    decide +kernel
  have hnine : ofText "9x" = .ok [⟨0, .number 9⟩, ⟨1, .ident "x"⟩] := by decide +kernel
  have hone : ofText "1 é" = .error (.unexpectedCharacter 'é' 2) := by decide +kernel
  have hname : ofText "x1" = .ok [⟨0, .ident "x1"⟩] := by decide +kernel
  have hzero : ofText "0 é" = .error (.unexpectedCharacter 'é' 2) := by decide +kernel
  refine ⟨hc, ?_, ?_, ?_⟩
  · rw [ofText_append_separator _ _ hc, hmax, hnine]
    rfl
  · rw [ofText_append_separator _ _ hc, hone]
  · rw [ofText_append_separator _ _ hc, hname, hzero]
    rfl

end Lexeme

end Crosscheck
