import Crosscheck.Text.CharClass

/-!
# Disjoint character classes

Names and numbers are made of characters that are neither blanks nor operator symbols,
and a digit does not start a name. These facts decide which branch the scanner takes
for the first character of a lexeme, and where it stops.
-/

namespace Crosscheck.Text

/-- The ASCII letters by code point. -/
theorem isAlpha_iff_toNat {c : Char} :
    c.isAlpha = true ↔ (65 ≤ c.toNat ∧ c.toNat ≤ 90) ∨ (97 ≤ c.toNat ∧ c.toNat ≤ 122) := by
  have halpha : c.isAlpha = (c.isUpper || c.isLower) := rfl
  have hupper : c.isUpper = decide (65 ≤ c.val ∧ c.val ≤ 90) := rfl
  have hlower : c.isLower = (decide (97 ≤ c.val) && decide (c.val ≤ 122)) := rfl
  simp [halpha, hupper, hlower, UInt32.le_iff_toNat_le]

/-- The ASCII digits by code point. -/
theorem isDigit_iff_toNat {c : Char} : c.isDigit = true ↔ 48 ≤ c.toNat ∧ c.toNat ≤ 57 := by
  simp [Char.isDigit, UInt32.le_iff_toNat_le]

/-- Apart from the underscore, a name starts with a letter. -/
theorem isNameStart_iff_toNat {c : Char} :
    isNameStart c = true ↔
      (65 ≤ c.toNat ∧ c.toNat ≤ 90) ∨ (97 ≤ c.toNat ∧ c.toNat ≤ 122) ∨ c.toNat = 95 := by
  have hunderscore : c = '_' ↔ c.toNat = 95 := Char.toNat_inj.symm
  simp [isNameStart, isAlpha_iff_toNat, hunderscore, or_assoc]

/-- A name goes on with what may start it and with digits. -/
theorem isNamePart_iff {c : Char} :
    isNamePart c = true ↔ isNameStart c = true ∨ c.isDigit = true := by
  simp [isNamePart, isNameStart, Char.isAlphanum, or_right_comm]

/-- Between the blank and delete, no character is white space. -/
theorem isWhiteSpace_eq_false_of_toNat {c : Char} (hlow : 32 < c.toNat) (hhigh : c.toNat < 127) :
    isWhiteSpace c = false := by
  simp only [isWhiteSpace, inRanges, whiteSpaceRanges, List.any_cons, List.any_nil,
    Bool.or_eq_false_iff, Bool.and_eq_false_iff, decide_eq_false_iff_not, and_true, Nat.not_le]
  omega

/-- A character of a name is not white space. -/
theorem isWhiteSpace_eq_false_of_isNamePart {c : Char} (h : isNamePart c = true) :
    isWhiteSpace c = false := by
  rw [isNamePart_iff, isNameStart_iff_toNat, isDigit_iff_toNat] at h
  apply isWhiteSpace_eq_false_of_toNat <;> omega

/-- White space is no part of a name. -/
theorem isNamePart_eq_false_of_isWhiteSpace {c : Char} (h : isWhiteSpace c = true) :
    isNamePart c = false := by
  rw [Bool.eq_false_iff]
  intro hpart
  rw [isWhiteSpace_eq_false_of_isNamePart hpart] at h
  cases h

/-- A character of a name is not a paren or a comma. -/
theorem ne_of_isNamePart {c : Char} (h : isNamePart c = true) : c ≠ '(' ∧ c ≠ ')' ∧ c ≠ ',' := by
  refine ⟨?_, ?_, ?_⟩ <;> rintro rfl <;> exact absurd h (by decide)

/-- A digit does not start a name. -/
theorem isDigit_eq_false_of_isNameStart {c : Char} (h : isNameStart c = true) :
    c.isDigit = false := by
  rw [isNameStart_iff_toNat] at h
  rw [← Bool.not_eq_true, isDigit_iff_toNat]
  omega

/-- An operator symbol is no part of a name. -/
theorem isNamePart_eq_false_of_isOperatorSymbol {c : Char} (h : isOperatorSymbol c = true) :
    isNamePart c = false := by
  simp only [isOperatorSymbol, Bool.not_eq_true', Bool.or_eq_false_iff] at h
  obtain ⟨halphanumeric, -, -, hother⟩ := h
  have halphanum : c.isAlphanum = false := by
    rw [Bool.eq_false_iff]
    intro hc
    simp [isAlphanumeric_of_isAlphanum hc] at halphanumeric
  have hunderscore : c ≠ '_' := by
    rintro rfl
    simp at hother
  simp [isNamePart, halphanum, hunderscore]

/-- An operator symbol is not white space. -/
theorem isWhiteSpace_eq_false_of_isOperatorSymbol {c : Char} (h : isOperatorSymbol c = true) :
    isWhiteSpace c = false := by
  simp only [isOperatorSymbol, Bool.not_eq_true', Bool.or_eq_false_iff] at h
  exact h.2.1

/-- An operator symbol is not a paren or a comma. -/
theorem ne_of_isOperatorSymbol {c : Char} (h : isOperatorSymbol c = true) :
    c ≠ '(' ∧ c ≠ ')' ∧ c ≠ ',' := by
  refine ⟨?_, ?_, ?_⟩ <;> rintro rfl <;> exact absurd h (by decide)

end Crosscheck.Text
