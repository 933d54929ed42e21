import Crosscheck.Text.AlphanumericRanges

/-!
# Character classes

The classes that decide how expression text is split: white space, control
characters, letters and numbers of any script, and the ASCII characters a name
is made of. `Char.isWhitespace` and `Char.isAlphanum` of the core library know
ASCII only, so the wider classes are given here by code point.
-/

namespace Crosscheck.Text

/-- Whether the code point of a character lies in one of the given closed intervals. -/
def inRanges (ranges : List (Nat × Nat)) (c : Char) : Bool :=
  ranges.any fun r => r.1 ≤ c.toNat && c.toNat ≤ r.2

/-- The Unicode property `White_Space`: 25 code points. -/
def whiteSpaceRanges : List (Nat × Nat) := [
  (0x9, 0xD), (0x20, 0x20), (0x85, 0x85), (0xA0, 0xA0), (0x1680, 0x1680), (0x2000, 0x200A),
  (0x2028, 0x2029), (0x202F, 0x202F), (0x205F, 0x205F), (0x3000, 0x3000)]

/-- White space of any script. -/
def isWhiteSpace (c : Char) : Bool := inRanges whiteSpaceRanges c

/-- The general category Cc: the C0 controls, delete, and the C1 controls. -/
def isControl (c : Char) : Bool := inRanges [(0x0, 0x1F), (0x7F, 0x9F)] c

/-- A letter or a number of any script. -/
def isAlphanumeric (c : Char) : Bool :=
  c.isAlphanum || (0x80 ≤ c.toNat && inRanges alphanumericRanges c)

/-- A name starts with an ASCII letter or an underscore. -/
def isNameStart (c : Char) : Bool := c.isAlpha || c == '_'

/-- A name goes on with ASCII letters, ASCII digits and underscores. -/
def isNamePart (c : Char) : Bool := c.isAlphanum || c == '_'

/-- A character that stands for an operator by itself: neither part of a name of
any script, nor blank, nor a control, nor the decimal point, a paren or a comma. -/
def isOperatorSymbol (c : Char) : Bool :=
  !(isAlphanumeric c || (isWhiteSpace c || (isControl c || ['_', '.', '(', ')', ','].contains c)))

/-- ASCII letters and digits are letters and numbers here. -/
theorem isAlphanumeric_of_isAlphanum {c : Char} (h : c.isAlphanum = true) :
    isAlphanumeric c = true := by
  simp [isAlphanumeric, h]

/-- A character that starts a name also continues one. -/
theorem isNamePart_of_isNameStart {c : Char} (h : isNameStart c = true) :
    isNamePart c = true := by
  simp only [isNameStart, isNamePart, Char.isAlphanum, Bool.or_eq_true] at h ⊢
  exact h.imp_left Or.inl

end Crosscheck.Text
