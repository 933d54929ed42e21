import Crosscheck.Dialect.Validity

/-!
# Failures of generation
-/

namespace Crosscheck

open Text

/-- The fewest slots an expression is made of: one operand slot, and the bound after it. -/
def minimumLength : Nat := 2

/-- Why no expression was generated. -/
inductive GenerationError where
  | dialect (fault : DialectFault)
  | lengthTooShort (length : Nat)
  /-- The weighted draw chose none of the kinds of slot. -/
  | unknownCategory (index : Nat)
  /-- The word source ran out of patience. -/
  | sourceExhausted
deriving DecidableEq

/-- The explanation shown for a failure. -/
def GenerationError.message : GenerationError → String
  | .dialect fault => fault.message
  | .lengthTooShort length =>
    String.join ["Expression length must be at least ", numeral minimumLength, ", got ",
      numeral length]
  | .unknownCategory index => String.join ["No slot category at index ", numeral index]
  | .sourceExhausted => "The word source refused too many words"

end Crosscheck
