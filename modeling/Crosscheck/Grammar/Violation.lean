import Crosscheck.Text.Message

/-!
# Violations

What can be wrong with a text that should be an expression. Offsets count bytes of
the text in UTF-8. A check can also break off without saying anything about the text.
-/

namespace Crosscheck

open Text

/-- The rule that a text breaks. -/
inductive Violation where
  | empty
  | unexpectedCharacter (found : Char) (offset : Nat)
  | numberOutOfRange (offset : Nat)
  | leadingOperator (symbol : Char)
  | trailingOperator
  | operatorAfterOpenParen (symbol : Char) (offset : Nat)
  | adjacentOperators (symbol : Char) (offset : Nat)
  | operatorBeforeCloseParen (offset : Nat)
  | emptyGroup (offset : Nat)
  | missingOperator (offset : Nat)
  | unknownOperator (symbol : Char) (offset : Nat)
  | unmatchedCloseParen (offset : Nat)
  | unbalanced (opened closed : Nat)
  | strayComma (offset : Nat)
  | unknownFunction (name : String) (offset : Nat)
  | callMissingOpenParen (name : String) (offset : Nat)
  | emptyArgumentList (name : String) (offset : Nat)
  | malformedArgument (name : String) (offset : Nat)
  | unclosedCall (name : String) (offset : Nat)
  | arityMismatch (name : String) (count min max : Nat)
deriving DecidableEq

namespace Violation

/-- The explanation shown for a violation. -/
def message : Violation → String
  | .empty => "Expression is empty"
  | .unexpectedCharacter c offset =>
    String.join ["Unexpected character ", quoted c.toString, " at offset ", numeral offset]
  | .numberOutOfRange offset =>
    String.join ["Integer literal out of range at offset ", numeral offset]
  | .leadingOperator c => String.join ["Expression starts with operator ", quoted c.toString]
  | .trailingOperator => "Expression ends with an operator"
  | .operatorAfterOpenParen c offset =>
    String.join ["Operator ", quoted c.toString, " at offset ", numeral offset,
      " directly follows an open paren"]
  | .adjacentOperators c offset =>
    String.join ["Operator ", quoted c.toString, " at offset ", numeral offset,
      " directly follows another operator"]
  | .operatorBeforeCloseParen offset =>
    String.join ["Close paren at offset ", numeral offset, " directly follows an operator"]
  | .emptyGroup offset => String.join ["Empty parentheses at offset ", numeral offset]
  | .missingOperator offset => String.join ["Missing operator before offset ", numeral offset]
  | .unknownOperator c offset =>
    String.join ["Unknown operator ", quoted c.toString, " at offset ", numeral offset]
  | .unmatchedCloseParen offset =>
    String.join ["Close paren at offset ", numeral offset, " has no matching open paren"]
  | .unbalanced opened closed =>
    String.join ["Unbalanced parentheses: ", numeral opened, " open, ", numeral closed, " close"]
  | .strayComma offset => String.join ["Stray comma at offset ", numeral offset]
  | .unknownFunction name offset =>
    String.join ["Unknown function ", quoted name, " at offset ", numeral offset]
  | .callMissingOpenParen name offset =>
    String.join ["Function ", quoted name, " at offset ", numeral offset, " is not followed by '('"]
  | .emptyArgumentList name offset =>
    String.join ["Function ", quoted name, " at offset ", numeral offset,
      " has an empty argument list"]
  | .malformedArgument name offset =>
    String.join ["Malformed argument in call to ", quoted name, " at offset ", numeral offset]
  | .unclosedCall name offset =>
    String.join ["Call to ", quoted name, " at offset ", numeral offset, " is never closed"]
  | .arityMismatch name count min max =>
    String.join ["Call to ", quoted name, " has ", numeral count, " arguments, expected ",
      numeral min, " to ", numeral max]

end Violation

/-- Why a check yields no shape. -/
inductive CheckError where
  /-- The text breaks a rule. -/
  | violation (violation : Violation)
  /-- The greatest number of arguments of a call is no 64-bit word, and the check breaks off. -/
  | overflow
deriving DecidableEq

end Crosscheck
