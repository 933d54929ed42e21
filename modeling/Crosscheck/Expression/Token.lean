import Crosscheck.Text.Decimal

/-!
# Tokens of an expression

An expression is built as a list of tokens and written by writing the tokens one
after the other, with nothing between them. A whole call is one token.
-/

namespace Crosscheck

open Text

/-- One unit of a generated expression. -/
inductive Token where
  | operand (value : Int64)
  | operator (symbol : Char)
  | openParen
  | closeParen
  /-- A call with all its arguments and its own parens. -/
  | call (name : String) (arguments : List Int64)
deriving DecidableEq

/-- The kinds of token. -/
inductive TokenKind where
  | operand | operator | openParen | closeParen | call
deriving DecidableEq

namespace Token

/-- The kind of a token. -/
def kind : Token → TokenKind
  | .operand _ => .operand
  | .operator _ => .operator
  | .openParen => .openParen
  | .closeParen => .closeParen
  | .call .. => .call

/-- Arguments are separated by commas. -/
def argumentChars : List Int64 → List Char
  | [] => []
  | [n] => signedDecimal n
  | n :: rest => signedDecimal n ++ ',' :: argumentChars rest

/-- The written form of a token. -/
def chars : Token → List Char
  | .operand n => signedDecimal n
  | .operator c => [c]
  | .openParen => ['(']
  | .closeParen => [')']
  | .call name arguments => name.toList ++ '(' :: (argumentChars arguments ++ [')'])

/-- The written form of a list of tokens. -/
def text (tokens : List Token) : String := String.ofList (tokens.flatMap chars)

end Token

end Crosscheck
