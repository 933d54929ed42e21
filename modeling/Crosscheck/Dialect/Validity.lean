import Crosscheck.Dialect.Basic
import Crosscheck.Text.CharClass
import Crosscheck.Text.Message

/-!
# Usable dialects

A dialect is usable when everything drawn from it reads back as what was drawn:
operators are symbols of their own, function names are names, literals have a
numeral, and at least one kind of slot can be drawn. `Dialect.fault?` gives the
first reason why a dialect is not usable.
-/

namespace Crosscheck

open Text

/-- Why a dialect cannot be used. -/
inductive DialectFault where
  | noOperators
  | invalidOperator (symbol : Char)
  | invalidFunctionName (name : String)
  /-- Calls can be drawn, but there is no function to call. -/
  | noFunctions
  | unknownVariadicFunction (name : String)
  | invalidRange (role : LiteralRole) (range : LiteralRange)
  | negativeRange (role : LiteralRole) (min : Int64)
  | zeroWeights
  | weightsOverflow (total : Nat)
deriving DecidableEq

/-- The largest sum of slot weights. -/
def SlotWeights.maxTotal : Nat := 4294967295

/-- The explanation shown for a fault. -/
def DialectFault.message : DialectFault → String
  | .noOperators => "Operator set cannot be empty"
  | .invalidOperator symbol => String.join ["Invalid operator symbol: ", quoted symbol.toString]
  | .invalidFunctionName name => String.join ["Invalid function name: ", quoted name]
  | .noFunctions => "Function calls are enabled but the function set is empty"
  | .unknownVariadicFunction name =>
    String.join ["Variadic function ", quoted name, " is not in the function set"]
  | .invalidRange role range =>
    String.join ["Invalid ", role.name, " range: min=", signedNumeral range.min,
      ", max=", signedNumeral range.max]
  | .negativeRange role min =>
    String.join [role.name, " range must not contain negative values, got min=",
      signedNumeral min]
  | .zeroWeights => "Category weights must not all be zero"
  | .weightsOverflow total =>
    String.join ["Category weights sum to ", numeral total, ", more than ",
      numeral SlotWeights.maxTotal]

/-- A name is an ASCII letter or underscore, then letters, digits and underscores. -/
def isName (name : String) : Bool :=
  match name.toList with
  | [] => false
  | c :: rest => isNameStart c && rest.all isNamePart

/-- A range is usable when it is not empty and the absolute value of each of its
literals is itself a literal; the least 64-bit integer has no positive partner. -/
def LiteralRange.isUsable (r : LiteralRange) : Bool :=
  r.min ≤ r.max && r.min != Int64.minValue

namespace Dialect

/-- An operator set is not empty and holds operator symbols only. -/
def operatorFault? (d : Dialect) : Option DialectFault :=
  if d.operators.isEmpty then some .noOperators
  else (d.operators.find? (!isOperatorSymbol ·)).map .invalidOperator

/-- Functions have names, and variadic functions are functions. -/
def functionFault? (d : Dialect) : Option DialectFault :=
  (d.functions.find? (!isName ·)).map .invalidFunctionName <|>
    (d.variadicFunctions.find? (!d.isFunction ·)).map .unknownVariadicFunction

/-- All ranges are usable, and operands are not negative, since a minus sign in
front of an operand would read as an operator. -/
def rangeFault? (d : Dialect) : Option DialectFault :=
  ([LiteralRole.operand, .groupOperand, .firstArgument, .extraArgument].find?
      (fun role => !(d.range role).isUsable)).map
        (fun role => .invalidRange role (d.range role)) <|>
    ([LiteralRole.operand, .groupOperand].find? (fun role => (d.range role).min < 0)).map
      (fun role => .negativeRange role (d.range role).min)

/-- Some kind of slot can be drawn, and calls only if there is a function. -/
def weightFault? (d : Dialect) : Option DialectFault :=
  if d.weights.total = 0 then some .zeroWeights
  else if SlotWeights.maxTotal < d.weights.total then some (.weightsOverflow d.weights.total)
  else if 0 < d.weights.call && d.functions.isEmpty then some .noFunctions
  else none

/-- The first reason why the dialect cannot be used. -/
def fault? (d : Dialect) : Option DialectFault :=
  d.operatorFault? <|> d.functionFault? <|> d.rangeFault? <|> d.weightFault?

/-- Accepts usable dialects only. -/
def validate (d : Dialect) : Except DialectFault Unit :=
  match d.fault? with
  | some fault => .error fault
  | none => .ok ()

end Dialect

end Crosscheck
