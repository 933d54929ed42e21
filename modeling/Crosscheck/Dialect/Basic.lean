/-!
# Dialects of arithmetic

A dialect fixes what a generated expression may be made of: its operators, its
functions, the ranges its literals are drawn from, and how often a slot becomes
a call, a parenthesised operand or a plain operand. The same dialect tells the
checker which expressions to accept.
-/

namespace Crosscheck

/-- A closed interval of 64-bit literals. -/
structure LiteralRange where
  min : Int64
  max : Int64
deriving DecidableEq, Inhabited

/-- Membership in the interval, both ends included. -/
def LiteralRange.contains (r : LiteralRange) (n : Int64) : Bool :=
  r.min ≤ n && n ≤ r.max

/-- What the literals of a range are used for. -/
inductive LiteralRole where
  /-- An operand that stands for itself. -/
  | operand
  /-- The operand drawn together with a paren. -/
  | groupOperand
  /-- The first argument of a call. -/
  | firstArgument
  /-- Every further argument of a call. -/
  | extraArgument
deriving DecidableEq

/-- The name of the role in messages. -/
def LiteralRole.name : LiteralRole → String
  | .operand => "operand"
  | .groupOperand => "parenthesised operand"
  | .firstArgument => "first argument"
  | .extraArgument => "extra argument"

/-- Relative frequencies of the three things an operand slot can become. -/
structure SlotWeights where
  call : UInt32 := 10
  group : UInt32 := 45
  operand : UInt32 := 45
deriving DecidableEq

/-- The sum of the weights, which may exceed 32 bits. -/
def SlotWeights.total (w : SlotWeights) : Nat :=
  w.call.toNat + w.group.toNat + w.operand.toNat

/-- The operators, functions, literals and frequencies of an arithmetic language. -/
structure Dialect where
  operators : List Char := ['+', '-', '*', '/']
  functions : List String := ["abs", "sqrt", "max", "min"]
  /-- The functions that take further arguments after the first. -/
  variadicFunctions : List String := ["max", "min"]
  operandRange : LiteralRange := ⟨1, 25⟩
  groupOperandRange : LiteralRange := ⟨1, 25⟩
  firstArgumentRange : LiteralRange := ⟨1, 9⟩
  extraArgumentRange : LiteralRange := ⟨-100, 100⟩
  /-- The most arguments a variadic call can have after its first. -/
  maxExtraArguments : UInt64 := 14
  weights : SlotWeights := {}
deriving DecidableEq

namespace Dialect

instance : Inhabited Dialect := ⟨{}⟩

/-- The range that literals of a role are drawn from. -/
def range (d : Dialect) : LiteralRole → LiteralRange
  | .operand => d.operandRange
  | .groupOperand => d.groupOperandRange
  | .firstArgument => d.firstArgumentRange
  | .extraArgument => d.extraArgumentRange

/-- Whether calls to `name` are in the dialect. -/
def isFunction (d : Dialect) (name : String) : Bool := d.functions.contains name

/-- Whether `name` takes further arguments after its first. -/
def isVariadic (d : Dialect) (name : String) : Bool := d.variadicFunctions.contains name

/-- The fewest arguments a call to `name` may have: a variadic call has at least
one extra argument, unless the dialect allows none. -/
def minArguments (d : Dialect) (name : String) : Nat :=
  if d.isVariadic name && 0 < d.maxExtraArguments then 2 else 1

/-- The most arguments a call to `name` may have. The number is a 64-bit word, and
there is none if the bound on extra arguments leaves no room for the first one. -/
def maxArguments (d : Dialect) (name : String) : Option Nat :=
  if d.isVariadic name then
    if 1 + d.maxExtraArguments.toNat < UInt64.size then some (1 + d.maxExtraArguments.toNat)
    else none
  else some 1

end Dialect

end Crosscheck
