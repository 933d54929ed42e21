import Crosscheck.Grammar.Call

/-!
# Shapes of expressions

The checker reads the lexemes of a text once from left to right. It keeps what it
saw last, how many groups are open, and a running tally of operands, operators,
calls and parens. A text is accepted when the lexemes alternate between operands
and operators, every call is sound, and all groups are closed; the final tally is
the shape of the expression.
-/

namespace Crosscheck

/-- The size of an expression, argument lists left out. -/
structure Shape where
  operands : Nat := 0
  operators : Nat := 0
  calls : Nat := 0
  openParens : Nat := 0
  closeParens : Nat := 0
  /-- The most groups open at once. -/
  maxDepth : Nat := 0
deriving DecidableEq

/-- What the checker saw last. A call and a closed group count as operands. -/
inductive LastSeen where
  | start
  | operand
  | operator
  | openParen
deriving DecidableEq

/-- The checker between two lexemes. -/
structure Progress where
  shape : Shape := {}
  /-- The number of groups that are open. -/
  depth : Nat := 0
  last : LastSeen := .start
deriving DecidableEq

namespace Progress

/-- After a number. -/
def operand (p : Progress) : Progress :=
  { p with shape := { p.shape with operands := p.shape.operands + 1 }, last := .operand }

/-- After an operator. -/
def operator (p : Progress) : Progress :=
  { p with shape := { p.shape with operators := p.shape.operators + 1 }, last := .operator }

/-- After a call. -/
def call (p : Progress) : Progress :=
  { p with shape := { p.shape with calls := p.shape.calls + 1 }, last := .operand }

/-- After the open paren of a group. -/
def openGroup (p : Progress) : Progress where
  shape := { p.shape with
    openParens := p.shape.openParens + 1
    maxDepth := max p.shape.maxDepth (p.depth + 1) }
  depth := p.depth + 1
  last := .openParen

/-- After the close paren of a group. -/
def closeGroup (p : Progress) : Progress where
  shape := { p.shape with closeParens := p.shape.closeParens + 1 }
  depth := p.depth - 1
  last := .operand

/-- What an operator at this place breaks, given what came before it. -/
def operatorViolation? (d : Dialect) (last : LastSeen) (symbol : Char) (offset : Nat) :
    Option Violation :=
  match last with
  | .start => some (.leadingOperator symbol)
  | .openParen => some (.operatorAfterOpenParen symbol offset)
  | .operator => some (.adjacentOperators symbol offset)
  | .operand => if d.operators.contains symbol then none else some (.unknownOperator symbol offset)

/-- What a close paren at this place breaks. -/
def closeViolation? (p : Progress) (offset : Nat) : Option Violation :=
  match p.last with
  | .openParen => some (.emptyGroup offset)
  | .operator => some (.operatorBeforeCloseParen offset)
  | .start | .operand => if p.depth = 0 then some (.unmatchedCloseParen offset) else none

/-- Reads one lexeme, and with a name the whole call. Yields the checker after it
and the lexemes that are left of `rest`. -/
def step (d : Dialect) (p : Progress) (l : Located) (rest : List Located) :
    Except CheckError (Progress × List Located) :=
  match l.lexeme with
  | .number _ =>
    if p.last = .operand then .error (.violation (.missingOperator l.offset))
    else .ok (p.operand, rest)
  | .operator symbol =>
    match operatorViolation? d p.last symbol l.offset with
    | some violation => .error (.violation violation)
    | none => .ok (p.operator, rest)
  | .openParen =>
    if p.last = .operand then .error (.violation (.missingOperator l.offset))
    else .ok (p.openGroup, rest)
  | .closeParen =>
    match p.closeViolation? l.offset with
    | some violation => .error (.violation violation)
    | none => .ok (p.closeGroup, rest)
  | .comma => .error (.violation (.strayComma l.offset))
  | .ident name =>
    if p.last = .operand then .error (.violation (.missingOperator l.offset))
    else (checkCall d name l.offset rest).map fun after => (p.call, after)

/-- A step leaves no more lexemes than there were after the one it read. -/
theorem length_le_of_step {d : Dialect} {p q : Progress} {l : Located}
    {rest after : List Located} (h : p.step d l rest = .ok (q, after)) :
    after.length ≤ rest.length := by
  unfold step at h
  split at h
  · split at h <;> cases h
    exact Nat.le_refl _
  · split at h <;> cases h
    exact Nat.le_refl _
  · split at h <;> cases h
    exact Nat.le_refl _
  · split at h <;> cases h
    exact Nat.le_refl _
  · cases h
  · split at h
    · cases h
    · rename_i name _ _
      cases hcall : checkCall d name l.offset rest with
      | error error => simp [hcall, Except.map] at h
      | ok _ =>
        simp only [hcall, Except.map, Except.ok.injEq, Prod.mk.injEq] at h
        exact h.2 ▸ Nat.le_of_lt (length_lt_of_checkCall hcall)

/-- Reads all the lexemes, up to the first error. -/
def run (d : Dialect) (p : Progress) (ls : List Located) : Except CheckError Progress :=
  match ls with
  | [] => .ok p
  | l :: rest =>
    match h : p.step d l rest with
    | .error error => .error error
    | .ok (q, after) =>
      have := length_le_of_step h
      run d q after
termination_by ls.length
decreasing_by
  simp only [List.length_cons]
  omega

/-- At the end of the text no operator may be last and no group may be open. -/
def finish (p : Progress) : Except CheckError Shape :=
  if p.last = .operator then .error (.violation .trailingOperator)
  else if p.depth ≠ 0 then
    .error (.violation (.unbalanced p.shape.openParens p.shape.closeParens))
  else .ok p.shape

end Progress

namespace Dialect

/-- The shape of a list of lexemes, or the first error from the left. -/
def checkLexemes (d : Dialect) (ls : List Located) : Except CheckError Shape :=
  if ls.isEmpty then .error (.violation .empty)
  else do (← Progress.run d {} ls).finish

/-- The shape of an expression of the dialect, or the first error. -/
def check (d : Dialect) (text : String) : Except CheckError Shape := do
  d.checkLexemes (← (Lexeme.ofText text).mapError .violation)

end Dialect

end Crosscheck
