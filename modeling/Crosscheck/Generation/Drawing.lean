import Crosscheck.Expression.Draft
import Crosscheck.Generation.Error
import Crosscheck.Random.Sampling

/-!
# Drawing expressions

Slots are numbered from 1. Odd slots hold operands and even slots hold operators,
so an expression ends with the last odd slot below its length. All choices for a
slot are drawn first, in a fixed order, and then put into the draft; at the end
the draft is balanced.
-/

namespace Crosscheck

/-- An action that draws from a word source. -/
abbrev Drawing (σ : Type) := StateT σ (Except GenerationError)

namespace Drawing

variable {σ : Type}

/-- Fails when the source gave up. -/
def ofSample {α : Type} (sample : σ → Option (α × σ)) : Drawing σ α := fun s =>
  match sample s with
  | some drawn => .ok drawn
  | none => .error .sourceExhausted

/-- Repeats an action and collects what it yields. -/
def replicate {α : Type} (action : Drawing σ α) : Nat → Drawing σ (List α)
  | 0 => pure []
  | n + 1 => do
    let first ← action
    let rest ← replicate action n
    pure (first :: rest)

variable [WordSource σ]

/-- One element of a list with equal odds; an empty list is a fault. -/
def oneOf {α : Type} (items : List α) (ifEmpty : DialectFault) : Drawing σ α :=
  if items.isEmpty then throw (.dialect ifEmpty)
  else do
    let i ← ofSample (Sampling.index items.length)
    match items[i]? with
    | some item => pure item
    | none => throw (.dialect ifEmpty)

/-- A literal from a range. -/
def literal (r : LiteralRange) : Drawing σ Int64 := ofSample (Sampling.between r.min r.max)

/-- A fair coin. -/
def coin : Drawing σ Bool := fun s => .ok (Sampling.coin s)

end Drawing

namespace Dialect

open Drawing

variable {σ : Type} [WordSource σ]

/-- The choices for a call: the function, its first argument, and for a variadic
function the number of further arguments and each of them. -/
def drawCall (d : Dialect) : Drawing σ SlotDraw := do
  let name ← oneOf d.functions .noFunctions
  let first ← literal d.firstArgumentRange
  if d.isVariadic name && 0 < d.maxExtraArguments then
    let fewer ← ofSample (Sampling.below64 d.maxExtraArguments.toNat)
    let extra ← replicate (literal d.extraArgumentRange) (fewer + 1)
    pure (.call name first extra)
  else
    pure (.call name first [])

/-- The choices for a parenthesised operand: whether to close, then the operand. -/
def drawGroup (d : Dialect) : Drawing σ SlotDraw := do
  let close ← coin
  let n ← literal d.groupOperandRange
  pure (.group close n)

/-- The choices for one slot. -/
def drawSlot (d : Dialect) (slot : Nat) : Drawing σ SlotDraw :=
  if slot % 2 = 0 then
    SlotDraw.operator <$> oneOf d.operators .noOperators
  else do
    let category ← ofSample
      (Sampling.weighted [d.weights.call.toNat, d.weights.group.toNat, d.weights.operand.toNat])
    match category with
    | 0 => d.drawCall
    | 1 => d.drawGroup
    | 2 => SlotDraw.operand <$> literal d.operandRange
    | i => throw (.unknownCategory i)

/-- The last slot of an expression of the given length: the last odd number below it. -/
def lastSlot (length : Nat) : Nat := if length % 2 = 0 then length - 1 else length - 2

/-- Fills `count` slots of a draft, the first of them numbered `slot`. -/
def fillSlots (d : Dialect) : (count slot : Nat) → Draft → Drawing σ Draft
  | 0, _, draft => pure draft
  | count + 1, slot, draft => do
    let draw ← d.drawSlot slot
    d.fillSlots count (slot + 1) (draft.step draw)

/-- The tokens of a balanced expression of the given length. -/
def drawExpression (d : Dialect) (length : Nat) : Drawing σ (List Token) :=
  if length < minimumLength then throw (.lengthTooShort length)
  else do
    let draft ← d.fillSlots (lastSlot length) 1 .empty
    pure draft.balance.tokens.toList

/-- Refuses to draw from a dialect that is not usable. -/
def ready (d : Dialect) : Except GenerationError Unit :=
  d.validate.mapError .dialect

end Dialect

end Crosscheck
