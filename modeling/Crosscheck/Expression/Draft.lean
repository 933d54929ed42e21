import Crosscheck.Expression.Token

/-!
# Drafts of expressions

A draft is an expression under construction: the tokens so far, the number of
slots filled, and the numbers of parens opened and closed. All random choices for
a slot are made before it is filled, as a `SlotDraw`; filling a slot is a pure
function of the draft and the draw.
-/

namespace Crosscheck

/-- The choices made for one slot. -/
inductive SlotDraw where
  | operator (symbol : Char)
  | call (name : String) (first : Int64) (extra : List Int64)
  /-- A paren to close or to open. The operand follows an open paren, and stands
  before a close paren unless an operand is already there. -/
  | group (close : Bool) (operand : Int64)
  | operand (value : Int64)
deriving DecidableEq

/-- An expression under construction. -/
structure Draft where
  /-- The number of slots filled. -/
  position : Nat := 0
  opened : Nat := 0
  closed : Nat := 0
  tokens : Array Token := #[]
deriving DecidableEq

namespace Draft

/-- A draft without tokens. -/
def empty : Draft := {}

/-- Whether an open paren is left to close. -/
def canClose (d : Draft) : Bool := d.closed < d.opened

/-- The kind of the last token. -/
def lastKind? (d : Draft) : Option TokenKind := d.tokens.back?.map Token.kind

/-- Appends a token and counts it if it is a paren. -/
def push (d : Draft) (t : Token) : Draft :=
  match t with
  | .openParen => { d with opened := d.opened + 1, tokens := d.tokens.push t }
  | .closeParen => { d with closed := d.closed + 1, tokens := d.tokens.push t }
  | _ => { d with tokens := d.tokens.push t }

/-- Appends tokens from left to right. -/
def pushAll (d : Draft) (ts : List Token) : Draft := ts.foldl push d

/-- The tokens that a draw adds to the draft. A close with nothing to close opens
a paren instead. -/
def emitted (d : Draft) : SlotDraw → List Token
  | .operator c => [.operator c]
  | .call name first extra => [.call name (first :: extra)]
  | .group close n =>
    if close && d.canClose then
      if d.lastKind? = some .operand then [.closeParen] else [.operand n, .closeParen]
    else [.openParen, .operand n]
  | .operand n => [.operand n]

/-- Fills the next slot. -/
def step (d : Draft) (draw : SlotDraw) : Draft :=
  let next := d.pushAll (d.emitted draw)
  { next with position := next.position + 1 }

/-- The close parens that the draft lacks. -/
def closing (d : Draft) : List Token := List.replicate (d.opened - d.closed) .closeParen

/-- Closes every paren that is still open; the number of filled slots stays. -/
def balance (d : Draft) : Draft := d.pushAll d.closing

end Draft

end Crosscheck
