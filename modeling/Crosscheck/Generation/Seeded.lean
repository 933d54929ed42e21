import Crosscheck.Generation.Drawing
import Crosscheck.Random.KeyStream

/-!
# Seeded generation

Each round of a run draws from a key stream of its own: that of the base seed plus
the number of the round, counted modulo 2^64. Rounds are therefore independent of
one another and of the order they are generated in.
-/

namespace Crosscheck

/-- The word source of a round. -/
def roundStream (seed : UInt64) (round : Nat) (patience : Nat := defaultPatience) : KeyStream :=
  KeyStream.ofSeed (seed + UInt64.ofNat round) patience

namespace Dialect

/-- The text of the expression of a given length for a round of a base seed. -/
def expression (d : Dialect) (length : Nat) (seed : UInt64) (round : Nat := 0)
    (patience : Nat := defaultPatience) : Except GenerationError String := do
  d.ready
  let (tokens, _) ← (d.drawExpression length).run (roundStream seed round patience)
  pure (Token.text tokens)

/-- The expressions of `count` rounds from round `first` on. -/
def expressionsFrom (d : Dialect) (length : Nat) (seed : UInt64)
    (patience : Nat := defaultPatience) :
    (count first : Nat) → Except GenerationError (List String)
  | 0, _ => .ok []
  | count + 1, first => do
    let text ← d.expression length seed first patience
    let rest ← d.expressionsFrom length seed patience count (first + 1)
    pure (text :: rest)

/-- The expressions of the rounds `0`, `1`, …, `rounds - 1`, or the failure of the
first round that fails. -/
def expressions (d : Dialect) (length : Nat) (seed : UInt64) (rounds : Nat)
    (patience : Nat := defaultPatience) : Except GenerationError (List String) :=
  d.expressionsFrom length seed patience rounds 0

end Dialect

end Crosscheck
