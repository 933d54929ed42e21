/-!
# Sources of random words

A word source yields 32-bit and 64-bit words and moves on. Drawing a number with
equal odds may refuse words; `patience` bounds how many words in a row are tried
before the draw gives up, so that every draw ends. Nothing else is assumed of a
source: all laws of drawing hold for every source and every patience.
-/

namespace Crosscheck

/-- A state that yields random words. -/
class WordSource (σ : Type) where
  next32 : σ → UInt32 × σ
  next64 : σ → UInt64 × σ
  /-- How many words in a row a draw tries before it gives up. -/
  patience : σ → Nat

/-- The patience of the sources defined here. -/
def defaultPatience : Nat := 1000000

/-- A source given by its words. A 32-bit word is the low half of the next word. -/
structure Tape where
  /-- The word at each position, from 0. -/
  word : Nat → UInt64
  /-- The number of words taken. -/
  position : Nat := 0
  patience : Nat := defaultPatience

/-- The next word of the tape. -/
def Tape.next (t : Tape) : UInt64 × Tape :=
  (t.word t.position, { t with position := t.position + 1 })

instance : WordSource Tape where
  next32 t := (t.next.1.toUInt32, t.next.2)
  next64 t := t.next
  patience t := t.patience

end Crosscheck
