import Crosscheck.Random.WordSource

/-!
# Drawing with equal odds

A word is scaled to a range by multiplying it with the size of the range: the
high half of the product is the number drawn, and the word is refused when the low
half lies beyond a zone that would favour some numbers. The zone of a single draw
is the size of the range shifted to the top of the word; that of a repeated draw is
the largest multiple of the size.
-/

namespace Crosscheck

namespace Sampling

/-- Scales a word of `bits` bits to a number below `size`, unless the rest of the
product lies beyond `zone`. -/
def scale? (bits size zone word : Nat) : Option Nat :=
  if word * size % Nat.pow 2 bits ≤ zone then some (word * size / Nat.pow 2 bits) else none

/-- The zone of a single draw: `size` shifted to fill the word, less one. -/
def shiftedZone (bits size : Nat) : Nat := size * Nat.pow 2 (bits - 1 - size.log2) - 1

/-- The zone of a repeated draw: the largest multiple of `size` words, less one. -/
def multipleZone (bits size : Nat) : Nat :=
  Nat.pow 2 bits - 1 - (Nat.pow 2 bits - size) % size

/-- The index drawn with the weights `w`: the number of partial sums, the last one
left out, that do not exceed the number drawn below the total. -/
def weightedIndex (weights : List Nat) (drawn : Nat) : Nat :=
  match weights with
  | [] | [_] => 0
  | w :: rest => if w ≤ drawn then weightedIndex rest (drawn - w) + 1 else 0

/-- Takes words until one is accepted, `patience` at most. -/
def untilAccepted {σ ω α : Type} (next : σ → ω × σ) (accept : ω → Option α) :
    Nat → σ → Option (α × σ)
  | 0, _ => none
  | patience + 1, s =>
    let (word, s) := next s
    match accept word with
    | some a => some (a, s)
    | none => untilAccepted next accept patience s

variable {σ : Type} [WordSource σ]

/-- Draws with 64-bit words. -/
def draw64 {α : Type} (accept : UInt64 → Option α) (s : σ) : Option (α × σ) :=
  untilAccepted WordSource.next64 accept (WordSource.patience s) s

/-- Draws with 32-bit words. -/
def draw32 {α : Type} (accept : UInt32 → Option α) (s : σ) : Option (α × σ) :=
  untilAccepted WordSource.next32 accept (WordSource.patience s) s

/-- A number below `size`, from 64-bit words. -/
def below64 (size : Nat) : σ → Option (Nat × σ) :=
  draw64 fun word => scale? 64 size (shiftedZone 64 size) word.toNat

/-- A number below `size`, from 32-bit words. -/
def below32 (size : Nat) : σ → Option (Nat × σ) :=
  draw32 fun word => scale? 32 size (shiftedZone 32 size) word.toNat

/-- A number below `size`, from the narrowest words that can count so far. -/
def index (size : Nat) : σ → Option (Nat × σ) :=
  if size < UInt32.size then below32 size else below64 size

/-- The total of weights. -/
def totalWeight : List Nat → Nat
  | [] => 0
  | w :: rest => w + totalWeight rest

/-- An index with odds as the weights, whose total fits a 32-bit word. -/
def weighted (weights : List Nat) : σ → Option (Nat × σ) :=
  let total := totalWeight weights
  draw32 fun word =>
    (scale? 32 total (multipleZone 32 total) word.toNat).map (weightedIndex weights)

/-- A fair coin: whether the word has its highest bit clear. -/
def coin (s : σ) : Bool × σ :=
  let (word, s) := WordSource.next64 s
  (word < 0x8000000000000000, s)

/-- An integer between two bounds, both included. The width of the interval is
counted modulo 2^64; a width of zero stands for all 64-bit integers. -/
def between (min max : Int64) (s : σ) : Option (Int64 × σ) :=
  let width := (max - min).toUInt64 + 1
  if width = 0 then
    let (word, s) := WordSource.next64 s
    some (word.toInt64, s)
  else
    (below64 width.toNat s).map fun (offset, s) => (min + (UInt64.ofNat offset).toInt64, s)

end Sampling

end Crosscheck
