import Crosscheck.Random.WordSource

/-!
# The seeded key stream

The words for a seed are those of the ChaCha stream cipher with twelve rounds, a
64-bit block counter and a zero nonce. The 256-bit key is spread from the 64-bit
seed by a permuted congruential generator, so that neighbouring seeds give
unrelated streams.
-/

namespace Crosscheck

/-- The cipher's state: sixteen 32-bit words. -/
abbrev CipherState := Vector UInt32 16

namespace CipherState

/-- Rotation to the left by `k` places, for `0 < k < 32`. -/
def rotateLeft (x : UInt32) (k : UInt32) : UInt32 := (x <<< k) ||| (x >>> (32 - k))

/-- Half of a quarter round: add `b` to `a`, mix into `d`, and rotate `d` by `k`. -/
def addMix (s : CipherState) (a b d : Fin 16) (k : UInt32) : CipherState :=
  let s := s.set a (s[a] + s[b])
  s.set d (rotateLeft (s[d] ^^^ s[a]) k)

/-- The quarter round on four of the state's words. -/
def quarterRound (s : CipherState) (a b c d : Fin 16) : CipherState :=
  (((s.addMix a b d 16).addMix c d b 12).addMix a b d 8).addMix c d b 7

/-- A round on the columns and a round on the diagonals. -/
def doubleRound (s : CipherState) : CipherState :=
  let s := s.quarterRound 0 4 8 12
  let s := s.quarterRound 1 5 9 13
  let s := s.quarterRound 2 6 10 14
  let s := s.quarterRound 3 7 11 15
  let s := s.quarterRound 0 5 10 15
  let s := s.quarterRound 1 6 11 12
  let s := s.quarterRound 2 7 8 13
  s.quarterRound 3 4 9 14

/-- The first state of a block: the cipher's constants, the key, the counter with
its low half first, and a zero nonce. -/
def initial (key : Vector UInt32 8) (counter : UInt64) : CipherState :=
  #v[0x61707865, 0x3320646e, 0x79622d32, 0x6b206574,
    key[0], key[1], key[2], key[3], key[4], key[5], key[6], key[7],
    counter.toUInt32, (counter >>> 32).toUInt32, 0, 0]

/-- One block of the stream: six double rounds, added to the state they began with. -/
def block (key : Vector UInt32 8) (counter : UInt64) : CipherState :=
  let start := initial key counter
  Vector.zipWith (· + ·) start (Nat.repeat doubleRound 6 start)

end CipherState

/-- A position in the words of a key. -/
structure KeyStream where
  key : Vector UInt32 8
  /-- The number of the block after the current one. -/
  counter : UInt64 := 0
  /-- The words of the current block that are not yet taken. -/
  pending : List UInt32 := []
  patience : Nat := defaultPatience

namespace KeyStream

/-- One step of the generator that spreads a seed: the new state and its output. -/
def spread (state : UInt64) : UInt32 × UInt64 :=
  let state := state * 6364136223846793005 + 11634580027462260723
  let mixed := (((state >>> 18) ^^^ state) >>> 27).toUInt32
  let turn := (state >>> 59).toUInt32
  ((mixed >>> turn) ||| (mixed <<< ((32 - turn) % 32)), state)

/-- The first `n` words spread from a seed. -/
def spreadWords : Nat → UInt64 → List UInt32
  | 0, _ => []
  | n + 1, seed => (spread seed).1 :: spreadWords n (spread seed).2

/-- As many words are spread as are asked for. -/
@[simp] theorem length_spreadWords (n : Nat) (seed : UInt64) :
    (spreadWords n seed).length = n := by
  induction n generalizing seed with
  | zero => rfl
  | succ n ih => simp [spreadWords, ih]

/-- The key for a seed. -/
def keyOfSeed (seed : UInt64) : Vector UInt32 8 :=
  ⟨(spreadWords 8 seed).toArray, by simp⟩

/-- The beginning of the stream for a seed. -/
def ofSeed (seed : UInt64) (patience : Nat := defaultPatience) : KeyStream :=
  { key := keyOfSeed seed, patience }

/-- The next word, from the next block once the current one is used up. -/
def next32 (s : KeyStream) : UInt32 × KeyStream :=
  match s.pending with
  | word :: rest => (word, { s with pending := rest })
  | [] =>
    let block := CipherState.block s.key s.counter
    (block[0], { s with counter := s.counter + 1, pending := block.toList.tail })

/-- Two words, the first being the low half. -/
def next64 (s : KeyStream) : UInt64 × KeyStream :=
  let (low, s) := s.next32
  let (high, s) := s.next32
  (low.toUInt64 ||| (high.toUInt64 <<< 32), s)

instance : WordSource KeyStream where
  next32 := next32
  next64 := next64
  patience := KeyStream.patience

end KeyStream

end Crosscheck
