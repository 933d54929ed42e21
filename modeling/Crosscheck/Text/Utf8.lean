/-!
# Decoding UTF-8

Bytes are decoded without failing: each longest run of bytes that could begin a
character but does not make one becomes a single replacement character.
-/

namespace Crosscheck.Text

/-- The character that stands for bytes that are no text. -/
def replacement : Char := '\uFFFD'

/-- Whether a byte continues a character. -/
def isContinuation (b : UInt8) : Bool := 0x80 ≤ b && b ≤ 0xBF

/-- The number of bytes of the character that a byte begins, and the bounds of the
byte after it, which rule out overlong forms, surrogates and code points that are
too large. -/
def leadByte? (b : UInt8) : Option (Nat × UInt8 × UInt8) :=
  if b ≤ 0x7F then some (1, 0, 0)
  else if 0xC2 ≤ b && b ≤ 0xDF then some (2, 0x80, 0xBF)
  else if b = 0xE0 then some (3, 0xA0, 0xBF)
  else if b = 0xED then some (3, 0x80, 0x9F)
  else if 0xE1 ≤ b && b ≤ 0xEF then some (3, 0x80, 0xBF)
  else if b = 0xF0 then some (4, 0x90, 0xBF)
  else if 0xF1 ≤ b && b ≤ 0xF3 then some (4, 0x80, 0xBF)
  else if b = 0xF4 then some (4, 0x80, 0x8F)
  else none

/-- The code point written by the bytes of a well-formed character. -/
def codePoint : List UInt8 → Nat
  | [a] => a.toNat
  | [a, b] => a.toNat % 32 * 64 + b.toNat % 64
  | [a, b, c] => (a.toNat % 16 * 64 + b.toNat % 64) * 64 + c.toNat % 64
  | [a, b, c, d] => ((a.toNat % 8 * 64 + b.toNat % 64) * 64 + c.toNat % 64) * 64 + d.toNat % 64
  | _ => replacement.toNat

/-- The continuation bytes at hand, `n` at most. -/
def takeContinuations : Nat → List UInt8 → List UInt8
  | 0, _ => []
  | _, [] => []
  | n + 1, b :: bs => if isContinuation b then b :: takeContinuations n bs else []

/-- The bytes of the character at the front of a text, or as many of them as there
are, and whether they are all there. At least one byte is taken. -/
def frontBytes (b : UInt8) (bs : List UInt8) : List UInt8 × Bool :=
  match leadByte? b with
  | none => ([b], false)
  | some (length, low, high) =>
    if length = 1 then ([b], true)
    else
      match bs with
      | [] => ([b], false)
      | second :: rest =>
        if low ≤ second && second ≤ high then
          let bytes := b :: second :: takeContinuations (length - 2) rest
          (bytes, bytes.length == length)
        else ([b], false)

/-- The text of a list of bytes, `skip` of which belong to the character before. -/
def decodeFrom (skip : Nat) : List UInt8 → List Char
  | [] => []
  | b :: bs =>
    match skip with
    | n + 1 => decodeFrom n bs
    | 0 =>
      let (bytes, complete) := frontBytes b bs
      let c := if complete then Char.ofNat (codePoint bytes) else replacement
      c :: decodeFrom (bytes.length - 1) bs

/-- The text of a list of bytes. -/
def decodeLossy (bs : List UInt8) : List Char := decodeFrom 0 bs

/-- The text of a list of bytes that are all well-formed. -/
def decode? (bs : List UInt8) : Option String := String.fromUTF8? ⟨bs.toArray⟩

end Crosscheck.Text
