/-!
# Double-precision numbers

A number of the IEEE 754 binary64 format is its 64 bits. Every finite magnitude is
a whole multiple of the least positive number, 2^-1074, so arithmetic on finite
numbers is arithmetic on natural numbers followed by one rounding to nearest, ties
to even. The bits of a magnitude, read as a natural number, grow with it.
-/

namespace Crosscheck

/-- A double-precision number. -/
structure Binary64 where
  bits : UInt64
deriving DecidableEq, Inhabited

namespace Binary64

/-- The bits without the sign. -/
def magnitudeBits (x : Binary64) : Nat := x.bits.toNat % Nat.pow 2 63

/-- Whether the sign bit is set. -/
def isNegative (x : Binary64) : Bool := Nat.pow 2 63 ≤ x.bits.toNat

/-- The bits of infinity. All magnitudes above are no numbers. -/
def infinityBits : Nat := 2047 * Nat.pow 2 52

/-- Whether the bits stand for no number. -/
def isNaN (x : Binary64) : Bool := infinityBits < x.magnitudeBits

/-- Whether the number is infinite. -/
def isInfinite (x : Binary64) : Bool := x.magnitudeBits == infinityBits

/-- Whether the number is finite. -/
def isFinite (x : Binary64) : Bool := x.magnitudeBits < infinityBits

/-- The number with the given sign and magnitude bits. -/
def ofParts (negative : Bool) (magnitude : Nat) : Binary64 :=
  ⟨UInt64.ofNat (magnitude % Nat.pow 2 63 + if negative then Nat.pow 2 63 else 0)⟩

/-- A quiet value that is no number. -/
def nan : Binary64 := ofParts false (infinityBits + Nat.pow 2 51)

/-- The infinity of a sign. -/
def infinity (negative : Bool) : Binary64 := ofParts negative infinityBits

/-- The zero of a sign. -/
def zero (negative : Bool) : Binary64 := ofParts negative 0

/-- How many units of 2^-1074 the magnitude with the given bits has. Below 2^52 there
is one unit a step; each further 2^52 steps double the step. -/
def unitsOfBits (magnitude : Nat) : Nat :=
  if magnitude < Nat.pow 2 52 then magnitude
  else (Nat.pow 2 52 + magnitude % Nat.pow 2 52) * Nat.pow 2 (magnitude / Nat.pow 2 52 - 1)

/-- The magnitude of a finite number in units of 2^-1074. -/
def units (x : Binary64) : Nat := unitsOfBits x.magnitudeBits

/-- A whole number that orders the numbers other than NaN; both zeros have rank 0. -/
def rank (x : Binary64) : Int :=
  if x.isNegative then -(x.magnitudeBits : Int) else x.magnitudeBits

/-- Less than or equal. NaN is related to nothing. -/
def le (x y : Binary64) : Bool := !x.isNaN && !y.isNaN && x.rank ≤ y.rank

/-- Equality of numbers: zeros are equal whatever their sign, NaN to nothing. -/
def eq (x y : Binary64) : Bool := !x.isNaN && !y.isNaN && x.rank == y.rank

/-- The quotient of two natural numbers rounded to the nearest natural number, a half
to the even neighbour. -/
def roundHalfEven (num den : Nat) : Nat :=
  let quotient := num / den
  let rest := num % den
  if 2 * rest < den then quotient
  else if den < 2 * rest then quotient + 1
  else quotient + quotient % 2

/-- The magnitude bits nearest to `num / den` units. The step is one unit as long as
the quotient has at most 53 binary digits, and doubles with each further digit. -/
def nearestBits (num den : Nat) : Nat :=
  let doublings := (num / den).log2 - 52
  min infinityBits (doublings * Nat.pow 2 52 + roundHalfEven num (den * Nat.pow 2 doublings))

/-- The number nearest to `num / den` units. -/
def nearest (negative : Bool) (num den : Nat) : Binary64 :=
  ofParts negative (nearestBits num den)

/-- How far two finite numbers are apart. -/
def distance (x y : Binary64) : Binary64 :=
  let signed (z : Binary64) : Int := if z.isNegative then -(z.units : Int) else z.units
  nearest false (signed x - signed y).natAbs 1

/-- The magnitude of a number, as a number. -/
def abs (x : Binary64) : Binary64 := ofParts false x.magnitudeBits

/-- The product of two numbers. -/
def mul (x y : Binary64) : Binary64 :=
  let negative := x.isNegative != y.isNegative
  if x.isNaN || y.isNaN then nan
  else if x.isInfinite || y.isInfinite then
    if x.magnitudeBits = 0 || y.magnitudeBits = 0 then nan else infinity negative
  else nearest negative (x.units * y.units) (Nat.pow 2 1074)

end Binary64

end Crosscheck
