import Crosscheck.Binary64.Basic
import Crosscheck.Text.Decimal

/-!
# The shortest digits

A finite number is written with the fewest digits that read back as the same
number, and of those with the digits nearest to it. All numbers between the
midpoints to its two neighbours read back as it, the midpoints included when its
last bit is zero. Coarser and coarser decimal grids are ruled out from above: the
first grid with a point between the midpoints gives the digits.
-/

namespace Crosscheck.Binary64

open Text

/-- A decimal number `digits * 10 ^ exponent`. -/
structure DecimalForm where
  digits : Nat
  exponent : Int
deriving DecidableEq

/-- Where an exact tie between two shortest forms goes. -/
inductive TieRule where
  | up
  | even
deriving DecidableEq

/-- The best point of the grid of multiples of `10 ^ exponent` for the magnitude with
the given bits, if there is one that reads back as it. All quantities are scaled to
half units and, for negative exponents, by a power of ten. -/
def gridPoint? (tie : TieRule) (bits : Nat) (exponent : Int) : Option Nat :=
  let scale := Nat.pow 10 (-exponent).toNat
  let spacing := Nat.pow 10 exponent.toNat * Nat.pow 2 1075
  let value := 2 * unitsOfBits bits * scale
  let low := (unitsOfBits bits + unitsOfBits (bits - 1)) * scale
  let high := (unitsOfBits bits + unitsOfBits (bits + 1)) * scale
  let inside (p : Nat) : Bool :=
    if bits % 2 = 0 then low ≤ p * spacing && p * spacing ≤ high
    else low < p * spacing && p * spacing < high
  let below := value / spacing
  let above := below + 1
  match inside below, inside above with
  | true, true =>
    let down := value - below * spacing
    let up := above * spacing - value
    if down < up then some below
    else if up < down then some above
    else
      match tie with
      | .up => some above
      | .even => some (if below % 2 = 0 then below else above)
  | true, false => some below
  | false, true => some above
  | false, false => none

/-- Tries grids of falling exponent. -/
def finestGrid (tie : TieRule) (bits : Nat) : (grids : Nat) → Int → DecimalForm
  | 0, exponent => ⟨0, exponent⟩
  | grids + 1, exponent =>
    match gridPoint? tie bits exponent with
    | some digits => ⟨digits, exponent⟩
    | none => finestGrid tie bits grids (exponent - 1)

/-- The shortest form of a positive finite magnitude. The first grid tried is coarser
than the magnitude, by at most three powers of ten; 17 digits are always enough. -/
def shortest (tie : TieRule) (bits : Nat) : DecimalForm :=
  let binaryPlaces : Int := ((unitsOfBits bits).log2 : Int) - 1074
  finestGrid tie bits 24 (binaryPlaces * 30103 / 100000 + 2)

/-- A decimal number without an exponent and without needless zeros. -/
def DecimalForm.positional (d : DecimalForm) : List Char :=
  let digits := decimal d.digits
  if 0 ≤ d.exponent then digits ++ List.replicate d.exponent.toNat '0'
  else
    let places := (-d.exponent).toNat
    if places < digits.length then
      digits.take (digits.length - places) ++ '.' :: digits.drop (digits.length - places)
    else '0' :: '.' :: (List.replicate (places - digits.length) '0' ++ digits)

/-- The written form of a number: its shortest digits, ties going up, in positional
notation. Zero keeps its sign. -/
def text (x : Binary64) : String :=
  let sign := if x.isNegative then ['-'] else []
  if x.isNaN then "NaN"
  else if x.isInfinite then String.ofList (sign ++ ['i', 'n', 'f'])
  else if x.magnitudeBits = 0 then String.ofList (sign ++ ['0'])
  else String.ofList (sign ++ (shortest .up x.magnitudeBits).positional)

end Crosscheck.Binary64
