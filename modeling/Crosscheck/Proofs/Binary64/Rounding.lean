import Crosscheck.Binary64.Basic
import Mathlib.Algebra.Group.Nat.Defs
import Mathlib.Data.Nat.Log
import Mathlib.Tactic.SplitIfs

/-!
# The order of rounded numbers

Arithmetic on double-precision numbers is exact arithmetic on natural numbers with one rounding at
the end. This file proves that rounding keeps the order, across the places where the step doubles
and up to infinity, and that the bits of a magnitude grow with what they stand for. A product with
a factor that is not negative therefore grows with the other factor.
-/

namespace Crosscheck.Binary64

/-- The rounded quotient, with its three cases. -/
theorem roundHalfEven_eq (num den : Nat) : roundHalfEven num den =
    if 2 * (num % den) < den then num / den
    else if den < 2 * (num % den) then num / den + 1
    else num / den + num / den % 2 := rfl

/-- Rounding leads to one of the two natural numbers around the quotient. -/
theorem roundHalfEven_bounds (num den : Nat) :
    num / den ≤ roundHalfEven num den ∧ roundHalfEven num den ≤ num / den + 1 := by
  rw [roundHalfEven_eq]
  split_ifs <;> omega

/-- Rounding keeps the order of quotients with one denominator. -/
theorem roundHalfEven_mono {num num' : Nat} (h : num ≤ num') (den : Nat) :
    roundHalfEven num den ≤ roundHalfEven num' den := by
  have hquotient : num / den ≤ num' / den := Nat.div_le_div_right h
  by_cases heq : num / den = num' / den
  · have hrest : num % den ≤ num' % den := by
      have hnum := Nat.div_add_mod num den
      have hnum' := Nat.div_add_mod num' den
      rw [heq] at hnum
      omega
    rw [roundHalfEven_eq, roundHalfEven_eq, heq]
    split_ifs <;> omega
  · have hlow := (roundHalfEven_bounds num den).2
    have hhigh := (roundHalfEven_bounds num' den).1
    omega

/-- How often the step has doubled at a quotient. -/
def doublings (quotient : Nat) : Nat := quotient.log2 - 52

/-- The nearest magnitude: the bits of the doublings, and the rounded number of steps. -/
theorem nearestBits_eq (num den : Nat) : nearestBits num den =
    min infinityBits (doublings (num / den) * 2 ^ 52 +
      roundHalfEven num (den * 2 ^ doublings (num / den))) := rfl

/-- The step of a larger quotient is not smaller. -/
theorem doublings_mono {quotient quotient' : Nat} (h : quotient ≤ quotient') :
    doublings quotient ≤ doublings quotient' := by
  unfold doublings
  rw [Nat.log2_eq_log_two, Nat.log2_eq_log_two]
  exact Nat.sub_le_sub_right (Nat.log_mono_right h) 52

/-- A quotient has less than `2 ^ 53` of its steps. -/
theorem div_two_pow_doublings_lt (quotient : Nat) :
    quotient / 2 ^ doublings quotient < 2 ^ 53 := by
  rw [Nat.div_lt_iff_lt_mul (Nat.two_pow_pos _), ← Nat.pow_add]
  apply lt_of_lt_of_le Nat.lt_log2_self
  apply Nat.pow_le_pow_right Nat.two_pos
  unfold doublings
  omega

/-- Once the step has doubled, a quotient has at least `2 ^ 52` of its steps. -/
theorem two_pow_le_div_two_pow_doublings {quotient : Nat} (h : 0 < doublings quotient) :
    2 ^ 52 ≤ quotient / 2 ^ doublings quotient := by
  have hlog : quotient.log2 = 52 + doublings quotient := by
    unfold doublings at h ⊢
    omega
  have hne : quotient ≠ 0 := by
    rintro rfl
    exact absurd h (by decide)
  rw [Nat.le_div_iff_mul_le (Nat.two_pow_pos _), ← Nat.pow_add, ← hlog]
  exact Nat.log2_self_le hne

/-- **Rounding to magnitudes keeps the order.** Where the step doubles, the greatest magnitude of
the smaller step is not above the least one of the larger step. -/
theorem nearestBits_mono {num num' : Nat} (h : num ≤ num') (den : Nat) :
    nearestBits num den ≤ nearestBits num' den := by
  have hdoublings := doublings_mono (Nat.div_le_div_right h : num / den ≤ num' / den)
  rw [nearestBits_eq, nearestBits_eq]
  suffices hbits : doublings (num / den) * 2 ^ 52 +
      roundHalfEven num (den * 2 ^ doublings (num / den)) ≤
      doublings (num' / den) * 2 ^ 52 +
        roundHalfEven num' (den * 2 ^ doublings (num' / den)) by
    omega
  by_cases heq : doublings (num / den) = doublings (num' / den)
  · rw [heq]
    exact Nat.add_le_add_left (roundHalfEven_mono h _) _
  · have hlow := (roundHalfEven_bounds num (den * 2 ^ doublings (num / den))).2
    have hhigh := (roundHalfEven_bounds num' (den * 2 ^ doublings (num' / den))).1
    rw [← Nat.div_div_eq_div_mul] at hlow hhigh
    have hfew := div_two_pow_doublings_lt (num / den)
    have hmany : 2 ^ 52 ≤ num' / den / 2 ^ doublings (num' / den) :=
      two_pow_le_div_two_pow_doublings (by omega)
    omega

/-- What is rounded to nothing. -/
theorem nearestBits_zero (den : Nat) : nearestBits 0 den = 0 := by
  rw [nearestBits_eq, roundHalfEven_eq]
  simp [doublings]

/-- The units of a magnitude, with its two cases. -/
theorem unitsOfBits_eq (bits : Nat) : unitsOfBits bits =
    if bits < 2 ^ 52 then bits
    else (2 ^ 52 + bits % 2 ^ 52) * 2 ^ (bits / 2 ^ 52 - 1) := rfl

/-- Magnitudes with larger bits are larger. -/
theorem unitsOfBits_mono {bits bits' : Nat} (h : bits ≤ bits') :
    unitsOfBits bits ≤ unitsOfBits bits' := by
  rw [unitsOfBits_eq, unitsOfBits_eq]
  by_cases hsmall : bits < 2 ^ 52
  · rw [if_pos hsmall]
    by_cases hsmall' : bits' < 2 ^ 52
    · rwa [if_pos hsmall']
    · rw [if_neg hsmall']
      have hpos := Nat.le_mul_of_pos_right (2 ^ 52 + bits' % 2 ^ 52)
        (Nat.two_pow_pos (bits' / 2 ^ 52 - 1))
      omega
  · rw [if_neg hsmall, if_neg (by omega)]
    by_cases heq : bits / 2 ^ 52 = bits' / 2 ^ 52
    · rw [heq]
      apply Nat.mul_le_mul_right
      omega
    · have hpow : 2 ^ (bits / 2 ^ 52) ≤ 2 ^ (bits' / 2 ^ 52 - 1) :=
        Nat.pow_le_pow_right Nat.two_pos (by omega)
      calc (2 ^ 52 + bits % 2 ^ 52) * 2 ^ (bits / 2 ^ 52 - 1)
          ≤ 2 ^ 53 * 2 ^ (bits / 2 ^ 52 - 1) := Nat.mul_le_mul_right _ (by omega)
        _ = 2 ^ 52 * 2 ^ (bits / 2 ^ 52) := by
          rw [← Nat.pow_add, ← Nat.pow_add]
          congr 1
          omega
        _ ≤ (2 ^ 52 + bits' % 2 ^ 52) * 2 ^ (bits' / 2 ^ 52 - 1) :=
          Nat.mul_le_mul (by omega) hpow

variable {x y z : Binary64} {negative : Bool} {magnitude num den : Nat}

/-- The bits of a number made of a sign and a magnitude. -/
theorem toNat_bits_ofParts : (ofParts negative magnitude).bits.toNat =
    magnitude % 2 ^ 63 + if negative then 2 ^ 63 else 0 := by
  have hlt : magnitude % 2 ^ 63 + (if negative then 2 ^ 63 else 0) < 2 ^ 64 := by
    split <;> omega
  exact (UInt64.toNat_ofNat ..).trans (Nat.mod_eq_of_lt hlt)

/-- A number made of a sign and a magnitude has that magnitude. -/
theorem magnitudeBits_ofParts (h : magnitude < 2 ^ 63) :
    (ofParts negative magnitude).magnitudeBits = magnitude := by
  change (ofParts negative magnitude).bits.toNat % 2 ^ 63 = magnitude
  rw [toNat_bits_ofParts]
  split <;> omega

/-- A number made of a sign and a magnitude has that sign. -/
theorem isNegative_ofParts : (ofParts negative magnitude).isNegative = negative := by
  change decide (2 ^ 63 ≤ (ofParts negative magnitude).bits.toNat) = negative
  rw [toNat_bits_ofParts]
  cases negative with
  | false => exact decide_eq_false (by rw [if_neg Bool.false_ne_true]; omega)
  | true => exact decide_eq_true (by rw [if_pos rfl]; omega)

/-- The magnitude of a number fits beside its sign. -/
theorem magnitudeBits_lt (x : Binary64) : x.magnitudeBits < 2 ^ 63 :=
  Nat.mod_lt _ (Nat.two_pow_pos 63)

/-- Rounding reaches infinity at most. -/
theorem nearestBits_le (num den : Nat) : nearestBits num den ≤ infinityBits := Nat.min_le_left ..

/-- The magnitude of a rounded number. -/
theorem magnitudeBits_nearest : (nearest negative num den).magnitudeBits = nearestBits num den := by
  apply magnitudeBits_ofParts
  exact Nat.lt_of_le_of_lt (nearestBits_le num den) (by decide)

/-- The sign of a rounded number. -/
theorem isNegative_nearest : (nearest negative num den).isNegative = negative := isNegative_ofParts

/-- Rounding never ends at NaN. -/
theorem isNaN_nearest : (nearest negative num den).isNaN = false := by
  unfold isNaN
  rw [magnitudeBits_nearest]
  exact decide_eq_false (Nat.not_lt.mpr (nearestBits_le num den))

/-- A magnitude as a number has the sign of the positive numbers. -/
theorem isNegative_abs : x.abs.isNegative = false := isNegative_ofParts

/-- A magnitude as a number is that magnitude. -/
theorem magnitudeBits_abs : x.abs.magnitudeBits = x.magnitudeBits :=
  magnitudeBits_ofParts x.magnitudeBits_lt

/-- Numbers that are not negative are ordered by their magnitudes. -/
theorem rank_eq_magnitudeBits (h : 0 ≤ x.rank) : x.rank = x.magnitudeBits := by
  unfold rank at h ⊢
  split
  · rename_i hnegative
    rw [if_pos hnegative] at h
    omega
  · rfl

/-- A number is less than or equal to another one by their ranks. -/
theorem le_iff : x.le y = true ↔ x.isNaN = false ∧ y.isNaN = false ∧ x.rank ≤ y.rank := by
  simp [le, and_assoc]

/-- The order of numbers is transitive. -/
protected theorem le_trans (h : x.le y = true) (h' : y.le z = true) : x.le z = true := by
  obtain ⟨hx, -, hxy⟩ := le_iff.mp h
  obtain ⟨-, hz, hyz⟩ := le_iff.mp h'
  exact le_iff.mpr ⟨hx, hz, hxy.trans hyz⟩

/-- A finite number is not NaN and not infinite. -/
theorem isFinite_iff : x.isFinite = true ↔ x.isNaN = false ∧ x.isInfinite = false := by
  simp only [isFinite, isNaN, isInfinite, decide_eq_true_eq, decide_eq_false_iff_not,
    beq_eq_false_iff_ne]
  omega

/-- The product of finite numbers is the rounded product of their units. -/
theorem mul_eq_nearest (hx : x.isFinite = true) (hy : y.isFinite = true) :
    x.mul y = nearest (x.isNegative != y.isNegative) (x.units * y.units) (Nat.pow 2 1074) := by
  obtain ⟨hxNaN, hxInfinite⟩ := isFinite_iff.mp hx
  obtain ⟨hyNaN, hyInfinite⟩ := isFinite_iff.mp hy
  unfold mul
  simp only [hxNaN, hyNaN, hxInfinite, hyInfinite, Bool.or_false, Bool.false_eq_true, if_false]

/-- A product of finite factors that are not negative is not negative, even if the first factor is
the negative zero. -/
theorem rank_mul (hx : x.isFinite = true) (hrank : 0 ≤ x.rank) (hz : z.isFinite = true)
    (hpositive : z.isNegative = false) :
    (x.mul z).rank = nearestBits (x.units * z.units) (Nat.pow 2 1074) := by
  rw [mul_eq_nearest hx hz, rank, isNegative_nearest, magnitudeBits_nearest, hpositive]
  by_cases hnegative : x.isNegative = true
  · have hzero : x.magnitudeBits = 0 := by
      have hmagnitude := rank_eq_magnitudeBits hrank
      rw [rank, if_pos hnegative] at hmagnitude
      omega
    have hunits : x.units = 0 := by
      unfold units
      rw [hzero]
      rfl
    rw [hunits, Nat.zero_mul, nearestBits_zero]
    simp
  · rw [Bool.not_eq_true] at hnegative
    rw [hnegative]
    rfl

/-- **Multiplication by a number that is not negative keeps the order**, also where the product
rounds to infinity. -/
theorem mul_le_mul_right (hx : x.isFinite = true) (hy : y.isFinite = true) (hrank : 0 ≤ x.rank)
    (h : x.le y = true) (hz : z.isFinite = true) (hpositive : z.isNegative = false) :
    (x.mul z).le (y.mul z) = true := by
  obtain ⟨-, -, hxy⟩ := le_iff.mp h
  have hrank' := hrank.trans hxy
  have hmagnitude : x.magnitudeBits ≤ y.magnitudeBits := by
    rw [rank_eq_magnitudeBits hrank, rank_eq_magnitudeBits hrank'] at hxy
    omega
  refine le_iff.mpr ⟨?_, ?_, ?_⟩
  · rw [mul_eq_nearest hx hz]
    exact isNaN_nearest
  · rw [mul_eq_nearest hy hz]
    exact isNaN_nearest
  · rw [rank_mul hx hrank hz hpositive, rank_mul hy hrank' hz hpositive, Int.ofNat_le]
    apply nearestBits_mono
    exact Nat.mul_le_mul_right z.units (unitsOfBits_mono hmagnitude)

end Crosscheck.Binary64
