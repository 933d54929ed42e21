import Crosscheck.Evaluation.Verdict
import Crosscheck.Proofs.Binary64.Rounding

/-!
# Comparing replies

A tolerance is a relation on numbers. This file proves that it is symmetric for any bounds, that it
is reflexive on all numbers, NaN and the infinities included, when its bounds are finite and not
negative, and that it only grows with such bounds. A verdict therefore treats both replies alike.
-/

namespace Crosscheck

namespace Binary64

/-- The larger one of two magnitudes, as a number. -/
def larger (x y : Binary64) : Binary64 :=
  if x.magnitudeBits ≤ y.magnitudeBits then y.abs else x.abs

variable {x y : Binary64}

/-- Of two numbers the same magnitude is the larger one in either order. -/
theorem larger_comm (x y : Binary64) : x.larger y = y.larger x := by
  unfold larger
  by_cases heq : x.magnitudeBits = y.magnitudeBits
  · rw [heq, abs, abs, heq]
  · by_cases hle : x.magnitudeBits ≤ y.magnitudeBits
    · rw [if_pos hle, if_neg (by omega)]
    · rw [if_neg hle, if_pos (by omega)]

/-- The larger magnitude is positive, also if it is zero. -/
theorem isNegative_larger : (x.larger y).isNegative = false := by
  unfold larger
  split
  · exact isNegative_abs
  · exact isNegative_abs

/-- The larger one of two finite magnitudes is finite. -/
theorem isFinite_larger (hx : x.isFinite = true) (hy : y.isFinite = true) :
    (x.larger y).isFinite = true := by
  unfold larger isFinite
  split
  · rwa [magnitudeBits_abs]
  · rwa [magnitudeBits_abs]

/-- Two numbers are equally far apart in either order. -/
theorem distance_comm (x y : Binary64) : x.distance y = y.distance x := by
  unfold distance
  dsimp only
  congr 1
  omega

/-- A number is not apart from itself. -/
theorem distance_self (x : Binary64) : x.distance x = nearest false 0 1 := by
  simp [distance]

/-- Equality of numbers does not depend on the order. -/
protected theorem eq_comm (x y : Binary64) : x.eq y = y.eq x := by
  unfold eq
  rw [Bool.and_comm (!x.isNaN), Bool.beq_comm]

/-- A number other than NaN is equal to itself. -/
protected theorem eq_self (h : x.isNaN = false) : x.eq x = true := by
  simp [eq, h]

end Binary64

open Binary64

namespace Tolerance

variable {t t' : Tolerance} {a b : Binary64}

/-- A bound is finite and not negative. -/
theorem isBound_iff {x : Binary64} : isBound x = true ↔ x.isFinite = true ∧ 0 ≤ x.rank := by
  have hzero : (zero false).isNaN = false ∧ (zero false).rank = 0 := by decide
  unfold isBound
  rw [Bool.and_eq_true, le_iff, hzero.1, hzero.2]
  constructor
  · rintro ⟨hfinite, -, -, hrank⟩
    exact ⟨hfinite, hrank⟩
  · rintro ⟨hfinite, hrank⟩
    exact ⟨hfinite, rfl, (isFinite_iff.mp hfinite).1, hrank⟩

/-- Finite numbers are compared by how far they are apart. -/
theorem accepts_of_isFinite (ha : a.isFinite = true) (hb : b.isFinite = true) :
    t.accepts a b =
      ((a.distance b).le t.absolute || (a.distance b).le (t.relative.mul (a.larger b))) := by
  obtain ⟨haNaN, haInfinite⟩ := isFinite_iff.mp ha
  obtain ⟨hbNaN, hbInfinite⟩ := isFinite_iff.mp hb
  simp only [accepts, haNaN, hbNaN, haInfinite, hbInfinite]
  rfl

/-- When one of the numbers is not finite, the bounds do not count. -/
theorem accepts_of_not_isFinite (h : ¬(a.isFinite = true ∧ b.isFinite = true)) :
    t.accepts a b = if a.isNaN || b.isNaN then a.isNaN && b.isNaN else a.eq b := by
  unfold accepts
  by_cases hNaN : (a.isNaN || b.isNaN) = true
  · rw [if_pos hNaN, if_pos hNaN]
  · rw [if_neg hNaN, if_neg hNaN]
    apply if_pos
    rw [isFinite_iff, isFinite_iff] at h
    simp only [Bool.not_eq_true, Bool.or_eq_false_iff] at hNaN
    by_contra hInfinite
    simp only [Bool.not_eq_true, Bool.or_eq_false_iff] at hInfinite
    exact h ⟨⟨hNaN.1, hInfinite.1⟩, hNaN.2, hInfinite.2⟩

/-- Whether two numbers agree does not depend on their order. -/
theorem accepts_comm (t : Tolerance) (a b : Binary64) : t.accepts a b = t.accepts b a := by
  by_cases h : a.isFinite = true ∧ b.isFinite = true
  · rw [accepts_of_isFinite h.1 h.2, accepts_of_isFinite h.2 h.1, distance_comm, larger_comm]
  · rw [accepts_of_not_isFinite h, accepts_of_not_isFinite (mt And.symm h), Binary64.eq_comm,
      Bool.or_comm, Bool.and_comm]

/-- Every number agrees with itself, whether it is finite or not. -/
theorem accepts_self (h : isBound t.absolute = true) (x : Binary64) : t.accepts x x = true := by
  by_cases hx : x.isFinite = true
  · obtain ⟨hfinite, hrank⟩ := isBound_iff.mp h
    have hzero : (nearest false 0 1).isNaN = false ∧ (nearest false 0 1).rank = 0 := by decide
    have hle : (nearest false 0 1).le t.absolute = true := by
      rw [le_iff, hzero.1, hzero.2]
      exact ⟨rfl, (isFinite_iff.mp hfinite).1, hrank⟩
    rw [accepts_of_isFinite hx hx, distance_self, hle, Bool.true_or]
  · rw [accepts_of_not_isFinite fun h => hx h.1]
    by_cases hNaN : x.isNaN = true
    · simp [hNaN]
    · rw [Bool.not_eq_true] at hNaN
      simp [hNaN, Binary64.eq_self hNaN]

/-- Numbers that agree do so under larger bounds. -/
theorem accepts_mono (hbound : isBound t.relative = true) (hbound' : isBound t'.relative = true)
    (habsolute : t.absolute.le t'.absolute = true) (hrelative : t.relative.le t'.relative = true)
    (h : t.accepts a b = true) : t'.accepts a b = true := by
  by_cases hab : a.isFinite = true ∧ b.isFinite = true
  · obtain ⟨ha, hb⟩ := hab
    rw [accepts_of_isFinite ha hb, Bool.or_eq_true] at h ⊢
    apply h.imp
    · intro hdistance
      exact Binary64.le_trans hdistance habsolute
    · intro hdistance
      obtain ⟨hfinite, hrank⟩ := isBound_iff.mp hbound
      apply Binary64.le_trans hdistance
      exact mul_le_mul_right hfinite (isBound_iff.mp hbound').1 hrank hrelative
        (isFinite_larger ha hb) isNegative_larger
  · rw [accepts_of_not_isFinite hab] at h ⊢
    exact h

end Tolerance

namespace Verdict

variable {t : Tolerance}

/-- The verdict on two numbers is what the tolerance says of them. -/
theorem of_values (a b : Binary64) : Verdict.of t (.ok (.value a)) (.ok (.value b)) =
    if t.accepts a b then .agree else .divergence := rfl

/-- The verdict does not depend on which reply is which evaluator's. -/
theorem of_comm (t : Tolerance) (reference candidate : Reply) :
    Verdict.of t reference candidate = Verdict.of t candidate reference := by
  match reference, candidate with
  | .ok (.value a), .ok (.value b) => rw [of_values, of_values, t.accepts_comm]
  | .ok (.value _), .ok (.error _) | .ok (.error _), .ok (.value _) => rfl
  | .ok (.error _), .ok (.error _) => rfl
  | .ok (.value _), .error _ | .ok (.error _), .error _ => rfl
  | .error _, .ok (.value _) | .error _, .ok (.error _) => rfl
  | .error _, .error _ => rfl

/-- An outcome agrees with itself, or both evaluators reported an error. -/
theorem of_self (h : Tolerance.isBound t.absolute = true) (outcome : Outcome) :
    Verdict.of t (.ok outcome) (.ok outcome) = .agree ∨
      Verdict.of t (.ok outcome) (.ok outcome) = .bothErrored := by
  cases outcome with
  | value x =>
    left
    rw [of_values, if_pos (t.accepts_self h x)]
  | error report =>
    right
    rfl

end Verdict

end Crosscheck
