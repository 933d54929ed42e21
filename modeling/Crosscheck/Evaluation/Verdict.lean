import Crosscheck.Evaluation.Outcome

/-!
# Verdicts

Two evaluators agree on an expression when both give a number and the numbers are
close enough, or when both refuse it. Numbers are close enough when they differ by
no more than an absolute bound, or by no more than a fraction of the larger one.
-/

namespace Crosscheck

/-- How far apart two numbers may be and still agree. -/
structure Tolerance where
  absolute : Binary64 := ⟨0x3e112e0be826d695⟩
  /-- The bound as a fraction of the larger magnitude. -/
  relative : Binary64 := ⟨0x3e112e0be826d695⟩
deriving DecidableEq

namespace Tolerance

/-- Whether two numbers agree. NaN agrees with NaN only, and an infinity with itself. -/
def accepts (t : Tolerance) (a b : Binary64) : Bool :=
  if a.isNaN || b.isNaN then a.isNaN && b.isNaN
  else if a.isInfinite || b.isInfinite then a.eq b
  else
    let larger := if a.magnitudeBits ≤ b.magnitudeBits then b.abs else a.abs
    (a.distance b).le t.absolute || (a.distance b).le (t.relative.mul larger)

/-- Whether a bound is one to compare with: finite and not negative. -/
def isBound (x : Binary64) : Bool := x.isFinite && (Binary64.zero false).le x

end Tolerance

/-- The comparison of two replies. -/
inductive Verdict where
  | agree
  | bothErrored
  | divergence
  /-- At least one evaluator gave no outcome. -/
  | unreachable
deriving DecidableEq

/-- How a verdict is shown. -/
def Verdict.text : Verdict → String
  | .agree => "agree"
  | .bothErrored => "both errored"
  | .divergence => "DIVERGENCE"
  | .unreachable => "evaluator unreachable"

/-- Compares two replies for the same expression. -/
def Verdict.of (t : Tolerance) : (reference candidate : Reply) → Verdict
  | .ok (.value a), .ok (.value b) => if t.accepts a b then .agree else .divergence
  | .ok (.error _), .ok (.error _) => .bothErrored
  | .ok _, .ok _ => .divergence
  | _, _ => .unreachable

end Crosscheck
