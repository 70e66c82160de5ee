import DevyFps.Foundations.Floating
import Mathlib.Tactic.NormNum

/-! Rational arithmetic cut off at a bound: a single-precision format within the exact
rationals as its double precision. -/

namespace Foundations

/-- The largest single-precision number. -/
def largestSingle : ℚ := (2 - 1 / 2 ^ 23) * 2 ^ 127

def BoundedRat : Type := { q : ℚ // -largestSingle ≤ q ∧ q ≤ largestSingle }

namespace BoundedRat

/-- The nearest value within the bounds. -/
def cut (q : ℚ) : BoundedRat :=
  ⟨max (-largestSingle) (min q largestSingle), le_max_left _ _,
    max_le (by unfold largestSingle; norm_num) (min_le_right _ _)⟩

theorem cut_val (x : BoundedRat) : cut x.val = x := by
  refine Subtype.ext ?_
  change max (-largestSingle) (min x.val largestSingle) = x.val
  rw [min_eq_left x.property.2, max_eq_right x.property.1]

instance : FloatFormat BoundedRat where
  add x y := cut (x.val + y.val)
  sub x y := cut (x.val - y.val)
  mul x y := cut (x.val * y.val)
  div x y := cut (x.val / y.val)
  ofRat := cut
  lt x y := decide (x.val < y.val)
  le x y := decide (x.val ≤ y.val)
  isFinite _ := true
  sqrt x := cut (FloatFormat.sqrt x.val)
  abs x := cut (FloatFormat.abs x.val)
  floor x := cut (FloatFormat.floor x.val)
  ceil x := cut (FloatFormat.ceil x.val)
  lround x := FloatFormat.lround x.val
  truncate x := FloatFormat.truncate x.val

instance : SingleFloat BoundedRat where
  Double := ℚ
  double := inferInstance
  widen x := x.val
  narrow := cut

end BoundedRat

end Foundations
