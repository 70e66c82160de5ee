import DevyFps.Foundations.Floating
import Mathlib.Analysis.Real.Sqrt

/-! Exact real arithmetic as a number format. What is proved over it is what a program
computes apart from rounding. -/

namespace Foundations

open FloatFormat

/-- Every real number is finite, and its double is the number itself. -/
noncomputable instance : FloatFormat ℝ where
  ofRat q := (q : ℝ)
  lt x y := decide (x < y)
  le x y := decide (x ≤ y)
  isFinite _ := true
  sqrt := Real.sqrt
  abs x := |x|
  floor x := (⌊x⌋ : ℤ)
  ceil x := (⌈x⌉ : ℤ)
  lround x := if x < 0 then -⌊-x + (1 / 2 : ℚ)⌋ else ⌊x + (1 / 2 : ℚ)⌋
  truncate x := if x < 0 then ⌈x⌉ else ⌊x⌋

noncomputable instance : SingleFloat ℝ where
  Double := ℝ
  double := inferInstance
  widen x := x
  narrow x := x

namespace FloatFormat

@[simp] theorem ofRat_real (q : ℚ) : (ofRat q : ℝ) = (q : ℝ) := rfl

@[simp] theorem lt_real (x y : ℝ) : FloatFormat.lt x y = decide (x < y) := rfl

@[simp] theorem le_real (x y : ℝ) : FloatFormat.le x y = decide (x ≤ y) := rfl

@[simp] theorem isFinite_real (x : ℝ) : isFinite x = true := rfl

@[simp] theorem sqrt_real (x : ℝ) : FloatFormat.sqrt x = Real.sqrt x := rfl

@[simp] theorem min_real (x y : ℝ) : FloatFormat.min x y = x ⊓ y := by
  unfold FloatFormat.min
  rw [lt_real]
  by_cases h : y < x
  · simp [h, h.le]
  · simp [h, not_lt.mp h]

@[simp] theorem max_real (x y : ℝ) : FloatFormat.max x y = x ⊔ y := by
  unfold FloatFormat.max
  rw [lt_real]
  by_cases h : x < y
  · simp [h, h.le]
  · simp [h, not_lt.mp h]

end FloatFormat

end Foundations
