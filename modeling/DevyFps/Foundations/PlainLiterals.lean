import DevyFps.Foundations.Floating

/-! Formats in which the literals of a program that are quarters of small integers are exact
and are compared as the numbers that they are. -/

namespace Foundations

open FloatFormat

class PlainLiterals (D : Type) [FloatFormat D] : Prop where
  finite (n : Int) : n.natAbs ≤ 1024 → isFinite (ofRat (n / 4) : D) = true
  le_eq (m n : Int) : m.natAbs ≤ 1024 → n.natAbs ≤ 1024 →
    le (ofRat (m / 4) : D) (ofRat (n / 4)) = decide (m ≤ n)
  lt_eq (m n : Int) : m.natAbs ≤ 1024 → n.natAbs ≤ 1024 →
    lt (ofRat (m / 4) : D) (ofRat (n / 4)) = decide (m < n)

instance : PlainLiterals ℚ where
  finite _ _ := rfl
  le_eq m n _ _ := by
    change decide ((m : ℚ) / 4 ≤ (n : ℚ) / 4) = _
    congr 1
    rw [div_le_div_iff_of_pos_right (by norm_num), Int.cast_le]
  lt_eq m n _ _ := by
    change decide ((m : ℚ) / 4 < (n : ℚ) / 4) = _
    congr 1
    rw [div_lt_div_iff_of_pos_right (by norm_num), Int.cast_lt]

variable {D : Type} [FloatFormat D] [PlainLiterals D]

theorem finite_literal {q : ℚ} (n : Int) (hQuarter : q = n / 4) (hSmall : n.natAbs ≤ 1024) :
    isFinite (ofRat q : D) = true := by
  rw [hQuarter]
  exact PlainLiterals.finite n hSmall

theorem lt_literal {p q : ℚ} (m n : Int) (hLeft : p = m / 4) (hRight : q = n / 4)
    (hSmall : m.natAbs ≤ 1024 ∧ n.natAbs ≤ 1024) (h : n ≤ m) :
    lt (ofRat p : D) (ofRat q) = false := by
  rw [hLeft, hRight, PlainLiterals.lt_eq m n hSmall.1 hSmall.2]
  exact decide_eq_false (Int.not_lt.mpr h)

theorem le_literal {p q : ℚ} (m n : Int) (hLeft : p = m / 4) (hRight : q = n / 4)
    (hSmall : m.natAbs ≤ 1024 ∧ n.natAbs ≤ 1024) (h : n < m) :
    le (ofRat p : D) (ofRat q) = false := by
  rw [hLeft, hRight, PlainLiterals.le_eq m n hSmall.1 hSmall.2]
  exact decide_eq_false (Int.not_le.mpr h)

/-- A literal that passes the check of a positive number. -/
theorem positive_literal {q : ℚ} (n : Int) (hQuarter : q = n / 4) (hSmall : n.natAbs ≤ 1024)
    (h : 0 < n) : isFinite (ofRat q : D) = true ∧ le (ofRat q : D) (ofRat 0) = false :=
  ⟨finite_literal n hQuarter hSmall,
    le_literal n 0 hQuarter (by norm_num) ⟨hSmall, by decide⟩ h⟩

theorem nonNegative_literal {q : ℚ} (n : Int) (hQuarter : q = n / 4) (hSmall : n.natAbs ≤ 1024)
    (h : 0 ≤ n) : isFinite (ofRat q : D) = true ∧ lt (ofRat q : D) (ofRat 0) = false :=
  ⟨finite_literal n hQuarter hSmall,
    lt_literal n 0 hQuarter (by norm_num) ⟨hSmall, by decide⟩ h⟩

end Foundations
