import Mathlib.Tactic.Linarith

/-! The range of a 32-bit `int`, and which squares and sums of squares are in it. -/

namespace Foundations

/-- The values of a 32-bit `int`. -/
def FitsInt (n : Int) : Prop := -2 ^ 31 ≤ n ∧ n ≤ 2 ^ 31 - 1

instance (n : Int) : Decidable (FitsInt n) := inferInstanceAs (Decidable (_ ∧ _))

theorem fitsInt_iff {n : Int} : FitsInt n ↔ -2147483648 ≤ n ∧ n ≤ 2147483647 := Iff.rfl

/-- The largest square is that of 46340. -/
theorem fitsInt_mul_self_iff {n : Int} (h : 0 ≤ n) : FitsInt (n * n) ↔ n ≤ 46340 := by
  rw [fitsInt_iff]
  constructor
  · intro hFits
    by_contra hLarge
    have hSquare : 46341 * 46341 ≤ n * n := by nlinarith
    omega
  · intro hSmall
    have hSquare : n * n ≤ 46340 * 46340 := by nlinarith
    have hNonneg : 0 ≤ n * n := mul_self_nonneg n
    omega

theorem mul_self_le_of_between {n bound : Int} (hLow : -bound ≤ n) (hHigh : n ≤ bound) :
    n * n ≤ bound * bound := by
  nlinarith

/-- A sum of two squares fits where both fit with it. -/
theorem fitsInt_sum_sq_iff {x z : Int} :
    FitsInt (x * x + z * z) ↔ x * x + z * z ≤ 2147483647 := by
  rw [fitsInt_iff]
  have hX : 0 ≤ x * x := mul_self_nonneg x
  have hZ : 0 ≤ z * z := mul_self_nonneg z
  omega

/-- Two coordinates that a square of twice the area leaves room for. -/
theorem sum_sq_le {x z : Int} (bound : Int) (hX : -bound ≤ x ∧ x ≤ bound)
    (hZ : -bound ≤ z ∧ z ≤ bound) (hBound : 2 * (bound * bound) ≤ 2147483647) :
    x * x + z * z ≤ 2147483647 := by
  have hSquareX := mul_self_le_of_between hX.1 hX.2
  have hSquareZ := mul_self_le_of_between hZ.1 hZ.2
  omega

/-- All values of an evaluation fit. -/
def AllFit (values : List Int) : Prop := ∀ n ∈ values, FitsInt n

section AllFit

variable {n : Int} {values more : List Int}

@[simp] theorem allFit_nil : AllFit [] ↔ True :=
  iff_true_intro fun _ hMem => absurd hMem List.not_mem_nil

@[simp] theorem allFit_cons : AllFit (n :: values) ↔ FitsInt n ∧ AllFit values :=
  List.forall_mem_cons

@[simp] theorem allFit_append : AllFit (values ++ more) ↔ AllFit values ∧ AllFit more :=
  List.forall_mem_append

theorem allFit_flatMap {α : Type} {items : List α} {evaluate : α → List Int} :
    AllFit (items.flatMap evaluate) ↔ ∀ item ∈ items, AllFit (evaluate item) := by
  constructor
  · intro hAll item hItem n hMem
    exact hAll n (List.mem_flatMap.mpr ⟨item, hItem, hMem⟩)
  · intro hAll n hMem
    obtain ⟨item, hItem, hValue⟩ := List.mem_flatMap.mp hMem
    exact hAll item hItem n hValue

end AllFit

end Foundations
