import Mathlib.Algebra.Module.Basic
import Mathlib.Algebra.Order.Field.Basic
import Mathlib.Data.List.FinRange
import Mathlib.Tactic.Linarith
import Mathlib.Tactic.Module

/-! Quadrilaterals that are drawn as two triangles along a diagonal, and lists that are made of
pieces of one length. -/

namespace Foundations

section Triangles

variable (K : Type*) {V : Type*} [Field K] [LinearOrder K] [IsStrictOrderedRing K]
  [AddCommGroup V] [Module K V]

/-- The points of a triangle. -/
def triangle (a b c : V) : Set V :=
  { p | ∃ s t : K, 0 ≤ s ∧ 0 ≤ t ∧ s + t ≤ 1 ∧ p = a + s • (b - a) + t • (c - a) }

/-- The points of the parallelogram that two edges span at a corner. -/
def parallelogram (a edge edge' : V) : Set V :=
  { p | ∃ s t : K, (0 ≤ s ∧ s ≤ 1) ∧ (0 ≤ t ∧ t ≤ 1) ∧ p = a + s • edge + t • edge' }

/-- The two triangles on the sides of the diagonal make up the parallelogram. -/
theorem triangles_eq_parallelogram (a edge edge' : V) :
    triangle K a (a + edge) (a + edge + edge') ∪ triangle K (a + edge + edge') (a + edge') a =
      parallelogram K a edge edge' := by
  ext p
  constructor
  · rintro (⟨s, t, hs, ht, hSum, rfl⟩ | ⟨s, t, hs, ht, hSum, rfl⟩)
    · refine ⟨s + t, t, ⟨add_nonneg hs ht, hSum⟩, ⟨ht, by linarith⟩, ?_⟩
      module
    · refine ⟨1 - s - t, 1 - t, ⟨by linarith, by linarith⟩, ⟨by linarith, by linarith⟩, ?_⟩
      module
  · rintro ⟨s, t, ⟨hs, hs'⟩, ⟨ht, ht'⟩, rfl⟩
    rcases le_total t s with hBelow | hAbove
    · refine Or.inl ⟨s - t, t, by linarith, ht, by linarith, ?_⟩
      module
    · refine Or.inr ⟨t - s, 1 - t, by linarith, by linarith, by linarith, ?_⟩
      module

end Triangles

section Pieces

variable {α β : Type*} {piece : α → List β} {size : Nat}

theorem length_flatMap_pieces (h : ∀ a, (piece a).length = size) (l : List α) :
    (l.flatMap piece).length = size * l.length := by
  induction l with
  | nil => rfl
  | cons a l ih =>
      rw [List.flatMap_cons, List.length_append, h, ih, List.length_cons, Nat.mul_succ, Nat.add_comm]

theorem length_flatMap_pieces_le (h : ∀ a, (piece a).length ≤ size) (l : List α) :
    (l.flatMap piece).length ≤ size * l.length := by
  induction l with
  | nil => exact Nat.le_refl _
  | cons a l ih =>
      rw [List.flatMap_cons, List.length_append, List.length_cons, Nat.mul_succ]
      have hHead := h a
      omega

/-- An element of the `i`-th piece. -/
theorem getElem?_flatMap_pieces (h : ∀ a, (piece a).length = size) {l : List α} {i k : Nat} {a : α}
    (hPiece : l[i]? = some a) (hInside : k < size) :
    (l.flatMap piece)[size * i + k]? = (piece a)[k]? := by
  induction l generalizing i with
  | nil => cases hPiece
  | cons head rest ih =>
      rw [List.flatMap_cons]
      cases i with
      | zero =>
          injection hPiece with hPiece
          rw [Nat.mul_zero, Nat.zero_add, hPiece]
          exact List.getElem?_append_left ((h a).symm ▸ hInside)
      | succ i =>
          rw [List.getElem?_append_right (by rw [h, Nat.mul_succ]; omega), h]
          have hRest := ih hPiece
          rw [← hRest]
          congr 1
          rw [Nat.mul_succ]
          omega

end Pieces

end Foundations
