import Mathlib.Data.List.Range
import Mathlib.Data.List.Nodup
import Mathlib.Data.Int.Init

/-! Counting loops over integers. -/

namespace Foundations

/-- The values of `i` in `for (int i = low; i <= high; ++i)`, in order. -/
def intRange (low high : Int) : List Int :=
  (List.range (high + 1 - low).toNat).map fun step : Nat => low + (step : Int)

@[simp] theorem mem_intRange {low high i : Int} : i ∈ intRange low high ↔ low ≤ i ∧ i ≤ high := by
  simp only [intRange, List.mem_map, List.mem_range]
  constructor
  · rintro ⟨step, hStep, rfl⟩
    omega
  · intro h
    exact ⟨(i - low).toNat, by omega, by omega⟩

theorem nodup_intRange (low high : Int) : (intRange low high).Nodup := by
  apply List.Nodup.map _ List.nodup_range
  intro a b hab
  dsimp only at hab
  omega

theorem pairwise_lt_intRange (low high : Int) : (intRange low high).Pairwise (· < ·) := by
  unfold intRange
  rw [List.pairwise_map]
  apply List.pairwise_lt_range.imp
  intro a b hLess
  omega

section Leaving

variable {α : Type}

/-- What a loop looks at that is left at the first element that stops it. -/
def visitedUntil (stops : α → Bool) : List α → List α
  | [] => []
  | item :: rest => item :: if stops item then [] else visitedUntil stops rest

/-- In a strictly sorted list an element is looked at if none before it stops the loop. -/
theorem mem_visitedUntil_iff {before : α → α → Prop} (hAsymm : ∀ a b, before a b → ¬ before b a)
    {stops : α → Bool} {items : List α} (hSorted : items.Pairwise before) {a : α} :
    a ∈ visitedUntil stops items ↔
      a ∈ items ∧ ∀ b ∈ items, before b a → stops b = false := by
  induction items with
  | nil => simp [visitedUntil]
  | cons item rest ih =>
      obtain ⟨hFirst, hRest⟩ := List.pairwise_cons.mp hSorted
      unfold visitedUntil
      constructor
      · intro hMem
        rcases List.mem_cons.mp hMem with rfl | hLater
        · refine ⟨List.mem_cons_self, fun b hB hBefore => ?_⟩
          rcases List.mem_cons.mp hB with rfl | hB
          · exact absurd hBefore (hAsymm _ _ hBefore)
          · exact absurd hBefore (hAsymm _ _ (hFirst b hB))
        · split at hLater
          · cases hLater
          · rename_i hGoes
            obtain ⟨hA, hNone⟩ := (ih hRest).mp hLater
            refine ⟨List.mem_cons_of_mem _ hA, fun b hB hBefore => ?_⟩
            rcases List.mem_cons.mp hB with rfl | hB
            · exact Bool.eq_false_iff.mpr hGoes
            · exact hNone b hB hBefore
      · rintro ⟨hA, hNone⟩
        rcases List.mem_cons.mp hA with rfl | hLater
        · exact List.mem_cons_self
        · have hGoes := hNone item List.mem_cons_self (hFirst a hLater)
          rw [if_neg (Bool.eq_false_iff.mp hGoes)]
          exact List.mem_cons_of_mem _ ((ih hRest).mpr
            ⟨hLater, fun b hB hBefore => hNone b (List.mem_cons_of_mem _ hB) hBefore⟩)

end Leaving

end Foundations
