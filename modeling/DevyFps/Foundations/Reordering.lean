import DevyFps.Foundations.Sort

/-! Loops over lists that may come in any order: steps that commute up to an equivalence
of their states, and sorted lists that differ in what the comparator does not read. -/

universe u v

namespace Foundations

section Fold

variable {σ : Type u} {α : Type v} {Same : σ → σ → Prop} {step : σ → α → σ}

/-- Equivalent states stay equivalent under the same steps. -/
theorem foldl_congr (hCongr : ∀ s t a, Same s t → Same (step s a) (step t a)) (l : List α)
    {s t : σ} (h : Same s t) : Same (l.foldl step s) (l.foldl step t) := by
  induction l generalizing s t with
  | nil => exact h
  | cons head rest ih => exact ih (hCongr s t head h)

/-- Steps that commute pairwise lead to equivalent states in any order. -/
theorem foldl_perm (hSame : Equivalence Same)
    (hCongr : ∀ s t a, Same s t → Same (step s a) (step t a)) {l l' : List α} (hPerm : l.Perm l')
    (hComm : ∀ a ∈ l, ∀ b ∈ l, ∀ s, Same (step (step s a) b) (step (step s b) a)) (s : σ) :
    Same (l.foldl step s) (l'.foldl step s) := by
  induction hPerm generalizing s with
  | nil => exact hSame.refl s
  | cons head _ ih =>
      apply ih
      intro a ha b hb
      exact hComm a (List.mem_cons_of_mem head ha) b (List.mem_cons_of_mem head hb)
  | swap a b rest =>
      have hSwap := hComm b List.mem_cons_self a (List.mem_cons_of_mem b List.mem_cons_self) s
      exact foldl_congr hCongr rest hSwap
  | trans hFirst _ ih ih' =>
      apply hSame.trans (ih hComm s)
      apply ih'
      intro a ha b hb
      exact hComm a (hFirst.mem_iff.mpr ha) b (hFirst.mem_iff.mpr hb)

end Fold

/-- What the comparator reads of the sorted elements does not depend on their order. -/
theorem map_sortBy_perm {α : Type u} {β : Type v} {less : α → α → Bool} (h : IsComparator less)
    {key : α → β} (hSep : ∀ a b, less a b = false → less b a = false → key a = key b)
    (hKey : ∀ a a' b b', key a = key a' → key b = key b' → less a b = less a' b')
    {l l' : List α} (hPerm : l.Perm l') : (sortBy less l).map key = (sortBy less l').map key := by
  have hSorted : ∀ l : List α, ((sortBy less l).map key).Pairwise fun x y =>
      ∃ a b, key a = x ∧ key b = y ∧ less b a = false := by
    intro l
    rw [List.pairwise_map]
    exact (sortBy_pairwise h l).imp fun hNot => ⟨_, _, rfl, rfl, hNot⟩
  refine List.Perm.eq_of_pairwise ?_ (hSorted l) (hSorted l')
    (((sortBy_perm less l).trans (hPerm.trans (sortBy_perm less l').symm)).map key)
  rintro x y - - ⟨a, b, rfl, rfl, hab⟩ ⟨b', a', hb, ha, hba⟩
  rw [hKey a' a b' b ha hb] at hba
  exact hSep a b hba hab

end Foundations
