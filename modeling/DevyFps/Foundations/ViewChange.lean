import Mathlib.Data.List.Basic

/-! The change from one view to the next. A view is a finite table, seen as a partial
function from keys to versions; a change lists what to add, what to remove and what to
replace. -/

universe u v

namespace Foundations

variable {κ : Type u} {ρ : Type v}

/-- The lists say exactly how the new view differs from the old one. -/
structure DescribesChange (old new : κ → Option ρ) (added : List (κ × ρ)) (removed : List κ)
    (replaced : List (κ × ρ)) : Prop where
  mem_added : ∀ key version, (key, version) ∈ added ↔ new key = some version ∧ old key = none
  mem_removed : ∀ key, key ∈ removed ↔ new key = none ∧ old key ≠ none
  mem_replaced : ∀ key version, (key, version) ∈ replaced ↔
    new key = some version ∧ old key ≠ none ∧ old key ≠ some version

namespace DescribesChange

variable {old new : κ → Option ρ} {added : List (κ × ρ)} {removed : List κ}
  {replaced : List (κ × ρ)}

/-- No key is in two of the lists. -/
theorem disjoint (h : DescribesChange old new added removed replaced) (key : κ) :
    ¬ (key ∈ added.map Prod.fst ∧ key ∈ removed) ∧
      ¬ (key ∈ added.map Prod.fst ∧ key ∈ replaced.map Prod.fst) ∧
      ¬ (key ∈ removed ∧ key ∈ replaced.map Prod.fst) := by
  have hAdded : key ∈ added.map Prod.fst → new key ≠ none ∧ old key = none := by
    intro hMem
    obtain ⟨⟨_, version⟩, hEntry, rfl⟩ := List.mem_map.mp hMem
    have hView := (h.mem_added _ version).mp hEntry
    exact ⟨by simp [hView.1], hView.2⟩
  have hReplaced : key ∈ replaced.map Prod.fst → new key ≠ none ∧ old key ≠ none := by
    intro hMem
    obtain ⟨⟨_, version⟩, hEntry, rfl⟩ := List.mem_map.mp hMem
    have hView := (h.mem_replaced _ version).mp hEntry
    exact ⟨by simp [hView.1], hView.2.1⟩
  have hRemoved := h.mem_removed key
  exact ⟨fun hBoth => (hAdded hBoth.1).1 (hRemoved.mp hBoth.2).1,
    fun hBoth => (hReplaced hBoth.2).2 (hAdded hBoth.1).2,
    fun hBoth => (hReplaced hBoth.2).1 (hRemoved.mp hBoth.1).1⟩

/-- Between equal views there is nothing to tell. -/
theorem eq_nil (h : DescribesChange old new added removed replaced) (hSame : old = new) :
    added = [] ∧ removed = [] ∧ replaced = [] := by
  subst hSame
  refine ⟨?_, ?_, ?_⟩
  · apply List.eq_nil_iff_forall_not_mem.mpr
    rintro ⟨key, version⟩ hMem
    have hView := (h.mem_added key version).mp hMem
    rw [hView.2] at hView
    cases hView.1
  · apply List.eq_nil_iff_forall_not_mem.mpr
    intro key hMem
    have hView := (h.mem_removed key).mp hMem
    exact hView.2 hView.1
  · apply List.eq_nil_iff_forall_not_mem.mpr
    rintro ⟨key, version⟩ hMem
    have hView := (h.mem_replaced key version).mp hMem
    exact hView.2.2 hView.1

/-- A table that followed the change from the old view holds the new view. -/
theorem followed (h : DescribesChange old new added removed replaced) {result : κ → Option ρ}
    (hNew : ∀ key version, (key, version) ∈ added ∨ (key, version) ∈ replaced →
      result key = some version)
    (hGone : ∀ key, key ∈ removed → result key = none)
    (hKept : ∀ key, key ∉ added.map Prod.fst → key ∉ removed → key ∉ replaced.map Prod.fst →
      result key = old key) :
    result = new := by
  funext key
  cases hView : new key with
  | none =>
      by_cases hOld : old key = none
      · rw [hKept key, hOld]
        · intro hMem
          obtain ⟨⟨_, version⟩, hEntry, rfl⟩ := List.mem_map.mp hMem
          rw [((h.mem_added _ version).mp hEntry).1] at hView
          cases hView
        · exact fun hMem => ((h.mem_removed key).mp hMem).2 hOld
        · intro hMem
          obtain ⟨⟨_, version⟩, hEntry, rfl⟩ := List.mem_map.mp hMem
          rw [((h.mem_replaced _ version).mp hEntry).1] at hView
          cases hView
      · exact hGone key ((h.mem_removed key).mpr ⟨hView, hOld⟩)
  | some version =>
      by_cases hOld : old key = none
      · exact hNew key version (Or.inl ((h.mem_added key version).mpr ⟨hView, hOld⟩))
      · by_cases hSame : old key = some version
        · rw [hKept key, hSame]
          · intro hMem
            obtain ⟨⟨_, version'⟩, hEntry, rfl⟩ := List.mem_map.mp hMem
            exact hOld ((h.mem_added _ version').mp hEntry).2
          · intro hMem
            rw [((h.mem_removed key).mp hMem).1] at hView
            cases hView
          · intro hMem
            obtain ⟨⟨_, version'⟩, hEntry, rfl⟩ := List.mem_map.mp hMem
            have hReplaced := (h.mem_replaced _ version').mp hEntry
            rw [hView] at hReplaced
            exact hReplaced.2.2 (hSame.trans hReplaced.1)
        · exact hNew key version
            (Or.inr ((h.mem_replaced key version).mpr ⟨hView, hOld, hSame⟩))

end DescribesChange

end Foundations
