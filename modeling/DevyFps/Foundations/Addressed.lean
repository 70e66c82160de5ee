import DevyFps.Foundations.UnorderedMap
import Mathlib.Data.List.Nodup

/-! Lists with one entry for each key, and what is addressed by such keys. -/

universe u v w x y

namespace Foundations

variable {κ : Type u} {ι : Type v} {α : Type w} {β : Type x} {γ : Type y}

/-- Entries and values that agree one by one list the same things. -/
theorem map_eq_map_of_forall₂ {f : α → ι} {g : β → ι} {entries : List α} {values : List β}
    (h : List.Forall₂ (fun entry value => g value = f entry) entries values) :
    values.map g = entries.map f := by
  induction h with
  | nil => rfl
  | cons hFirst _ ih => rw [List.map_cons, List.map_cons, hFirst, ih]

variable [DecidableEq κ] [DecidableEq ι]

/-- An entry is the only one with its key. -/
theorem filter_key {key : α → κ} {entries : List α} (h : (entries.map key).Nodup) {entry : α}
    (hMem : entry ∈ entries) :
    entries.filter (fun other => key other = key entry) = [entry] := by
  induction entries with
  | nil => cases hMem
  | cons first rest ih =>
      rw [List.map_cons, List.nodup_cons] at h
      rcases List.mem_cons.mp hMem with rfl | hRest
      · rw [List.filter_cons_of_pos (by simp), List.filter_eq_nil_iff.mpr]
        intro other hOther hSame
        exact h.1 (of_decide_eq_true hSame ▸ List.mem_map_of_mem hOther)
      · have hKey : key first ≠ key entry := fun hSame =>
          h.1 (hSame ▸ List.mem_map_of_mem hRest)
        rw [List.filter_cons_of_neg (by simpa using hKey), ih h.2 hRest]

theorem filter_key_of_absent {key : α → κ} {entries : List α} {k : κ}
    (h : ∀ entry ∈ entries, key entry ≠ k) :
    entries.filter (fun entry => key entry = k) = [] := by
  rw [List.filter_eq_nil_iff]
  intro entry hMem hSame
  exact h entry hMem (of_decide_eq_true hSame)

theorem exists_of_mem_zipWith {put : α → β → γ} {entries : List α} {values : List β} {item : γ}
    (h : item ∈ List.zipWith put entries values) :
    ∃ entry ∈ entries, ∃ value ∈ values, put entry value = item := by
  rw [← List.map_uncurry_zip_eq_zipWith] at h
  obtain ⟨⟨entry, value⟩, hPair, rfl⟩ := List.mem_map.mp h
  exact ⟨entry, (List.of_mem_zip hPair).1, value, (List.of_mem_zip hPair).2, rfl⟩

theorem exists_left_of_mem {r : α → β → Prop} {entries : List α} {values : List β}
    (h : List.Forall₂ r entries values) {value : β} (hMem : value ∈ values) :
    ∃ entry ∈ entries, r entry value := by
  induction h with
  | nil => cases hMem
  | cons hFirst _ ih =>
      rcases List.mem_cons.mp hMem with rfl | hLater
      · exact ⟨_, List.mem_cons_self, hFirst⟩
      · obtain ⟨entry, hEntry, hRelated⟩ := ih hLater
        exact ⟨entry, List.mem_cons_of_mem _ hEntry, hRelated⟩

/-- The values that go with the entries, each addressed to the key of its entry. The values name
their entries. -/
theorem filter_zipWith (key : α → κ) (keyOf : γ → κ) {name : α → ι} {nameOf : β → ι}
    {put : α → β → γ} (hPut : ∀ entry value, keyOf (put entry value) = key entry)
    {entries : List α} {values : List β}
    (hNames : List.Forall₂ (fun entry value => nameOf value = name entry) entries values)
    (hKeys : (entries.map key).Nodup) (hDistinct : (entries.map name).Nodup) {entry : α}
    (hMem : entry ∈ entries) :
    (List.zipWith put entries values).filter (fun item => keyOf item = key entry) =
      (values.filter fun value => nameOf value = name entry).map (put entry) := by
  induction hNames with
  | nil => cases hMem
  | @cons first value rest values hName hRest ih =>
      rw [List.map_cons, List.nodup_cons] at hKeys hDistinct
      rcases List.mem_cons.mp hMem with rfl | hLater
      · have hOthers : (List.zipWith put rest values).filter
            (fun item => keyOf item = key entry) = [] := by
          refine filter_key_of_absent fun item hItem hSame => ?_
          obtain ⟨other, hOther, value', -, rfl⟩ := exists_of_mem_zipWith hItem
          exact hKeys.1 (hSame ▸ hPut other value' ▸ List.mem_map_of_mem hOther)
        have hNone : values.filter (fun value => nameOf value = name entry) = [] := by
          refine filter_key_of_absent fun value' hValue hSame => ?_
          obtain ⟨other, hOther, hName'⟩ := exists_left_of_mem hRest hValue
          exact hDistinct.1 (hSame ▸ hName' ▸ List.mem_map_of_mem hOther)
        rw [List.zipWith_cons_cons, List.filter_cons_of_pos (by simpa using hPut entry value),
          hOthers, List.filter_cons_of_pos (by simpa using hName), hNone]
        rfl
      · have hKey : key first ≠ key entry := fun hSame =>
          hKeys.1 (hSame ▸ List.mem_map_of_mem hLater)
        have hOther : name first ≠ name entry := fun hSame =>
          hDistinct.1 (hSame ▸ List.mem_map_of_mem hLater)
        rw [List.zipWith_cons_cons, List.filter_cons_of_neg (by simpa [hPut] using hKey),
          ih hKeys.2 hDistinct.2 hLater, List.filter_cons_of_neg (by simpa [hName] using hOther)]

/-- A table that is filled from a list with distinct keys holds its entries. -/
theorem find_foldl_set {key : α → κ} {value : α → β} (entries : List α)
    (table : UnorderedMap κ β) (hKeys : (entries.map key).Nodup) (k : κ) :
    (entries.foldl (fun table entry => table.set (key entry) (value entry)) table).find k =
      match entries.find? fun entry => key entry = k with
      | some entry => some (value entry)
      | none => table.find k := by
  induction entries generalizing table with
  | nil => rfl
  | cons first rest ih =>
      rw [List.map_cons, List.nodup_cons] at hKeys
      rw [List.foldl_cons, ih _ hKeys.2, List.find?_cons]
      by_cases hFirst : key first = k
      · have hAbsent : rest.find? (fun entry => key entry = k) = none := by
          rw [List.find?_eq_none]
          intro entry hMem hSame
          exact hKeys.1 (hFirst ▸ of_decide_eq_true hSame ▸ List.mem_map_of_mem hMem)
        rw [hAbsent]
        simp [hFirst]
      · have hOther : (table.set (key first) (value first)).find k = table.find k :=
          UnorderedMap.find_set_ne table _ (Ne.symm hFirst)
        simp only [hFirst, decide_false, hOther]

end Foundations
