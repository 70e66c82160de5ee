import DevyFps.Foundations.Sort
import DevyFps.Foundations.UnorderedMap

/-! Tables whose values carry their own keys, listed in some order. -/

universe u v

namespace Foundations

variable {κ : Type u} {α : Type v} [DecidableEq κ]

/-- Every value is stored under the key that it carries. -/
def CarriesKeys (key : α → κ) (table : UnorderedMap κ α) : Prop :=
  ∀ k value, table.find k = some value → key value = k

/-- In a list without repeated keys an entry is found by its key. -/
theorem find?_key {key : α → κ} {entries : List α} (h : (entries.map key).Nodup) {entry : α}
    (hMem : entry ∈ entries) : entries.find? (fun other => key other = key entry) = some entry := by
  have hSome : (entries.find? fun other => key other = key entry).isSome = true :=
    List.find?_isSome.mpr ⟨entry, hMem, by simp⟩
  obtain ⟨found, hFound⟩ := Option.isSome_iff_exists.mp hSome
  have hKey : key found = key entry := by simpa using List.find?_some hFound
  rw [hFound, List.inj_on_of_nodup_map h (List.mem_of_find?_eq_some hFound) hMem hKey]

variable {key : α → κ} {table : UnorderedMap κ α}

theorem CarriesKeys.map_values (h : CarriesKeys key table) :
    table.values.map key = table.keys := by
  rw [← UnorderedMap.map_snd_items, ← UnorderedMap.map_fst_items, List.map_map]
  exact List.map_congr_left fun item hItem => h item.1 item.2 (UnorderedMap.mem_items_iff.mp hItem)

theorem CarriesKeys.nodup_sortBy (h : CarriesKeys key table) (less : α → α → Bool) :
    ((sortBy less table.values).map key).Nodup := by
  rw [((sortBy_perm less table.values).map key).nodup_iff, h.map_values]
  exact table.keys_nodup

/-- The listed values are found as in the table. -/
theorem CarriesKeys.find?_sortBy (h : CarriesKeys key table) (less : α → α → Bool) (k : κ) :
    (sortBy less table.values).find? (fun value => key value = k) = table.find k := by
  cases hFind : table.find k with
  | some value =>
      obtain rfl := h k value hFind
      have hMem : value ∈ sortBy less table.values :=
        mem_sortBy.mpr (UnorderedMap.mem_values_iff.mpr ⟨_, hFind⟩)
      exact find?_key (h.nodup_sortBy less) hMem
  | none =>
      rw [List.find?_eq_none]
      intro value hValue hKey
      obtain ⟨k', hStored⟩ := UnorderedMap.mem_values_iff.mp (mem_sortBy.mp hValue)
      obtain rfl := (h k' value hStored).symm.trans (of_decide_eq_true hKey)
      rw [hFind] at hStored
      cases hStored

end Foundations
