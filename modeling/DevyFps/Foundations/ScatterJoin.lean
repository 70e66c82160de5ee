import Mathlib.Data.List.Basic
import Mathlib.Data.List.Nodup

/-! A join that scatters its entries: every entry is written into the row that an index
finds for its key. With one entry for each key the rows are joined with the entries. -/

universe u v w x

namespace Foundations

variable {κ : Type u} {α : Type v} {β : Type w} {γ : Type x}

/-- Write every entry into its row; entries that have no row are skipped. -/
def scatter (place : κ → Option Nat) (key : α → κ) (write : α → β → β) (entries : List α)
    (rows : List β) : List β :=
  entries.foldl
    (fun rows entry =>
      match place (key entry) with
      | none => rows
      | some i => rows.modify i (write entry))
    rows

/-- The row of a key with the entry of that key. -/
def joinRow [DecidableEq κ] (key : α → κ) (write : α → β → β) (entries : List α) (k : κ)
    (row : β) : β :=
  match entries.find? fun entry => key entry = k with
  | none => row
  | some entry => write entry row

variable {place : κ → Option Nat} {key : α → κ} {write : α → β → β}

@[simp] theorem length_scatter (entries : List α) (rows : List β) :
    (scatter place key write entries rows).length = rows.length := by
  unfold scatter
  induction entries generalizing rows with
  | nil => rfl
  | cons entry rest ih =>
      rw [List.foldl_cons, ih]
      split
      · rfl
      · exact List.length_modify ..

/-- A row whose key no entry has stays as it was. -/
theorem getElem?_scatter_of_absent {i : Nat} {k : κ} (hPlace : ∀ k', place k' = some i → k' = k)
    {entries : List α} (hAbsent : ∀ entry ∈ entries, key entry ≠ k) (rows : List β) :
    (scatter place key write entries rows)[i]? = rows[i]? := by
  unfold scatter
  induction entries generalizing rows with
  | nil => rfl
  | cons entry rest ih =>
      rw [List.foldl_cons, ih fun other hOther => hAbsent other (List.mem_cons_of_mem _ hOther)]
      cases hEntry : place (key entry) with
      | none => rfl
      | some j =>
          have hNe : j ≠ i := by
            rintro rfl
            exact hAbsent entry List.mem_cons_self (hPlace _ hEntry)
          exact List.getElem?_modify_ne _ _ hNe

theorem getElem?_scatter [DecidableEq κ] {i : Nat} {k : κ}
    (hPlace : ∀ k', place k' = some i ↔ k' = k) {entries : List α}
    (hKeys : (entries.map key).Nodup) (rows : List β) :
    (scatter place key write entries rows)[i]? = rows[i]?.map (joinRow key write entries k) := by
  induction entries generalizing rows with
  | nil => exact (Option.map_id_apply).symm
  | cons entry rest ih =>
      rw [List.map_cons, List.nodup_cons] at hKeys
      by_cases hEntry : key entry = k
      · have hAbsent : ∀ other ∈ rest, key other ≠ k := by
          intro other hOther hSame
          exact hKeys.1 (hEntry.trans hSame.symm ▸ List.mem_map_of_mem hOther)
        have hLater : (scatter place key write rest (rows.modify i (write entry)))[i]? =
            (rows.modify i (write entry))[i]? :=
          getElem?_scatter_of_absent (fun k' => (hPlace k').mp) hAbsent _
        unfold scatter at hLater ⊢
        rw [List.foldl_cons, (hPlace _).mpr hEntry]
        dsimp only
        rw [hLater, List.getElem?_modify_eq]
        congr 1
        funext row
        rw [joinRow, List.find?_cons_of_pos (by simpa using hEntry)]
      · have hRow : joinRow key write (entry :: rest) k = joinRow key write rest k := by
          funext row
          rw [joinRow, List.find?_cons_of_neg (by simpa using hEntry), joinRow]
        have hLater := ih hKeys.2
        unfold scatter at hLater ⊢
        rw [List.foldl_cons, hLater, hRow]
        cases hOther : place (key entry) with
        | none => rfl
        | some j =>
            have hNe : j ≠ i := by
              rintro rfl
              exact hEntry ((hPlace _).mp hOther)
            dsimp only
            rw [List.getElem?_modify_ne _ _ hNe]

/-- Rows made from keyed items are joined with the entries, item by item. -/
theorem scatter_map [DecidableEq κ] {id : γ → κ} {items : List γ}
    (hPlace : ∀ k i, place k = some i ↔ ∃ item, items[i]? = some item ∧ id item = k)
    {entries : List α} (hKeys : (entries.map key).Nodup) (row : γ → β) :
    scatter place key write entries (items.map row) =
      items.map fun item => joinRow key write entries (id item) (row item) := by
  apply List.ext_getElem?
  intro i
  cases hItem : items[i]? with
  | none =>
      rw [List.getElem?_map, hItem, Option.map_none, List.getElem?_eq_none_iff, length_scatter,
        List.length_map]
      exact List.getElem?_eq_none_iff.mp hItem
  | some item =>
      have hHere : ∀ k, place k = some i ↔ k = id item := by
        intro k
        rw [hPlace, hItem]
        simp [eq_comm]
      rw [getElem?_scatter hHere hKeys, List.getElem?_map, List.getElem?_map, hItem]
      rfl

end Foundations
