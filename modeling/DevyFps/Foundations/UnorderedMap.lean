import Mathlib.Data.List.AList
import Mathlib.Data.Finset.Card
import Mathlib.Algebra.BigOperators.Group.Finset.Basic
import Mathlib.Algebra.GroupWithZero.Nat

/-! Hash maps in the sense of `std::unordered_map`: a finite table with unique
keys, together with the order in which the container would be iterated. The
order carries no meaning; `SameContents` relates two tables that differ only in
it. -/

universe u v w

/-- A table with unique keys, listed in its iteration order. -/
def UnorderedMap (κ : Type u) (α : Type v) := AList (fun _ : κ => α)

namespace UnorderedMap

variable {κ : Type u} {α : Type v} {β : Type w}

instance : EmptyCollection (UnorderedMap κ α) := ⟨(∅ : AList fun _ : κ => α)⟩

instance : Inhabited (UnorderedMap κ α) := ⟨∅⟩

instance [DecidableEq κ] [DecidableEq α] : DecidableEq (UnorderedMap κ α) :=
  inferInstanceAs (DecidableEq (AList fun _ : κ => α))

/-- The keys in iteration order. -/
def keys (m : UnorderedMap κ α) : List κ := AList.keys m

/-- The mapped values in iteration order. -/
def values (m : UnorderedMap κ α) : List α := (AList.entries m).map Sigma.snd

/-- The pairs in iteration order. -/
def items (m : UnorderedMap κ α) : List (κ × α) :=
  (AList.entries m).map fun entry => (entry.1, entry.2)

def size (m : UnorderedMap κ α) : Nat := (AList.entries m).length

/-- Replace every value, as a loop over the container does. -/
def mapValues (m : UnorderedMap κ α) (f : κ → α → β) : UnorderedMap κ β :=
  ⟨(AList.entries m).map fun entry => ⟨entry.1, f entry.1 entry.2⟩,
    (AList.nodupKeys m).map₂ f _⟩

@[simp] theorem keys_empty : keys (∅ : UnorderedMap κ α) = [] := rfl

@[simp] theorem values_empty : values (∅ : UnorderedMap κ α) = [] := rfl

@[simp] theorem size_empty : size (∅ : UnorderedMap κ α) = 0 := rfl

/-- Each key is in the table once. -/
theorem keys_nodup (m : UnorderedMap κ α) : m.keys.Nodup := AList.keys_nodup m

@[simp] theorem length_keys (m : UnorderedMap κ α) : m.keys.length = m.size := by
  simp [keys, size, AList.keys, List.keys]

@[simp] theorem length_values (m : UnorderedMap κ α) : m.values.length = m.size := by
  simp [values, size]

theorem map_fst_items (m : UnorderedMap κ α) : m.items.map Prod.fst = m.keys := by
  simp [items, keys, AList.keys, List.keys, Function.comp_def]

theorem map_snd_items (m : UnorderedMap κ α) : m.items.map Prod.snd = m.values := by
  simp [items, values, Function.comp_def]

@[simp] theorem keys_mapValues (m : UnorderedMap κ α) (f : κ → α → β) :
    (m.mapValues f).keys = m.keys := by
  simp [mapValues, keys, AList.keys, List.keys, Function.comp_def]

@[simp] theorem size_mapValues (m : UnorderedMap κ α) (f : κ → α → β) :
    (m.mapValues f).size = m.size := by
  simp [mapValues, size]

variable [DecidableEq κ]

/-- `find`: the value stored under a key. -/
def find (m : UnorderedMap κ α) (k : κ) : Option α := AList.lookup k m

/-- `m[k] = v`. -/
def set (m : UnorderedMap κ α) (k : κ) (v : α) : UnorderedMap κ α := AList.insert k v m

/-- `erase` by key. -/
def erase (m : UnorderedMap κ α) (k : κ) : UnorderedMap κ α := AList.erase k m

/-- `try_emplace`: an existing value is kept. -/
def tryEmplace (m : UnorderedMap κ α) (k : κ) (v : α) : UnorderedMap κ α :=
  match m.find k with
  | some _ => m
  | none => m.set k v

/-- Update in place through an iterator; a missing key is left missing. -/
def modify (m : UnorderedMap κ α) (k : κ) (f : α → α) : UnorderedMap κ α :=
  match m.find k with
  | some v => m.set k (f v)
  | none => m

/-- Two tables with the same contents in possibly different iteration orders. -/
def SameContents (m m' : UnorderedMap κ α) : Prop := ∀ k, m.find k = m'.find k

@[simp] theorem find_empty (k : κ) : (∅ : UnorderedMap κ α).find k = none :=
  AList.lookup_empty k

/-- Setting a key changes what is found under it only. -/
theorem find_set (m : UnorderedMap κ α) (k k' : κ) (v : α) :
    (m.set k v).find k' = if k' = k then some v else m.find k' := by
  by_cases h : k' = k
  · subst h
    simpa [find, set] using AList.lookup_insert m
  · simpa [find, set, h] using AList.lookup_insert_ne (s := m) h

@[simp] theorem find_set_self (m : UnorderedMap κ α) (k : κ) (v : α) :
    (m.set k v).find k = some v := by simp [find_set]

theorem find_set_ne (m : UnorderedMap κ α) {k k' : κ} (v : α) (h : k' ≠ k) :
    (m.set k v).find k' = m.find k' := by simp [find_set, h]

/-- An erased key is not found, and all others still are. -/
theorem find_erase (m : UnorderedMap κ α) (k k' : κ) :
    (m.erase k).find k' = if k' = k then none else m.find k' := by
  by_cases h : k' = k
  · subst h
    simpa [find, erase] using AList.lookup_erase k' m
  · simpa [find, erase, h] using AList.lookup_erase_ne (s := m) h

/-- A value that is there already stays when it is emplaced again. -/
theorem find_tryEmplace (m : UnorderedMap κ α) (k k' : κ) (v : α) :
    (m.tryEmplace k v).find k' =
      if k' = k then some ((m.find k).getD v) else m.find k' := by
  unfold tryEmplace
  cases h : m.find k with
  | none => simp [find_set]
  | some old =>
      by_cases hk : k' = k
      · simp [hk, h]
      · simp [hk]

/-- Emplacing a key that is there changes nothing at all, the order included. -/
theorem tryEmplace_of_find {m : UnorderedMap κ α} {k : κ} {v : α} (h : m.find k = some v)
    (v' : α) : m.tryEmplace k v' = m := by
  unfold tryEmplace
  rw [h]

/-- A key that is not there is not created by a change of its value. -/
theorem find_modify (m : UnorderedMap κ α) (k k' : κ) (f : α → α) :
    (m.modify k f).find k' = if k' = k then (m.find k).map f else m.find k' := by
  unfold modify
  cases h : m.find k with
  | none =>
      by_cases hk : k' = k
      · simp [hk, h]
      · simp [hk]
  | some old => simp [find_set]

theorem find_mapValues (m : UnorderedMap κ α) (f : κ → α → β) (k : κ) :
    (m.mapValues f).find k = (m.find k).map (f k) :=
  List.dlookup_map₂ (l := AList.entries m) (f := f) k

/-- A key is listed exactly if it is found. -/
theorem mem_keys_iff {m : UnorderedMap κ α} {k : κ} : k ∈ m.keys ↔ ∃ v, m.find k = some v := by
  rw [← Option.isSome_iff_exists]
  exact (AList.lookup_isSome (s := m)).symm

theorem find_eq_none_iff {m : UnorderedMap κ α} {k : κ} : m.find k = none ↔ k ∉ m.keys := by
  rw [mem_keys_iff]
  cases m.find k <;> simp

/-- The listed pairs are those that are found. -/
theorem mem_items_iff {m : UnorderedMap κ α} {k : κ} {v : α} :
    (k, v) ∈ m.items ↔ m.find k = some v := by
  have hMem : (k, v) ∈ m.items ↔ (⟨k, v⟩ : Sigma fun _ : κ => α) ∈ AList.entries m := by
    simp only [items, List.mem_map, Prod.mk.injEq]
    constructor
    · rintro ⟨⟨k', v'⟩, hEntry, rfl, rfl⟩
      exact hEntry
    · exact fun hEntry => ⟨⟨k, v⟩, hEntry, rfl, rfl⟩
  rw [hMem]
  exact (List.mem_dlookup_iff (AList.nodupKeys m)).symm

/-- The listed values are those that are found under some key. -/
theorem mem_values_iff {m : UnorderedMap κ α} {v : α} :
    v ∈ m.values ↔ ∃ k, m.find k = some v := by
  rw [← map_snd_items, List.mem_map]
  constructor
  · rintro ⟨⟨k, v'⟩, hItem, rfl⟩
    exact ⟨k, mem_items_iff.mp hItem⟩
  · rintro ⟨k, hFind⟩
    exact ⟨(k, v), mem_items_iff.mpr hFind, rfl⟩

/-- A set value is listed first, whether or not it replaces one. -/
theorem values_set (m : UnorderedMap κ α) (k : κ) (v : α) :
    (m.set k v).values = v :: (m.erase k).values :=
  rfl

theorem entries_erase (m : UnorderedMap κ α) (k : κ) :
    AList.entries (m.erase k) = (AList.entries m).kerase k :=
  rfl

/-- Taking one stored value out leaves the values of the erased table. -/
theorem values_perm_of_find {m : UnorderedMap κ α} {k : κ} {v : α} (h : m.find k = some v) :
    m.values.Perm (v :: (m.erase k).values) := by
  obtain ⟨b, before, after, hNot, hEntries, hErase⟩ :=
    List.exists_of_kerase (a := k) (l := AList.entries m) (by
      have := mem_keys_iff.mpr ⟨v, h⟩
      simpa [keys, AList.keys] using this)
  have hb : b = v := by
    have hMem : (⟨k, b⟩ : Sigma fun _ : κ => α) ∈ AList.entries m := by
      rw [hEntries]; simp
    have hLookup := (List.mem_dlookup_iff (AList.nodupKeys m)).mpr hMem
    have hFind : m.find k = some b := hLookup
    rw [h] at hFind
    exact (Option.some.inj hFind).symm
  subst hb
  have hValues : m.values = before.map Sigma.snd ++ b :: after.map Sigma.snd := by
    simp [values, hEntries]
  have hErased : (m.erase k).values = before.map Sigma.snd ++ after.map Sigma.snd := by
    simp [values, entries_erase, hErase]
  rw [hValues, hErased]
  exact List.perm_middle

/-- Erasing a key that is not there changes nothing. -/
theorem erase_eq_self_of_find_none {m : UnorderedMap κ α} {k : κ} (h : m.find k = none) :
    m.erase k = m := by
  apply AList.ext
  have hKeys : k ∉ (AList.entries m).keys := by
    simpa [keys, AList.keys] using find_eq_none_iff.mp h
  rw [entries_erase, List.kerase_of_notMem_keys hKeys]

/-- A new key adds its value and moves nothing else. -/
theorem values_set_of_find_none {m : UnorderedMap κ α} {k : κ} (v : α) (h : m.find k = none) :
    (m.set k v).values = v :: m.values := by
  rw [values_set, erase_eq_self_of_find_none h]

/-- An erased key makes the table one smaller. -/
theorem size_erase_add_one {m : UnorderedMap κ α} {k : κ} {v : α} (h : m.find k = some v) :
    (m.erase k).size + 1 = m.size := by
  have hPerm := (values_perm_of_find h).length_eq
  simpa using hPerm.symm

/-- A new key makes the table one larger. -/
theorem size_set_of_find_none {m : UnorderedMap κ α} {k : κ} (v : α) (h : m.find k = none) :
    (m.set k v).size = m.size + 1 := by
  have hValues := congrArg List.length (values_set_of_find_none v h)
  simpa using hValues

/-- Storing under a known key only replaces. -/
theorem size_set_of_find {m : UnorderedMap κ α} {k : κ} {v : α} (w : α) (h : m.find k = some v) :
    (m.set k w).size = m.size := by
  have hValues := congrArg List.length (values_set m k w)
  rw [length_values, List.length_cons, length_values, size_erase_add_one h] at hValues
  exact hValues

/-- A set grows the table by one at most. -/
theorem size_set_le (m : UnorderedMap κ α) (k : κ) (v : α) : (m.set k v).size ≤ m.size + 1 := by
  cases h : m.find k with
  | none => exact (size_set_of_find_none v h).le
  | some w => exact (size_set_of_find v h).le.trans (Nat.le_succ _)

theorem size_modify (m : UnorderedMap κ α) (k : κ) (f : α → α) : (m.modify k f).size = m.size := by
  unfold modify
  cases h : m.find k with
  | none => rfl
  | some v => exact size_set_of_find _ h

theorem size_le_tryEmplace (m : UnorderedMap κ α) (k : κ) (v : α) :
    m.size ≤ (m.tryEmplace k v).size := by
  unfold tryEmplace
  cases h : m.find k with
  | none =>
      rw [size_set_of_find_none v h]
      exact Nat.le_succ _
  | some w => exact Nat.le_refl _

/-- Counting the values that satisfy a test counts their keys. -/
theorem length_filter_values (m : UnorderedMap κ α) (p : α → Bool) (s : Finset κ)
    (h : ∀ k, k ∈ s ↔ (m.find k).any p = true) : (m.values.filter p).length = s.card := by
  have hNodup : ((m.items.filter fun item => p item.2).map Prod.fst).Nodup := by
    apply List.Nodup.sublist (List.filter_sublist.map Prod.fst)
    rw [map_fst_items]
    exact m.keys_nodup
  have hSet : s = ((m.items.filter fun item => p item.2).map Prod.fst).toFinset := by
    ext k
    rw [h, List.mem_toFinset, List.mem_map]
    constructor
    · intro hAny
      obtain ⟨v, hFind, hTrue⟩ := (Option.any_eq_true p (m.find k)).mp hAny
      exact ⟨(k, v), List.mem_filter.mpr ⟨mem_items_iff.mpr hFind, hTrue⟩, rfl⟩
    · rintro ⟨⟨k', v⟩, hMem, rfl⟩
      obtain ⟨hItem, hTrue⟩ := List.mem_filter.mp hMem
      rw [mem_items_iff.mp hItem]
      exact hTrue
  rw [hSet, List.toFinset_card_of_nodup hNodup, List.length_map, ← map_snd_items, List.filter_map,
    List.length_map]
  rfl

/-- A sum over the stored values is a sum over any set of keys that has them all. -/
theorem sum_values (m : UnorderedMap κ α) (f : α → Nat) (s : Finset κ)
    (h : ∀ k ∈ m.keys, k ∈ s) :
    (m.values.map f).sum = ∑ k ∈ s, ((m.find k).map f).getD 0 := by
  have hItems : m.values.map f = m.keys.map fun k => ((m.find k).map f).getD 0 := by
    rw [← map_snd_items, ← map_fst_items, List.map_map, List.map_map]
    apply List.map_congr_left
    intro item hItem
    have hFind : m.find item.1 = some item.2 := mem_items_iff.mp hItem
    simp [hFind]
  have hSubset : m.keys.toFinset ⊆ s := fun k hk => h k (List.mem_toFinset.mp hk)
  rw [hItems, ← List.sum_toFinset _ m.keys_nodup]
  apply Finset.sum_subset hSubset
  intro k _ hNot
  rw [find_eq_none_iff.mpr fun hMem => hNot (List.mem_toFinset.mpr hMem)]
  rfl

/-! Tables with the same keys, whatever is stored under them. -/

/-- The same keys are known. -/
def SameKeys (m : UnorderedMap κ α) (m' : UnorderedMap κ β) : Prop :=
  ∀ k, m'.find k ≠ none ↔ m.find k ≠ none

theorem SameKeys.refl (m : UnorderedMap κ α) : m.SameKeys m := fun _ => Iff.rfl

/-- Tables with the same keys, by way of a third one. -/
theorem SameKeys.trans {m m' m'' : UnorderedMap κ α} (h : m.SameKeys m')
    (h' : m'.SameKeys m'') : m.SameKeys m'' :=
  fun k => (h' k).trans (h k)

/-- Storing under a known key adds no key. -/
theorem SameKeys.set {m m' : UnorderedMap κ α} (h : m.SameKeys m') {k : κ}
    (hKnown : m.find k ≠ none) (v : α) : m.SameKeys (m'.set k v) := by
  intro k'
  rw [find_set]
  split
  · rename_i hSame
    exact ⟨fun _ => hSame ▸ hKnown, fun _ => Option.some_ne_none v⟩
  · exact h k'

/-- A known key is not a new one. -/
theorem SameKeys.tryEmplace {m m' : UnorderedMap κ α} (h : m.SameKeys m') {k : κ}
    (hKnown : m.find k ≠ none) (v : α) : m.SameKeys (m'.tryEmplace k v) := by
  obtain ⟨old, hOld⟩ := Option.ne_none_iff_exists'.mp ((h k).mpr hKnown)
  rw [tryEmplace_of_find hOld]
  exact h

theorem SameKeys.modify {m m' : UnorderedMap κ α} (h : m.SameKeys m') (k : κ) (f : α → α) :
    m.SameKeys (m'.modify k f) := by
  intro k'
  rw [find_modify]
  split
  · rename_i hSame
    rw [hSame, Ne, Option.map_eq_none_iff]
    exact h k
  · exact h k'

theorem SameKeys.mapValues {m m' : UnorderedMap κ α} (h : m.SameKeys m') (f : κ → α → β) :
    m.SameKeys (m'.mapValues f) := by
  intro k
  rw [find_mapValues, Ne, Option.map_eq_none_iff]
  exact h k

/-- A loop whose steps add no key adds none. -/
theorem SameKeys.foldl {σ ι : Type*} (table : σ → UnorderedMap κ α) {f : σ → ι → σ} {s t : σ}
    (h : (table s).SameKeys (table t)) {l : List ι}
    (hStep : ∀ a ∈ l, ∀ u, (table s).SameKeys (table u) → (table s).SameKeys (table (f u a))) :
    (table s).SameKeys (table (l.foldl f t)) := by
  induction l generalizing t with
  | nil => exact h
  | cons head rest ih =>
      exact ih (hStep head List.mem_cons_self t h)
        fun a hA => hStep a (List.mem_cons_of_mem head hA)

theorem SameContents.refl (m : UnorderedMap κ α) : m.SameContents m := fun _ => rfl

theorem SameContents.symm {m m' : UnorderedMap κ α} (h : m.SameContents m') :
    m'.SameContents m := fun k => (h k).symm

theorem SameContents.trans {m m' m'' : UnorderedMap κ α} (h : m.SameContents m')
    (h' : m'.SameContents m'') : m.SameContents m'' := fun k => (h k).trans (h' k)

/-- What is set in both tables keeps their contents the same. -/
theorem SameContents.set {m m' : UnorderedMap κ α} (h : m.SameContents m') (k : κ) (v : α) :
    (m.set k v).SameContents (m'.set k v) := by
  intro k'
  rw [find_set, find_set, h k']

theorem SameContents.modify {m m' : UnorderedMap κ α} (h : m.SameContents m') (k : κ)
    (f : α → α) : (m.modify k f).SameContents (m'.modify k f) := by
  intro k'
  rw [find_modify, find_modify, h k, h k']

/-- A loop that visits every key once and replaces its value, in whatever order it comes. -/
theorem sameContents_foldl_modify (m : UnorderedMap κ α) (f : κ → α → α) {order : List κ}
    (hOnce : order.Nodup) (hAll : ∀ k, m.find k ≠ none → k ∈ order) :
    (order.foldl (fun t k => t.modify k (f k)) m).SameContents (m.mapValues f) := by
  have hLoop : ∀ k, (order.foldl (fun t k => t.modify k (f k)) m).find k =
      if k ∈ order then (m.find k).map (f k) else m.find k := by
    clear hAll
    induction order generalizing m with
    | nil => exact fun k => by simp
    | cons head rest ih =>
        obtain ⟨hNew, hRest⟩ := List.nodup_cons.mp hOnce
        intro k
        rw [List.foldl_cons, ih _ hRest, find_modify]
        by_cases hHead : k = head
        · subst hHead
          simp [hNew]
        · simp [hHead]
  intro k
  rw [hLoop, find_mapValues]
  split
  · rfl
  · rename_i hOut
    rw [not_not.mp (mt (hAll k) hOut), Option.map_none]

/-- Equal contents are a reordering of one list of entries. -/
theorem SameContents.entries_perm {m m' : UnorderedMap κ α} (h : m.SameContents m') :
    (AList.entries m).Perm (AList.entries m') :=
  List.lookup_ext (AList.nodupKeys m) (AList.nodupKeys m') fun k v => by
    have hFind : (AList.entries m).dlookup k = (AList.entries m').dlookup k := h k
    rw [hFind]

/-- Tables with the same contents list the same pairs, in some order. -/
theorem SameContents.items_perm {m m' : UnorderedMap κ α} (h : m.SameContents m') :
    m.items.Perm m'.items :=
  h.entries_perm.map _

/-- Tables with the same contents are of one size. -/
theorem SameContents.size_eq {m m' : UnorderedMap κ α} (h : m.SameContents m') :
    m.size = m'.size :=
  h.entries_perm.length_eq

/-- Every order of the items is the iteration order of some table. -/
theorem exists_of_items_perm {m : UnorderedMap κ α} {order : List (κ × α)}
    (h : order.Perm m.items) :
    ∃ m' : UnorderedMap κ α, m'.items = order ∧ m.SameContents m' := by
  have hItems : (order.map fun item => (⟨item.1, item.2⟩ : Sigma fun _ : κ => α)).Perm
      (AList.entries m) := by
    have hMap := h.map fun item => (⟨item.1, item.2⟩ : Sigma fun _ : κ => α)
    simpa [items, Function.comp_def] using hMap
  have hNodup : (order.map fun item => (⟨item.1, item.2⟩ : Sigma fun _ : κ => α)).NodupKeys :=
    (List.perm_nodupKeys hItems).mpr (AList.nodupKeys m)
  let m' : UnorderedMap κ α := ⟨_, hNodup⟩
  refine ⟨m', ?_, fun k => ?_⟩
  · simp [m', items, Function.comp_def]
  · exact (List.perm_dlookup k hNodup hItems).symm

/-- Tables whose values determine their keys injectively fit in the target set. -/
theorem size_le_card {γ : Type*} [DecidableEq γ] (m : UnorderedMap κ α) (f : α → γ)
    (s : Finset γ) (hMaps : ∀ k v, m.find k = some v → f v ∈ s)
    (hInj : ∀ k k' v v', m.find k = some v → m.find k' = some v' → f v = f v' → k = k') :
    m.size ≤ s.card := by
  classical
  let image : κ → Option γ := fun k => (m.find k).map f
  have hCard : (m.keys.toFinset.image image).card = m.size := by
    rw [Finset.card_image_of_injOn, List.toFinset_card_of_nodup m.keys_nodup, length_keys]
    intro k hk k' hk' hImage
    obtain ⟨v, hv⟩ := mem_keys_iff.mp (List.mem_toFinset.mp hk)
    obtain ⟨v', hv'⟩ := mem_keys_iff.mp (List.mem_toFinset.mp hk')
    refine hInj k k' v v' hv hv' ?_
    simpa [image, hv, hv'] using hImage
  rw [← hCard, ← Finset.card_image_of_injective s (Option.some_injective γ)]
  apply Finset.card_le_card
  intro target hTarget
  obtain ⟨k, hk, rfl⟩ := Finset.mem_image.mp hTarget
  obtain ⟨v, hv⟩ := mem_keys_iff.mp (List.mem_toFinset.mp hk)
  exact Finset.mem_image.mpr ⟨f v, hMaps k v hv, by simp [image, hv]⟩

/-- A table whose values reach every element of a set has at least that many keys. -/
theorem card_le_size {γ : Type*} [DecidableEq γ] (m : UnorderedMap κ α) (f : α → γ)
    (s : Finset γ) (hOnto : ∀ target ∈ s, ∃ k v, m.find k = some v ∧ f v = target) :
    s.card ≤ m.size := by
  have hSubset : s ⊆ (m.values.map f).toFinset := by
    intro target hTarget
    obtain ⟨k, v, hFind, rfl⟩ := hOnto target hTarget
    exact List.mem_toFinset.mpr (List.mem_map_of_mem (mem_values_iff.mpr ⟨k, hFind⟩))
  calc
    s.card ≤ (m.values.map f).toFinset.card := Finset.card_le_card hSubset
    _ ≤ (m.values.map f).length := List.toFinset_card_le _
    _ = m.size := by simp

end UnorderedMap
