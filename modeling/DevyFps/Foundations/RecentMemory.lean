import Mathlib.Data.Finset.Card

/-! A memory of the newest keys. A key that is not in it is new and is remembered at the end;
the oldest key is forgotten where that makes it too long. -/

universe u

namespace Foundations.RecentMemory

variable {α : Type u}

/-- The memory ends in the given keys, each once, and knows none of them from before. -/
def Retains (known keys : List α) : Prop :=
  ∃ old recent, known = old ++ recent ∧ recent.Nodup ∧ (∀ key, key ∈ recent ↔ key ∈ keys) ∧
    ∀ key ∈ old, key ∉ keys

theorem retains_nil (known : List α) : Retains known [] :=
  ⟨known, [], (List.append_nil known).symm, List.nodup_nil, fun _ => Iff.rfl, fun _ _ => by simp⟩

/-- What is retained is known. -/
theorem Retains.known {known keys : List α} (h : Retains known keys) {key : α}
    (hKey : key ∈ keys) : key ∈ known := by
  obtain ⟨old, recent, rfl, -, hSame, -⟩ := h
  exact List.mem_append_right old ((hSame key).mpr hKey)

variable [DecidableEq α]

def remember (limit : Nat) (known : List α) (key : α) : List α :=
  if (known ++ [key]).length > limit then (known ++ [key]).tail else known ++ [key]

/-- The memory after a key came by. -/
def note (limit : Nat) (known : List α) (key : α) : List α :=
  if key ∈ known then known else remember limit known key

def noteAll (limit : Nat) (known keys : List α) : List α := keys.foldl (note limit) known

/-- The keys that were new when they came by. -/
def fresh (limit : Nat) : List α → List α → List α
  | _, [] => []
  | known, key :: rest =>
      (if key ∈ known then [] else [key]) ++ fresh limit (note limit known key) rest

/-- The memory stays within its limit. -/
theorem length_note_le {limit : Nat} {known : List α} (h : known.length ≤ limit) (key : α) :
    (note limit known key).length ≤ limit := by
  unfold note remember
  split_ifs with hKnown hFull
  · exact h
  · rw [List.length_tail, List.length_append, List.length_singleton]
    exact h
  · exact not_lt.mp hFull

theorem length_noteAll_le {limit : Nat} {known : List α} (h : known.length ≤ limit)
    (keys : List α) : (noteAll limit known keys).length ≤ limit := by
  induction keys generalizing known with
  | nil => exact h
  | cons key rest ih => exact ih (length_note_le h key)

/-- Only what was noted is remembered. -/
theorem mem_note {limit : Nat} {known : List α} {key other : α}
    (h : other ∈ note limit known key) : other ∈ known ∨ other = key := by
  unfold note remember at h
  split_ifs at h with hKnown hFull
  · exact Or.inl h
  · simpa using List.mem_of_mem_tail h
  · simpa using h

theorem mem_noteAll {limit : Nat} {known keys : List α} {other : α}
    (h : other ∈ noteAll limit known keys) : other ∈ known ∨ other ∈ keys := by
  induction keys generalizing known with
  | nil => exact Or.inl h
  | cons key rest ih =>
      rcases ih h with hBefore | hRest
      · rcases mem_note hBefore with hKnown | rfl
        · exact Or.inl hKnown
        · exact Or.inr List.mem_cons_self
      · exact Or.inr (List.mem_cons_of_mem key hRest)

/-- Only keys that came are found fresh. -/
theorem mem_of_mem_fresh {limit : Nat} {known keys : List α} {other : α}
    (h : other ∈ fresh limit known keys) : other ∈ keys := by
  induction keys generalizing known with
  | nil => cases h
  | cons key rest ih =>
      rcases List.mem_append.mp h with hHead | hRest
      · split_ifs at hHead with hKnown
        · cases hHead
        · rw [List.mem_singleton.mp hHead]
          exact List.mem_cons_self
      · exact List.mem_cons_of_mem key (ih hRest)

/-- A key that is not known yet is fresh when it comes by. -/
theorem mem_fresh_of_unknown {limit : Nat} {known keys : List α} {key : α} (h : key ∈ keys)
    (hNew : key ∉ known) : key ∈ fresh limit known keys := by
  induction keys generalizing known with
  | nil => cases h
  | cons head rest ih =>
      by_cases hHead : key = head
      · subst hHead
        refine List.mem_append_left _ ?_
        rw [if_neg hNew]
        exact List.mem_singleton_self key
      · have hRest : key ∈ rest := (List.mem_cons.mp h).resolve_left hHead
        exact List.mem_append_right _
          (ih hRest fun hNoted => (mem_note hNoted).elim hNew hHead)

/-- Keys that are all in the memory leave it as it is. -/
theorem noteAll_of_known {limit : Nat} {known keys : List α} (h : ∀ key ∈ keys, key ∈ known) :
    noteAll limit known keys = known ∧ fresh limit known keys = [] := by
  induction keys with
  | nil => exact ⟨rfl, rfl⟩
  | cons key rest ih =>
      have hNote : note limit known key = known := if_pos (h key List.mem_cons_self)
      obtain ⟨hRest, hFresh⟩ := ih fun other hOther => h other (List.mem_cons_of_mem key hOther)
      constructor
      · unfold noteAll
        rw [List.foldl_cons, hNote]
        exact hRest
      · unfold fresh
        rw [hNote, if_pos (h key List.mem_cons_self), hFresh]
        rfl

/-- One more key is retained as long as there is room for all of them. -/
theorem Retains.note {limit : Nat} {known keys : List α} (h : Retains known keys)
    (hSize : known.length ≤ limit) {key : α} (hSeen : key ∈ known → key ∈ keys)
    (hRoom : (keys ++ [key]).toFinset.card ≤ limit) :
    Retains (note limit known key) (keys ++ [key]) := by
  obtain ⟨old, recent, rfl, hNodup, hSame, hOld⟩ := h
  unfold RecentMemory.note
  by_cases hKnown : key ∈ old ++ recent
  · have hKey := hSeen hKnown
    have hMem : ∀ other, other ∈ keys ++ [key] ↔ other ∈ keys := by
      intro other
      rw [List.mem_append, List.mem_singleton]
      exact ⟨fun hOther => hOther.elim id fun hEq => hEq ▸ hKey, Or.inl⟩
    rw [if_pos hKnown]
    exact ⟨old, recent, rfl, hNodup, fun other => (hSame other).trans (hMem other).symm,
      fun other hOther hIn => hOld other hOther ((hMem other).mp hIn)⟩
  · rw [List.mem_append, not_or] at hKnown
    have hKey : key ∉ keys := mt (hSame key).mpr hKnown.2
    have hNext : (recent ++ [key]).Nodup := by
      refine List.nodup_append.mpr ⟨hNodup, List.nodup_singleton key, ?_⟩
      intro a ha b hb
      rw [List.mem_singleton.mp hb]
      exact fun hEq => hKnown.2 (hEq ▸ ha)
    have hNextSame : ∀ other, other ∈ recent ++ [key] ↔ other ∈ keys ++ [key] := fun other => by
      rw [List.mem_append, List.mem_append, hSame]
    have hCard : recent.length + 1 = (keys ++ [key]).toFinset.card := by
      have hSets : (recent ++ [key]).toFinset = (keys ++ [key]).toFinset := by
        ext other
        rw [List.mem_toFinset, List.mem_toFinset]
        exact hNextSame other
      rw [← hSets, List.toFinset_card_of_nodup hNext, List.length_append, List.length_singleton]
    have hOldNext : ∀ other ∈ old, other ∉ keys ++ [key] := by
      intro other hOther hIn
      rcases List.mem_append.mp hIn with hBefore | hLast
      · exact hOld other hOther hBefore
      · exact hKnown.1 (List.mem_singleton.mp hLast ▸ hOther)
    rw [if_neg (by rw [List.mem_append]; exact not_or.mpr hKnown)]
    unfold remember
    by_cases hFull : (old ++ recent ++ [key]).length > limit
    · rw [if_pos hFull]
      cases old with
      | nil =>
          simp only [List.nil_append, List.length_append, List.length_singleton] at hFull
          omega
      | cons first rest =>
          exact ⟨rest, recent ++ [key], List.append_assoc rest recent [key], hNext, hNextSame,
            fun other hOther => hOldNext other (List.mem_cons_of_mem first hOther)⟩
    · rw [if_neg hFull]
      exact ⟨old, recent ++ [key], List.append_assoc old recent [key], hNext, hNextSame, hOldNext⟩

/-- While there is room for all keys, each of them is new once. -/
theorem Retains.noteAll {limit : Nat} {known keys more : List α} (h : Retains known keys)
    (hSize : known.length ≤ limit) (hSeen : ∀ key ∈ more, key ∈ known → key ∈ keys)
    (hRoom : (keys ++ more).toFinset.card ≤ limit) :
    Retains (noteAll limit known more) (keys ++ more) ∧ (fresh limit known more).Nodup ∧
      ∀ key ∈ fresh limit known more, key ∉ keys := by
  induction more generalizing known keys with
  | nil =>
      refine ⟨?_, List.nodup_nil, fun key hKey => by cases hKey⟩
      rw [List.append_nil]
      exact h
  | cons key rest ih =>
      have hSplit : keys ++ key :: rest = keys ++ [key] ++ rest := by
        rw [List.append_assoc, List.singleton_append]
      have hFirst : (keys ++ [key]).toFinset.card ≤ limit := by
        refine (Finset.card_le_card ?_).trans hRoom
        intro other hOther
        rw [List.mem_toFinset] at hOther ⊢
        rw [hSplit]
        exact List.mem_append_left rest hOther
      have hNext := h.note hSize (hSeen key List.mem_cons_self) hFirst
      rw [hSplit] at hRoom
      obtain ⟨hAll, hNodup, hNew⟩ := ih hNext (length_note_le hSize key)
        (fun other hOther hIn => by
          rcases mem_note hIn with hKnown | rfl
          · exact List.mem_append_left _
              (hSeen other (List.mem_cons_of_mem key hOther) hKnown)
          · exact List.mem_append_right _ (List.mem_singleton_self other))
        hRoom
      rw [hSplit]
      refine ⟨hAll, ?_, ?_⟩
      · unfold fresh
        split
        · exact hNodup
        · refine List.nodup_cons.mpr ⟨fun hLater => ?_, hNodup⟩
          exact hNew key hLater (List.mem_append_right _ (List.mem_singleton_self key))
      · intro other hOther hIn
        unfold fresh at hOther
        rcases List.mem_append.mp hOther with hHead | hRest
        · split_ifs at hHead with hKnown
          · cases hHead
          · rw [List.mem_singleton.mp hHead] at hIn
            exact hKnown (h.known hIn)
        · exact hNew other hRest (List.mem_append_left _ hIn)

end Foundations.RecentMemory
