import Mathlib.Data.List.Induction
import Mathlib.Data.List.Perm.Basic

/-! A loop that keeps the best candidate so far. Nothing is assumed of the comparison, which
need not be an order; its result is the same for every order of the candidates exactly when
the one that beats all others is beaten by none. -/

universe u v

namespace Foundations

variable {α : Type u} {β : Type v}

/-- The loop. A candidate replaces the best one so far if it beats it. -/
def runningBest (beats : α → α → Bool) (candidates : List α) : Option α :=
  candidates.foldl (fun best candidate =>
    match best with
    | none => some candidate
    | some best => if beats candidate best then some candidate else some best) none

variable {beats : α → α → Bool}

theorem runningBest_concat (candidates : List α) (last : α) :
    runningBest beats (candidates ++ [last]) =
      match runningBest beats candidates with
      | none => some last
      | some best => if beats last best then some last else some best :=
  List.foldl_concat _ _ _ _

theorem mem_of_runningBest {candidates : List α} {best : α}
    (h : runningBest beats candidates = some best) : best ∈ candidates := by
  induction candidates using List.reverseRecOn generalizing best with
  | nil => cases h
  | append_singleton rest last ih =>
      rw [runningBest_concat] at h
      cases hBefore : runningBest beats rest with
      | none =>
          rw [hBefore] at h
          injection h with h
          rw [h]
          exact List.mem_append_right _ (List.mem_singleton_self _)
      | some other =>
          rw [hBefore] at h
          dsimp only at h
          split at h
          · injection h with h
            rw [h]
            exact List.mem_append_right _ (List.mem_singleton_self _)
          · injection h with h
            exact List.mem_append_left _ (ih (h ▸ hBefore))

/-- A candidate that beats all others and is beaten by none is the result. -/
theorem runningBest_of_champion {candidates : List α} {champion : α}
    (hMem : champion ∈ candidates)
    (hBeats : ∀ other ∈ candidates, other ≠ champion → beats champion other = true)
    (hUnbeaten : ∀ other ∈ candidates, other ≠ champion → beats other champion = false) :
    runningBest beats candidates = some champion := by
  classical
  induction candidates using List.reverseRecOn with
  | nil => cases hMem
  | append_singleton rest last ih =>
      rw [runningBest_concat]
      by_cases hBefore : champion ∈ rest
      · rw [ih hBefore (fun other hOther => hBeats other (List.mem_append_left _ hOther))
          (fun other hOther => hUnbeaten other (List.mem_append_left _ hOther))]
        dsimp only
        by_cases hSame : last = champion
        · rw [hSame, ite_self]
        · rw [hUnbeaten last (List.mem_append_right _ (List.mem_singleton_self _)) hSame]
          exact if_neg Bool.false_ne_true
      · have hLast : last = champion := by
          rcases List.mem_append.mp hMem with hRest | hNow
          · exact absurd hRest hBefore
          · exact (List.mem_singleton.mp hNow).symm
        cases hBest : runningBest beats rest with
        | none => rw [hLast]
        | some best =>
            have hOther := mem_of_runningBest hBest
            have hNe : best ≠ champion := fun hEq => hBefore (hEq ▸ hOther)
            dsimp only
            rw [hLast, hBeats best (List.mem_append_left _ hOther) hNe, if_pos rfl]

/-- If a candidate beats all others, the order is irrelevant exactly when none beats it. -/
theorem runningBest_perm_iff {candidates : List α} {champion : α}
    (hMem : champion ∈ candidates)
    (hBeats : ∀ other ∈ candidates, other ≠ champion → beats champion other = true) :
    (∀ order : List α, order.Perm candidates →
        runningBest beats order = runningBest beats candidates) ↔
      ∀ other ∈ candidates, other ≠ champion → beats other champion = false := by
  classical
  constructor
  · intro hSame other hOther hNe
    by_contra hBeaten
    rw [Bool.not_eq_false] at hBeaten
    have hRest : other ∈ candidates.erase champion := (List.mem_erase_of_ne hNe).mpr hOther
    let rest := (candidates.erase champion).erase other
    have hSplit : candidates.Perm (champion :: other :: rest) :=
      (List.perm_cons_erase hMem).trans ((List.perm_cons_erase hRest).cons champion)
    have hFirst : (rest ++ [other] ++ [champion]).Perm candidates := by
      rw [List.append_assoc]
      exact (List.perm_append_comm.trans (List.Perm.swap _ _ _)).trans hSplit.symm
    have hSecond : (rest ++ [champion] ++ [other]).Perm candidates := by
      rw [List.append_assoc]
      exact List.perm_append_comm.trans hSplit.symm
    have hIn : ∀ {x : α}, x ∈ rest → x ∈ candidates := fun hx =>
      List.mem_of_mem_erase (List.mem_of_mem_erase hx)
    have hWins : ∀ earlier : List α, (∀ x ∈ earlier, x ∈ candidates) →
        runningBest beats (earlier ++ [champion]) = some champion := by
      intro earlier hEarlier
      rw [runningBest_concat]
      cases hBest : runningBest beats earlier with
      | none => rfl
      | some best =>
          dsimp only
          by_cases hEq : best = champion
          · rw [hEq, ite_self]
          · rw [hBeats best (hEarlier best (mem_of_runningBest hBest)) hEq, if_pos rfl]
    have hChampionLast := hWins (rest ++ [other]) fun x hx => by
      rcases List.mem_append.mp hx with hx | hx
      · exact hIn hx
      · exact List.mem_singleton.mp hx ▸ hOther
    have hOtherLast : runningBest beats (rest ++ [champion] ++ [other]) = some other := by
      rw [runningBest_concat, hWins rest fun x hx => hIn hx]
      exact if_pos hBeaten
    have hEq := (hSame _ hFirst).trans (hSame _ hSecond).symm
    rw [hChampionLast, hOtherLast] at hEq
    injection hEq with hEq
    exact hNe hEq.symm
  · intro hUnbeaten order hOrder
    rw [runningBest_of_champion hMem hBeats hUnbeaten]
    apply runningBest_of_champion (hOrder.mem_iff.mpr hMem)
    · exact fun other hOther => hBeats other (hOrder.mem_iff.mp hOther)
    · exact fun other hOther => hUnbeaten other (hOrder.mem_iff.mp hOther)

/-- Any order of what a filter lets through comes from an order of what it was given. -/
theorem exists_perm_filterMap {f : α → Option β} {given : List α} {order : List β}
    (h : order.Perm (given.filterMap f)) :
    ∃ arranged : List α, arranged.Perm given ∧ arranged.filterMap f = order := by
  classical
  induction order generalizing given with
  | nil => exact ⟨given, List.Perm.refl _, h.nil_eq.symm⟩
  | cons first rest ih =>
      obtain ⟨source, hSource, hFirst⟩ := List.mem_filterMap.mp (h.subset List.mem_cons_self)
      have hTaken := List.perm_cons_erase hSource
      have hRest : rest.Perm ((given.erase source).filterMap f) := by
        apply List.Perm.cons_inv (a := first)
        rw [← List.filterMap_cons_some hFirst]
        exact h.trans (hTaken.filterMap f)
      obtain ⟨arranged, hArranged, hOrder⟩ := ih hRest
      refine ⟨source :: arranged, (hArranged.cons source).trans hTaken.symm, ?_⟩
      rw [List.filterMap_cons_some hFirst, hOrder]

end Foundations
