import DevyFps.Foundations.CommandQueue

/-! Queues whose commands carry their sender and a sequence number. A drain lists the
senders in increasing order and each queue from its front, so it is sorted by both. -/

universe u

namespace Foundations

namespace CommandQueues

variable {α : Type u}

/-- The senders are listed once and in increasing order. -/
theorem waiting_sorted (queues : CommandQueues α) : queues.waiting.Pairwise (· < ·) := by
  have hSorted : queues.waiting.Pairwise fun a b => decide (b < a) = false :=
    sortBy_pairwise (isComparator_key id) _
  apply List.Pairwise.imp₂ _ hSorted queues.waiting_nodup
  intro a b hNotAfter hNe
  exact lt_of_le_of_ne (not_lt.mp (of_decide_eq_false hNotAfter)) hNe

/-- Which senders wait depends on the contents only. -/
theorem waiting_congr {queues queues' : CommandQueues α} (h : queues.SameContents queues') :
    queues.waiting = queues'.waiting := by
  have hAsymm : ∀ a b, a ∈ queues.waiting → b ∈ queues'.waiting → a < b → b < a → a = b :=
    fun a b _ _ hab hba => absurd hab (lt_asymm hba)
  apply List.Perm.eq_of_pairwise hAsymm queues.waiting_sorted queues'.waiting_sorted
  apply (List.perm_ext_iff_of_nodup queues.waiting_nodup queues'.waiting_nodup).mpr
  intro id
  rw [mem_waiting, mem_waiting, h id]

/-- For distinct senders a drain is the concatenation of their queues. -/
theorem drainEach_eq_flatMap {ids : List Nat} (hNodup : ids.Nodup) (queues : CommandQueues α) :
    (queues.drainEach ids).1 = ids.flatMap fun id => (queues.find id).getD [] := by
  induction ids generalizing queues with
  | nil => rfl
  | cons head rest ih =>
      obtain ⟨hHead, hRest⟩ := List.nodup_cons.mp hNodup
      rw [List.flatMap_cons]
      unfold drainEach
      cases hFind : queues.find head with
      | none => exact ih hRest queues
      | some queue =>
          dsimp only
          rw [ih hRest]
          congr 1
          apply List.flatMap_congr
          intro id hId
          have hOther : id ≠ head := fun hSame => hHead (hSame ▸ hId)
          rw [UnorderedMap.find_erase, if_neg hOther]

theorem drain_eq_flatMap (queues : CommandQueues α) :
    queues.drain.1 = queues.waiting.flatMap fun id => (queues.find id).getD [] :=
  drainEach_eq_flatMap queues.waiting_nodup queues

/-- What is drained depends on the contents only, not on the order of iteration. -/
theorem drain_congr {queues queues' : CommandQueues α} (h : queues.SameContents queues') :
    queues.drain.1 = queues'.drain.1 := by
  rw [drain_eq_flatMap, drain_eq_flatMap, waiting_congr h]
  apply List.flatMap_congr
  intro id _
  rw [h id]

/-- And so is what is left. -/
theorem drain_rest_congr {queues queues' : CommandQueues α} (h : queues.SameContents queues') :
    queues.drain.2.SameContents queues'.drain.2 := by
  intro id
  unfold drain
  rw [find_drainEach, find_drainEach, waiting_congr h, h id]

variable (sender seq : α → Nat)

/-- Every command waits in the queue of its sender, behind smaller sequence numbers. -/
structure InOrder (queues : CommandQueues α) : Prop where
  sent : ∀ id queue, queues.find id = some queue → ∀ command ∈ queue, sender command = id
  increasing : ∀ id queue, queues.find id = some queue →
    queue.Pairwise fun a b => seq a < seq b

/-- The order of a drain: by sender, then by sequence number. -/
def Precedes (a b : α) : Prop := sender a < sender b ∨ sender a = sender b ∧ seq a < seq b

variable {sender seq} {queues : CommandQueues α}

/-- What one sender has in a sorted list is increasing. -/
theorem increasing_filter {commands : List α} (h : commands.Pairwise (Precedes sender seq))
    (id : Nat) : (commands.filter fun command => sender command = id).Pairwise
      fun a b => seq a < seq b := by
  apply List.Pairwise.imp_of_mem _ (h.filter _)
  intro a b ha hb hPrecedes
  have hSame : sender a = sender b :=
    (of_decide_eq_true (List.mem_filter.mp ha).2).trans
      (of_decide_eq_true (List.mem_filter.mp hb).2).symm
  cases hPrecedes with
  | inl hLess => exact absurd hSame hLess.ne
  | inr hSeq => exact hSeq.2

theorem inOrder_empty : InOrder sender seq (∅ : CommandQueues α) where
  sent _ _ h := by simp at h
  increasing _ _ h := by simp at h

theorem InOrder.push (h : InOrder sender seq queues) (command : α)
    (hLast : ∀ other ∈ (queues.find (sender command)).getD [], seq other < seq command) :
    InOrder sender seq (queues.push (sender command) command) := by
  have hSent : ∀ other ∈ (queues.find (sender command)).getD [],
      sender other = sender command := by
    intro other hOther
    cases hFind : queues.find (sender command) with
    | none => simp [hFind] at hOther
    | some queue =>
        rw [hFind, Option.getD_some] at hOther
        exact h.sent _ queue hFind other hOther
  have hIncreasing : ((queues.find (sender command)).getD []).Pairwise
      fun a b => seq a < seq b := by
    cases hFind : queues.find (sender command) with
    | none => exact List.Pairwise.nil
    | some queue => exact h.increasing _ queue hFind
  refine ⟨fun id queue hFind => ?_, fun id queue hFind => ?_⟩
  · rw [find_push] at hFind
    split at hFind
    · rename_i hId
      injection hFind with hFind
      intro other hOther
      rw [← hFind] at hOther
      rcases List.mem_append.mp hOther with hOld | hNew
      · rw [hSent other hOld, hId]
      · rw [List.mem_singleton.mp hNew, hId]
    · exact h.sent id queue hFind
  · rw [find_push] at hFind
    split at hFind
    · injection hFind with hFind
      rw [← hFind, List.pairwise_append]
      refine ⟨hIncreasing, List.pairwise_singleton _ _, fun a ha b hb => ?_⟩
      rw [List.mem_singleton.mp hb]
      exact hLast a ha
    · exact h.increasing id queue hFind

/-- Whoever passes the back of a queue passes all of it. -/
theorem InOrder.lt_of_getLast (h : InOrder sender seq queues) {id number : Nat}
    (hBack : ∀ back, (queues.find id).bind List.getLast? = some back → seq back < number) :
    ∀ other ∈ (queues.find id).getD [], seq other < number := by
  intro other hOther
  cases hFind : queues.find id with
  | none =>
      rw [hFind] at hOther
      cases hOther
  | some queue =>
      rw [hFind, Option.getD_some] at hOther
      obtain ⟨rest, back, rfl⟩ := List.eq_nil_or_concat' queue |>.resolve_left
        (List.ne_nil_of_mem hOther)
      have hPassed : seq back < number :=
        hBack back (by rw [hFind, Option.bind_some, List.getLast?_concat])
      rcases List.mem_append.mp hOther with hRest | hLast
      · exact ((List.pairwise_append.mp (h.increasing id _ hFind)).2.2 other hRest back
          (List.mem_singleton_self _)).trans hPassed
      · rw [List.mem_singleton.mp hLast]
        exact hPassed

theorem InOrder.erase (h : InOrder sender seq queues) (id : Nat) :
    InOrder sender seq (UnorderedMap.erase queues id) := by
  refine ⟨fun id' queue hFind => ?_, fun id' queue hFind => ?_⟩
  · rw [UnorderedMap.find_erase] at hFind
    split at hFind
    · cases hFind
    · exact h.sent id' queue hFind
  · rw [UnorderedMap.find_erase] at hFind
    split at hFind
    · cases hFind
    · exact h.increasing id' queue hFind

theorem InOrder.drain (_ : InOrder sender seq queues) : InOrder sender seq queues.drain.2 := by
  refine ⟨fun id queue hFind => ?_, fun id queue hFind => ?_⟩
  · rw [(find_drain hFind).1]
    exact fun command hCommand => nomatch hCommand
  · rw [(find_drain hFind).1]
    exact List.Pairwise.nil

/-- A drain hands out the queue of each sender. -/
theorem InOrder.filter_drain (h : InOrder sender seq queues) (id : Nat) :
    queues.drain.1.filter (fun command => sender command = id) = (queues.find id).getD [] := by
  have hQueue : ∀ id', ((queues.find id').getD []).filter (fun command => sender command = id) =
      if id' = id then (queues.find id).getD [] else [] := by
    intro id'
    cases hFind : queues.find id' with
    | none =>
        split
        · rename_i hSame
          rw [← hSame, hFind]
          rfl
        · rfl
    | some queue =>
        have hSent := h.sent id' queue hFind
        split
        · rename_i hSame
          rw [← hSame, hFind, Option.getD_some, List.filter_eq_self]
          exact fun command hCommand => decide_eq_true (hSent command hCommand)
        · rename_i hOther
          rw [Option.getD_some, List.filter_eq_nil_iff]
          intro command hCommand
          rw [hSent command hCommand, decide_eq_true_iff]
          exact hOther
  have hSum : ∀ {ids : List Nat}, ids.Nodup →
      (ids.flatMap fun id' => if id' = id then (queues.find id).getD [] else []) =
        if id ∈ ids then (queues.find id).getD [] else [] := by
    intro ids hNodup
    induction ids with
    | nil => rfl
    | cons head rest ih =>
        obtain ⟨hHead, hRest⟩ := List.nodup_cons.mp hNodup
        rw [List.flatMap_cons, ih hRest]
        by_cases hSame : head = id
        · rw [if_pos hSame, if_neg (hSame ▸ hHead), if_pos (hSame ▸ List.mem_cons_self),
            List.append_nil]
        · rw [if_neg hSame, List.nil_append]
          simp [Ne.symm hSame]
  rw [drain_eq_flatMap, List.filter_flatMap]
  simp only [hQueue]
  rw [hSum queues.waiting_nodup]
  split
  · rfl
  · rename_i hNot
    cases hFind : queues.find id with
    | none => rfl
    | some queue =>
        by_contra hFull
        exact hNot (mem_waiting.mpr ⟨queue, hFind, fun hEmpty => hFull hEmpty.symm⟩)

theorem InOrder.drain_sorted (h : InOrder sender seq queues) :
    queues.drain.1.Pairwise (Precedes sender seq) := by
  rw [drain_eq_flatMap, List.pairwise_flatMap]
  have hSent : ∀ id, ∀ command ∈ (queues.find id).getD [], sender command = id := by
    intro id command hCommand
    cases hFind : queues.find id with
    | none => simp [hFind] at hCommand
    | some queue =>
        rw [hFind, Option.getD_some] at hCommand
        exact h.sent id queue hFind command hCommand
  refine ⟨fun id _ => ?_, ?_⟩
  · cases hFind : queues.find id with
    | none => exact List.Pairwise.nil
    | some queue =>
        rw [Option.getD_some]
        apply List.Pairwise.imp_of_mem _ (h.increasing id queue hFind)
        intro a b ha hb hLess
        exact Or.inr ⟨(h.sent id queue hFind a ha).trans (h.sent id queue hFind b hb).symm, hLess⟩
  · apply queues.waiting_sorted.imp
    intro id id' hLess a ha b hb
    refine Or.inl ?_
    rw [hSent id a ha, hSent id' b hb]
    exact hLess

end CommandQueues

end Foundations
