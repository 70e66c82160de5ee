import DevyFps.Foundations.Sort
import DevyFps.Foundations.UnorderedMap
import Mathlib.Algebra.BigOperators.Group.List.Basic
import Mathlib.Algebra.GroupWithZero.Nat

/-! Waiting commands, one first-in first-out queue for each sender, and the drain
that takes them all: senders in increasing order, each queue from its front. -/

universe u

namespace Foundations

/-- `unordered_map<uint32_t, deque<Command>>`. -/
abbrev CommandQueues (α : Type u) := UnorderedMap Nat (List α)

namespace CommandQueues

variable {α : Type u}

/-- `queues[id].push_back(command)`. -/
def push (queues : CommandQueues α) (id : Nat) (command : α) : CommandQueues α :=
  queues.set id ((queues.find id).getD [] ++ [command])

/-- The senders with something waiting, in increasing order. -/
def waiting (queues : CommandQueues α) : List Nat :=
  sortBy (fun a b => decide (a < b))
    ((queues.items.filter fun item => !item.2.isEmpty).map Prod.fst)

/-- Empty and erase the queues of the listed senders, one after the other. -/
def drainEach (queues : CommandQueues α) : List Nat → List α × CommandQueues α
  | [] => ([], queues)
  | id :: rest =>
      match queues.find id with
      | none => drainEach queues rest
      | some queue =>
          let (drained, left) := drainEach (queues.erase id) rest
          (queue ++ drained, left)

def drain (queues : CommandQueues α) : List α × CommandQueues α :=
  queues.drainEach queues.waiting

/-- How many commands wait in all queues together. -/
def queued (queues : CommandQueues α) : Nat := (queues.values.map List.length).sum

/-- A pushed command is the last of its queue. -/
theorem find_push (queues : CommandQueues α) (id id' : Nat) (command : α) :
    (queues.push id command).find id' =
      if id' = id then some ((queues.find id).getD [] ++ [command]) else queues.find id' :=
  UnorderedMap.find_set _ _ _ _

/-- Whoever has commands waiting has a queue that is not empty. -/
theorem mem_waiting {queues : CommandQueues α} {id : Nat} :
    id ∈ queues.waiting ↔ ∃ queue, queues.find id = some queue ∧ queue ≠ [] := by
  simp only [waiting, mem_sortBy, List.mem_map, List.mem_filter, Prod.exists, exists_and_right,
    exists_eq_right]
  constructor
  · rintro ⟨queue, hItem, hFull⟩
    exact ⟨queue, UnorderedMap.mem_items_iff.mp hItem, by simpa using hFull⟩
  · rintro ⟨queue, hFind, hFull⟩
    exact ⟨queue, UnorderedMap.mem_items_iff.mpr hFind, by simpa using hFull⟩

theorem waiting_nodup (queues : CommandQueues α) : queues.waiting.Nodup := by
  refine (sortBy_perm _ _).nodup_iff.mpr ?_
  refine List.Nodup.sublist ?_ queues.keys_nodup
  rw [← UnorderedMap.map_fst_items]
  exact List.filter_sublist.map _

/-- The queues of the drained players are gone. -/
theorem find_drainEach (queues : CommandQueues α) (ids : List Nat) (id : Nat) :
    (queues.drainEach ids).2.find id = if id ∈ ids then none else queues.find id := by
  induction ids generalizing queues with
  | nil => simp [drainEach]
  | cons head rest ih =>
      unfold drainEach
      cases hHead : queues.find head with
      | none =>
          rw [ih]
          by_cases hEq : id = head
          · simp [hEq, hHead]
          · simp [hEq]
      | some queue =>
          simp only [ih, UnorderedMap.find_erase, List.mem_cons]
          by_cases hEq : id = head
          · simp [hEq]
          · simp [hEq]

/-- Only what was queued is drained. -/
theorem mem_drainEach {queues : CommandQueues α} {ids : List Nat} {command : α}
    (h : command ∈ (queues.drainEach ids).1) :
    ∃ id queue, queues.find id = some queue ∧ command ∈ queue := by
  induction ids generalizing queues with
  | nil => simp [drainEach] at h
  | cons head rest ih =>
      unfold drainEach at h
      cases hHead : queues.find head with
      | none =>
          simp only [hHead] at h
          exact ih h
      | some queue =>
          simp only [hHead, List.mem_append] at h
          cases h with
          | inl hQueue => exact ⟨head, queue, hHead, hQueue⟩
          | inr hRest =>
              obtain ⟨id, other, hFind, hMem⟩ := ih hRest
              rw [UnorderedMap.find_erase] at hFind
              split at hFind
              · cases hFind
              · exact ⟨id, other, hFind, hMem⟩

/-- Every drained command was waiting. -/
theorem mem_drain {queues : CommandQueues α} {command : α} (h : command ∈ queues.drain.1) :
    ∃ id queue, queues.find id = some queue ∧ command ∈ queue :=
  mem_drainEach h

/-- A drain leaves nothing waiting and creates no queue. -/
theorem find_drain {queues : CommandQueues α} {id : Nat} {queue : List α}
    (h : queues.drain.2.find id = some queue) : queue = [] ∧ queues.find id = some [] := by
  rw [drain, find_drainEach] at h
  split at h
  · cases h
  · rename_i hNot
    have hEmpty : queue = [] := by
      by_contra hFull
      exact hNot (mem_waiting.mpr ⟨queue, h, hFull⟩)
    exact ⟨hEmpty, hEmpty ▸ h⟩

theorem find_drain_none {queues : CommandQueues α} {id : Nat} (h : queues.find id = none) :
    queues.drain.2.find id = none := by
  rw [drain, find_drainEach, h, ite_self]

/-- The number of queued commands, one queue taken out. -/
theorem queued_of_find {queues : CommandQueues α} {id : Nat} {queue : List α}
    (h : queues.find id = some queue) :
    queues.queued = queue.length + CommandQueues.queued (queues.erase id) := by
  have hPerm := (UnorderedMap.values_perm_of_find h).map List.length
  simpa [queued] using hPerm.sum_eq

/-- A push adds one command. -/
theorem queued_push (queues : CommandQueues α) (id : Nat) (command : α) :
    (queues.push id command).queued = queues.queued + 1 := by
  have hValues := UnorderedMap.values_set queues id ((queues.find id).getD [] ++ [command])
  have hPush : (queues.push id command).queued =
      ((queues.find id).getD []).length + 1 + CommandQueues.queued (queues.erase id) := by
    simp [queued, push, hValues]
  cases hFind : queues.find id with
  | none =>
      rw [hPush, hFind, UnorderedMap.erase_eq_self_of_find_none hFind]
      simp only [Option.getD_none, List.length_nil]
      omega
  | some queue =>
      rw [hPush, hFind, queued_of_find hFind]
      simp only [Option.getD_some]
      omega

/-- Draining moves commands and loses none. -/
theorem length_drainEach (queues : CommandQueues α) (ids : List Nat) :
    (queues.drainEach ids).1.length + (queues.drainEach ids).2.queued = queues.queued := by
  induction ids generalizing queues with
  | nil => simp [drainEach]
  | cons head rest ih =>
      unfold drainEach
      cases hHead : queues.find head with
      | none => exact ih queues
      | some queue =>
          have hRest := ih (queues.erase head)
          simp only [List.length_append, queued_of_find hHead]
          omega

/-- A drain takes out as many as were queued. -/
theorem length_drain (queues : CommandQueues α) :
    queues.drain.1.length + queues.drain.2.queued = queues.queued :=
  length_drainEach queues queues.waiting

theorem queued_drain (queues : CommandQueues α) : queues.drain.2.queued = 0 := by
  refine List.sum_eq_zero fun n hn => ?_
  obtain ⟨queue, hQueue, rfl⟩ := List.mem_map.mp hn
  obtain ⟨id, hFind⟩ := UnorderedMap.mem_values_iff.mp hQueue
  rw [(find_drain hFind).1]
  rfl

/-- No queue gains a command. -/
def Shrinks (queues queues' : CommandQueues α) : Prop :=
  ∀ id, ((queues'.find id).getD []).Sublist ((queues.find id).getD [])

theorem Shrinks.refl (queues : CommandQueues α) : Shrinks queues queues :=
  fun _ => List.Sublist.refl _

theorem Shrinks.trans {first second third : CommandQueues α} (h : Shrinks first second)
    (h' : Shrinks second third) : Shrinks first third :=
  fun id => (h' id).trans (h id)

/-- A drain adds nothing. -/
theorem shrinks_drain (queues : CommandQueues α) : Shrinks queues queues.drain.2 := by
  intro id
  cases hFind : queues.drain.2.find id with
  | none => exact List.nil_sublist _
  | some queue =>
      rw [(find_drain hFind).1]
      exact List.nil_sublist _

theorem shrinks_erase (queues : CommandQueues α) (id : Nat) :
    Shrinks queues (UnorderedMap.erase queues id) := by
  intro other
  rw [UnorderedMap.find_erase]
  split
  · exact List.nil_sublist _
  · exact List.Sublist.refl _

end CommandQueues

end Foundations
