import DevyFps.Foundations.OrderedQueues
import DevyFps.Foundations.Run

/-! What becomes of the commands that queues accept: in every history of accepting,
draining and clearing, each is handed out once, in the order of acceptance, unless its
queue is cleared first. -/

universe u

namespace Foundations

/-- A command put into its queue, a drain of all queues, or the loss of one queue. -/
inductive QueueEvent (α : Type u) where
  | accepted (command : α)
  | drained (batch : List α)
  | cleared (id : Nat)

namespace QueueEvent

variable {α : Type u} (sender : α → Nat) (id : Nat)

/-- One more event in the list of what a sender had accepted since its queue was cleared. -/
def noteAccepted (commands : List α) : QueueEvent α → List α
  | .accepted command => if sender command = id then commands ++ [command] else commands
  | .drained _ => commands
  | .cleared id' => if id' = id then [] else commands

/-- The same for what a sender had handed out since its queue was cleared. -/
def noteDelivered (commands : List α) : QueueEvent α → List α
  | .accepted _ => commands
  | .drained batch => commands ++ batch.filter fun command => sender command = id
  | .cleared id' => if id' = id then [] else commands

/-- The same for what a sender had accepted since its queue was cleared or drained. -/
def noteAwaiting (commands : List α) : QueueEvent α → List α
  | .accepted command => if sender command = id then commands ++ [command] else commands
  | .drained _ => []
  | .cleared id' => if id' = id then [] else commands

def acceptedSince (events : List (QueueEvent α)) : List α :=
  events.foldl (noteAccepted sender id) []

def deliveredSince (events : List (QueueEvent α)) : List α :=
  events.foldl (noteDelivered sender id) []

def awaiting (events : List (QueueEvent α)) : List α :=
  events.foldl (noteAwaiting sender id) []

end QueueEvent

namespace CommandQueues

open QueueEvent

variable {α : Type u} (sender seq : α → Nat)

/-- The queues as a machine. A command is accepted behind smaller sequence numbers. -/
inductive QueueStep : CommandQueues α → QueueEvent α → CommandQueues α → Prop where
  | accept (queues : CommandQueues α) (command : α)
      (hLast : ∀ other ∈ (queues.find (sender command)).getD [], seq other < seq command) :
      QueueStep queues (.accepted command) (queues.push (sender command) command)
  | drain (queues : CommandQueues α) : QueueStep queues (.drained queues.drain.1) queues.drain.2
  | clear (queues : CommandQueues α) (id : Nat) :
      QueueStep queues (.cleared id) (UnorderedMap.erase queues id)

variable {sender seq} {queues queues' : CommandQueues α} {events : List (QueueEvent α)}

theorem InOrder.step {event : QueueEvent α} (h : InOrder sender seq queues)
    (hStep : QueueStep sender seq queues event queues') : InOrder sender seq queues' := by
  cases hStep with
  | accept command hLast => exact h.push command hLast
  | drain => exact h.drain
  | clear id => exact h.erase id

theorem InOrder.run (h : InOrder sender seq queues)
    (run : Run (QueueStep sender seq) queues events queues') : InOrder sender seq queues' :=
  run.invariant (fun _ _ _ hBefore hStep => hBefore.step hStep) h

theorem find_drain_getD (queues : CommandQueues α) (id : Nat) :
    (queues.drain.2.find id).getD [] = [] := by
  cases hFind : queues.drain.2.find id with
  | none => rfl
  | some queue => exact (find_drain hFind).1

theorem find_push_getD (queues : CommandQueues α) (id id' : Nat) (command : α) :
    ((queues.push id command).find id').getD [] =
      if id = id' then (queues.find id').getD [] ++ [command] else (queues.find id').getD [] := by
  rw [find_push]
  by_cases hSame : id = id'
  · rw [if_pos hSame.symm, if_pos hSame, hSame, Option.getD_some]
  · rw [if_neg (Ne.symm hSame), if_neg hSame]

theorem find_erase_getD (queues : CommandQueues α) (id id' : Nat) :
    ((UnorderedMap.erase queues id).find id').getD [] =
      if id = id' then [] else (queues.find id').getD [] := by
  rw [UnorderedMap.find_erase]
  by_cases hSame : id = id'
  · rw [if_pos hSame.symm, if_pos hSame, Option.getD_none]
  · rw [if_neg (Ne.symm hSame), if_neg hSame]

/-- What was handed out and what waits is what was accepted, in this order. -/
theorem delivered_append_waiting (run : Run (QueueStep sender seq) ∅ events queues) (id : Nat) :
    deliveredSince sender id events ++ (queues.find id).getD [] =
      acceptedSince sender id events := by
  suffices hBoth : InOrder sender seq queues ∧ deliveredSince sender id events ++
      (queues.find id).getD [] = acceptedSince sender id events from hBoth.2
  apply run.history (I := fun events queues => InOrder sender seq queues ∧
    deliveredSince sender id events ++ (queues.find id).getD [] = acceptedSince sender id events)
  · intro events queues event queues' h hStep
    refine ⟨h.1.step hStep, ?_⟩
    obtain ⟨hOrder, hBooks⟩ := h
    unfold deliveredSince acceptedSince at hBooks ⊢
    rw [List.foldl_concat, List.foldl_concat, ← hBooks]
    cases hStep with
    | accept command hLast =>
        change _ ++ ((queues.push _ command).find id).getD [] = if _ then _ else _
        rw [find_push_getD]
        split
        · rw [← List.append_assoc]
          rfl
        · rfl
    | drain =>
        change (_ ++ queues.drain.1.filter fun command => sender command = id) ++
          (queues.drain.2.find id).getD [] = _
        rw [hOrder.filter_drain, find_drain_getD, List.append_nil]
        rfl
    | clear id' =>
        change (if _ then _ else _) ++ ((UnorderedMap.erase queues id').find id).getD [] =
          if _ then _ else _
        rw [find_erase_getD]
        split
        · rfl
        · rfl
  · exact ⟨inOrder_empty, rfl⟩

/-- A queue holds what was accepted since it was last drained or cleared. -/
theorem find_eq_awaiting (run : Run (QueueStep sender seq) ∅ events queues) (id : Nat) :
    (queues.find id).getD [] = awaiting sender id events := by
  apply run.history (I := fun events queues =>
    (queues.find id).getD [] = awaiting sender id events)
  · intro events queues event queues' h hStep
    unfold awaiting at h ⊢
    rw [List.foldl_concat, ← h]
    cases hStep with
    | accept command hLast => exact find_push_getD _ _ _ _
    | drain => exact find_drain_getD _ _
    | clear id' => exact find_erase_getD _ _ _
  · rfl

/-- Every batch is sorted. -/
theorem InOrder.batch_sorted (h : InOrder sender seq queues)
    (run : Run (QueueStep sender seq) queues events queues') {batch : List α}
    (hBatch : .drained batch ∈ events) : batch.Pairwise (Precedes sender seq) := by
  obtain ⟨before, later, rfl⟩ := List.append_of_mem hBatch
  obtain ⟨queues₁, queues₂, hBefore, hDrain, -⟩ := run.around
  cases hDrain with
  | drain => exact (h.run hBefore).drain_sorted

/-- Every batch hands out what each sender was waiting for. -/
theorem filter_batch {before later : List (QueueEvent α)} {batch : List α}
    (run : Run (QueueStep sender seq) ∅ (before ++ .drained batch :: later) queues) (id : Nat) :
    batch.filter (fun command => sender command = id) = awaiting sender id before := by
  obtain ⟨queues₁, queues₂, hBefore, hDrain, -⟩ := run.around
  have hOrder : InOrder sender seq queues₁ := inOrder_empty.run hBefore
  cases hDrain with
  | drain => rw [hOrder.filter_drain, find_eq_awaiting hBefore]

end CommandQueues

end Foundations
