import Mathlib.Data.List.Basic

/-! Items that wait in an outbox until it is emptied. Every item leaves with the first emptying
after it was put in, and the batches keep the order. -/

universe u

namespace Foundations

/-- Items are put into the outbox, and then it may be emptied. -/
structure Posting (α : Type u) where
  added : List α
  emptied : Bool

namespace Outbox

variable {α : Type u}

/-- What waits after a posting. -/
def after (waiting : List α) (posting : Posting α) : List α :=
  if posting.emptied then [] else waiting ++ posting.added

/-- The batch that a posting takes away, if it empties the outbox. -/
def batch (waiting : List α) (posting : Posting α) : List (List α) :=
  if posting.emptied then [waiting ++ posting.added] else []

def waitingAfter (waiting : List α) (postings : List (Posting α)) : List α :=
  postings.foldl after waiting

/-- The batches that were taken away, one for each emptying. -/
def batches (waiting : List α) : List (Posting α) → List (List α)
  | [] => []
  | posting :: rest => batch waiting posting ++ batches (after waiting posting) rest

@[simp] theorem waitingAfter_nil (waiting : List α) : waitingAfter waiting [] = waiting := rfl

@[simp] theorem batches_nil (waiting : List α) : batches waiting [] = [] := rfl

theorem waitingAfter_append (waiting : List α) (first later : List (Posting α)) :
    waitingAfter waiting (first ++ later) = waitingAfter (waitingAfter waiting first) later :=
  List.foldl_append

theorem batches_append (waiting : List α) (first later : List (Posting α)) :
    batches waiting (first ++ later) =
      batches waiting first ++ batches (waitingAfter waiting first) later := by
  induction first generalizing waiting with
  | nil => rfl
  | cons posting rest ih =>
      simp only [List.cons_append, batches, ih, List.append_assoc]
      rfl

theorem flatten_batch_append (waiting : List α) (posting : Posting α) :
    (batch waiting posting).flatten ++ after waiting posting = waiting ++ posting.added := by
  unfold batch after
  split <;> simp

/-- What was taken away and what waits is what was put in, in this order. -/
theorem flatten_batches_append (waiting : List α) (postings : List (Posting α)) :
    (batches waiting postings).flatten ++ waitingAfter waiting postings =
      waiting ++ postings.flatMap Posting.added := by
  induction postings generalizing waiting with
  | nil => simp
  | cons posting rest ih =>
      calc (batches waiting (posting :: rest)).flatten ++ waitingAfter waiting (posting :: rest)
          = (batch waiting posting).flatten ++
              ((batches (after waiting posting) rest).flatten ++
                waitingAfter (after waiting posting) rest) := by
            simp [batches, waitingAfter]
        _ = ((batch waiting posting).flatten ++ after waiting posting) ++
              rest.flatMap Posting.added := by
            rw [ih, List.append_assoc]
        _ = waiting ++ (posting :: rest).flatMap Posting.added := by
            rw [flatten_batch_append]
            simp

/-- Nothing leaves before the outbox is emptied. -/
theorem batches_of_kept {waiting : List α} {postings : List (Posting α)}
    (h : ∀ posting ∈ postings, posting.emptied = false) :
    batches waiting postings = [] ∧
      waitingAfter waiting postings = waiting ++ postings.flatMap Posting.added := by
  have hNone : batches waiting postings = [] := by
    induction postings generalizing waiting with
    | nil => rfl
    | cons posting rest ih =>
        simp only [batches, batch, h posting (by simp), Bool.false_eq_true, if_false,
          List.nil_append]
        exact ih fun posting hMem => h posting (by simp [hMem])
  have hAll := flatten_batches_append waiting postings
  rw [hNone] at hAll
  exact ⟨hNone, by simpa using hAll⟩

/-- What waits was put in since the outbox was last emptied. -/
theorem waitingAfter_emptied (waiting : List α) (earlier : List (Posting α)) {last : Posting α}
    {between : List (Posting α)} (hLast : last.emptied = true)
    (hBetween : ∀ posting ∈ between, posting.emptied = false) :
    waitingAfter waiting (earlier ++ last :: between) = between.flatMap Posting.added := by
  have hEmpty : after (waitingAfter waiting earlier) last = [] := by
    unfold after
    rw [if_pos hLast]
  have hWaiting : waitingAfter [] between = [] ++ between.flatMap Posting.added :=
    (batches_of_kept hBetween).2
  rw [waitingAfter_append]
  change waitingAfter (after (waitingAfter waiting earlier) last) between = _
  rw [hEmpty, hWaiting, List.nil_append]

end Outbox

end Foundations
