import DevyFps.Foundations.UnorderedMap

/-! Runs of one operation over a stream of requests. Where each request only reads and
writes what belongs to its own key, every interleaving of the same requests of each key
gets the same answers. -/

universe u v w x y

namespace Foundations

variable {σ : Type u} {α : Type v} {β : Type w} {κ : Type x} {τ : Type y}

/-- Each request with its answer, and the final state. -/
def answers (step : σ → α → β × σ) (s : σ) : List α → List (α × β) × σ
  | [] => ([], s)
  | request :: rest =>
      let (answer, next) := step s request
      let (later, finish) := answers step next rest
      ((request, answer) :: later, finish)

theorem answers_cons (step : σ → α → β × σ) (s : σ) (request : α) (rest : List α) :
    answers step s (request :: rest) =
      ((request, (step s request).1) :: (answers step (step s request).2 rest).1,
        (answers step (step s request).2 rest).2) := rfl

/-- Answers other than the excused ones are those of a local operation on what the state
holds for the key of the request, and what it holds for other keys is never touched. -/
structure ActsLocally (step : σ → α → β × σ) (key : α → κ) (view : σ → κ → τ)
    (localStep : τ → α → β × τ) (excused : β → Prop) : Prop where
  own : ∀ s request, ¬ excused (step s request).1 →
    (step s request).1 = (localStep (view s (key request)) request).1 ∧
      view (step s request).2 (key request) = (localStep (view s (key request)) request).2
  others : ∀ s request k, k ≠ key request → view (step s request).2 k = view s k

variable [DecidableEq κ] {step : σ → α → β × σ} {key : α → κ} {view : σ → κ → τ}
  {localStep : τ → α → β × τ} {excused : β → Prop}

/-- One key sees the local operation run over its own requests. -/
theorem ActsLocally.answers_of_key (h : ActsLocally step key view localStep excused) (k : κ)
    (requests : List α) (s : σ)
    (hNone : ∀ entry ∈ (answers step s requests).1, ¬ excused entry.2) :
    (answers step s requests).1.filter (fun entry => key entry.1 = k) =
        (answers localStep (view s k) (requests.filter fun request => key request = k)).1 ∧
      view (answers step s requests).2 k =
        (answers localStep (view s k) (requests.filter fun request => key request = k)).2 := by
  induction requests generalizing s with
  | nil => exact ⟨rfl, rfl⟩
  | cons request rest ih =>
      have hFirst : ¬ excused (step s request).1 := hNone (request, _) List.mem_cons_self
      obtain ⟨hAnswers, hView⟩ := ih (step s request).2 fun entry hEntry =>
        hNone entry (List.mem_cons_of_mem _ hEntry)
      rw [answers_cons step]
      dsimp only
      by_cases hKey : key request = k
      · obtain ⟨hAnswer, hOwn⟩ := h.own s request hFirst
        rw [hKey] at hAnswer hOwn
        rw [hOwn] at hAnswers hView
        rw [List.filter_cons_of_pos (by simpa using hKey),
          List.filter_cons_of_pos (by simpa using hKey), answers_cons, hAnswers, hView, hAnswer]
        exact ⟨rfl, rfl⟩
      · have hOther := h.others s request k (Ne.symm hKey)
        rw [hOther] at hAnswers hView
        rw [List.filter_cons_of_neg (by simpa using hKey),
          List.filter_cons_of_neg (by simpa using hKey)]
        exact ⟨hAnswers, hView⟩

/-- Two interleavings of the same requests of each key, from states that hold the same for
every key: the answers agree key by key, and the final states hold the same again. -/
theorem ActsLocally.interleavings_agree (h : ActsLocally step key view localStep excused)
    {s s' : σ} (hView : ∀ k, view s k = view s' k) {requests requests' : List α}
    (hSame : ∀ k, requests.filter (fun request => key request = k) =
      requests'.filter fun request => key request = k)
    (hNone : ∀ entry ∈ (answers step s requests).1, ¬ excused entry.2)
    (hNone' : ∀ entry ∈ (answers step s' requests').1, ¬ excused entry.2) (k : κ) :
    (answers step s requests).1.filter (fun entry => key entry.1 = k) =
        (answers step s' requests').1.filter (fun entry => key entry.1 = k) ∧
      view (answers step s requests).2 k = view (answers step s' requests').2 k := by
  obtain ⟨hAnswers, hFinal⟩ := h.answers_of_key k requests s hNone
  obtain ⟨hAnswers', hFinal'⟩ := h.answers_of_key k requests' s' hNone'
  rw [hAnswers, hFinal, hAnswers', hFinal', hView k, hSame k]
  exact ⟨rfl, rfl⟩

end Foundations
