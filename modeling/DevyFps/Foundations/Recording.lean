import Mathlib.Data.List.Basic

/-! Computations that may fail and that record what they do, and the rules by which such a
computation ends with a record of a given kind. -/

universe u v w

namespace Foundations

/-- A result with the record of the steps that led to it, or an error. -/
def Recording (ε : Type u) (ω : Type v) (α : Type w) := Except ε (α × List ω)

namespace Recording

variable {ε : Type u} {ω : Type v} {α β : Type w}

protected def pure (a : α) : Recording ε ω α := .ok (a, [])

protected def bind (m : Recording ε ω α) (f : α → Recording ε ω β) : Recording ε ω β :=
  match m with
  | .error e => .error e
  | .ok (a, first) =>
      match f a with
      | .error e => .error e
      | .ok (b, later) => .ok (b, first ++ later)

instance : Monad (Recording ε ω) where
  pure := Recording.pure
  bind := Recording.bind

def lift (x : Except ε α) : Recording ε ω α := x.map fun a => (a, [])

def record (step : ω) : Recording ε ω PUnit := .ok (⟨⟩, [step])

/-- The computation succeeds, all its steps are of one kind, and its result meets a
condition. -/
def Clean (kind : ω → Prop) (m : Recording ε ω α) (post : α → Prop) : Prop :=
  ∃ a steps, m = .ok (a, steps) ∧ (∀ step ∈ steps, kind step) ∧ post a

variable {kind : ω → Prop} {post : α → Prop}

theorem clean_pure_iff {a : α} : Clean kind (pure a : Recording ε ω α) post ↔ post a := by
  constructor
  · rintro ⟨b, steps, hResult, -, hPost⟩
    cases hResult
    exact hPost
  · exact fun hPost => ⟨a, [], rfl, fun step hStep => absurd hStep List.not_mem_nil, hPost⟩

/-- Two steps are cleanly recorded if the first is and then the second. -/
theorem clean_bind_iff {m : Recording ε ω α} {f : α → Recording ε ω β} {post : β → Prop} :
    Clean kind (m >>= f) post ↔ Clean kind m fun a => Clean kind (f a) post := by
  change Clean kind (Recording.bind m f) post ↔ _
  unfold Recording.bind
  constructor
  · rintro ⟨b, steps, hResult, hSteps, hPost⟩
    split at hResult
    · cases hResult
    · rename_i a first
      split at hResult
      · cases hResult
      · rename_i _ later hRest
        injection hResult with hResult
        injection hResult with hValue hAppend
        rw [← hAppend] at hSteps
        rw [hValue] at hRest
        exact ⟨a, first, rfl, fun step hStep => hSteps step (List.mem_append_left _ hStep),
          b, later, hRest, fun step hStep => hSteps step (List.mem_append_right _ hStep), hPost⟩
  · rintro ⟨a, first, rfl, hFirst, b, later, hRest, hLater, hPost⟩
    refine ⟨b, first ++ later, ?_, fun step hStep => ?_, hPost⟩
    · dsimp only
      rw [hRest]
    · rcases List.mem_append.mp hStep with h | h
      · exact hFirst step h
      · exact hLater step h

/-- A condition that does not look at the result. -/
theorem clean_const_iff {m : Recording ε ω α} {p : Prop} :
    Clean kind m (fun _ => p) ↔ Clean kind m (fun _ => True) ∧ p := by
  constructor
  · rintro ⟨a, steps, hResult, hSteps, hPost⟩
    exact ⟨⟨a, steps, hResult, hSteps, trivial⟩, hPost⟩
  · rintro ⟨⟨a, steps, hResult, hSteps, -⟩, hPost⟩
    exact ⟨a, steps, hResult, hSteps, hPost⟩

/-- A computation that records nothing is clean if it returns. -/
theorem clean_lift_iff {x : Except ε α} :
    Clean kind (lift x : Recording ε ω α) post ↔ ∃ a, x = .ok a ∧ post a := by
  constructor
  · rintro ⟨a, steps, hResult, -, hPost⟩
    cases x with
    | error e => cases hResult
    | ok b =>
        cases hResult
        exact ⟨_, rfl, hPost⟩
  · rintro ⟨a, rfl, hPost⟩
    exact ⟨a, [], rfl, fun step hStep => absurd hStep List.not_mem_nil, hPost⟩

/-- A recorded step is clean if it is of the right kind. -/
theorem clean_record_iff {step : ω} {post : PUnit → Prop} :
    Clean kind (record step : Recording ε ω PUnit) post ↔ kind step ∧ post ⟨⟩ := by
  constructor
  · rintro ⟨a, steps, hResult, hSteps, hPost⟩
    cases hResult
    exact ⟨hSteps step (List.mem_singleton_self step), hPost⟩
  · rintro ⟨hKind, hPost⟩
    refine ⟨⟨⟩, [step], rfl, fun other hOther => ?_, hPost⟩
    rw [List.mem_singleton.mp hOther]
    exact hKind

/-- Where the computation succeeds and all its steps are of one kind, its result meets a
condition. -/
def Ensures (kind : ω → Prop) (m : Recording ε ω α) (post : α → Prop) : Prop :=
  ∀ a steps, m = .ok (a, steps) → (∀ step ∈ steps, kind step) → post a

theorem ensures_true {m : Recording ε ω α} : Ensures kind m fun _ => True :=
  fun _ _ _ _ => trivial

theorem ensures_pure {a : α} (h : post a) : Ensures kind (pure a : Recording ε ω α) post := by
  intro b steps hResult _
  cases hResult
  exact h

/-- What the first step ensures can be used for the second. -/
theorem ensures_bind {m : Recording ε ω α} {f : α → Recording ε ω β} {p : α → Prop}
    {post : β → Prop} (hFirst : Ensures kind m p)
    (hRest : ∀ a, p a → Ensures kind (f a) post) : Ensures kind (m >>= f) post := by
  intro b steps hResult hSteps
  have hClean : Clean kind (m >>= f) (· = b) := ⟨b, steps, hResult, hSteps, rfl⟩
  obtain ⟨a, first, hOk, hFirstSteps, c, later, hRestOk, hLater, hSame⟩ := clean_bind_iff.mp hClean
  rw [← hSame]
  exact hRest a (hFirst a first hOk hFirstSteps) c later hRestOk hLater

/-- A computation that cannot end cleanly with any other result. -/
theorem ensures_of_clean {m : Recording ε ω α} (h : ∀ a, Clean kind m (· = a) → post a) :
    Ensures kind m post :=
  fun a steps hResult hSteps => h a ⟨a, steps, hResult, hSteps, rfl⟩

/-- A clean recording has all that it ensures. -/
theorem Clean.and_ensures {m : Recording ε ω α} {other : α → Prop} (h : Clean kind m post)
    (hEnsures : Ensures kind m other) : Clean kind m fun a => post a ∧ other a := by
  obtain ⟨a, steps, hResult, hSteps, hPost⟩ := h
  exact ⟨a, steps, hResult, hSteps, hPost, hEnsures a steps hResult hSteps⟩

end Recording

end Foundations
