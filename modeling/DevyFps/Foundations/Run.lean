import Mathlib.Data.List.Basic

/-! Runs of a labelled transition relation and the rules by which facts about one
step become facts about whole runs. -/

universe u v w x

/-- The finite runs of a step relation. A label records what the step did. -/
inductive Run {σ : Type u} {ε : Type v} (step : σ → ε → σ → Prop) : σ → List ε → σ → Prop where
  | nil (s : σ) : Run step s [] s
  | snoc {s t u : σ} {trace : List ε} {label : ε}
      (prior : Run step s trace t) (last : step t label u) :
      Run step s (trace ++ [label]) u

namespace Run

variable {σ : Type u} {ε : Type v} {τ : Type w} {step : σ → ε → σ → Prop}

/-- A single step is a run. -/
theorem single {s t : σ} {label : ε} (h : step s label t) : Run step s [label] t :=
  (nil s).snoc h

/-- Concatenate two runs that meet in one state. -/
theorem trans {s t u : σ} {first second : List ε} (left : Run step s first t)
    (right : Run step t second u) : Run step s (first ++ second) u := by
  induction right with
  | nil => simpa using left
  | snoc prior last ih => simpa [List.append_assoc] using ih.snoc last

/-- The two states around one label of a run. -/
theorem around {s t : σ} {before later : List ε} {label : ε}
    (run : Run step s (before ++ label :: later) t) :
    ∃ u v, Run step s before u ∧ step u label v ∧ Run step v later t := by
  generalize hTrace : before ++ label :: later = trace at run
  induction run generalizing later with
  | nil => exact absurd hTrace (by simp)
  | @snoc m t trace last prior hLast ih =>
      rcases List.eq_nil_or_concat later with rfl | ⟨rest, final, rfl⟩
      · obtain ⟨hBefore, hLabel⟩ := List.append_inj' hTrace rfl
        rw [hBefore]
        injection hLabel with hLabel
        rw [hLabel]
        exact ⟨m, t, prior, hLast, nil t⟩
      · rw [List.concat_eq_append, ← List.cons_append, ← List.append_assoc] at hTrace
        obtain ⟨hBefore, hLabel⟩ := List.append_inj' hTrace rfl
        injection hLabel with hLabel
        obtain ⟨u, v, hFirst, hStep, hRest⟩ := ih hBefore
        rw [hLabel, List.concat_eq_append]
        exact ⟨u, v, hFirst, hStep, hRest.snoc hLast⟩

/-- A label of a run belongs to one of its steps. -/
theorem of_mem {s t : σ} {trace : List ε} {label : ε} (run : Run step s trace t)
    (h : label ∈ trace) : ∃ u v, step u label v := by
  obtain ⟨before, later, rfl⟩ := List.append_of_mem h
  obtain ⟨u, v, -, hStep, -⟩ := run.around
  exact ⟨u, v, hStep⟩

/-- A fact preserved by every step holds at the end of every run. -/
theorem invariant {I : σ → Prop} (hStep : ∀ s label t, I s → step s label t → I t)
    {s t : σ} {trace : List ε} (run : Run step s trace t) (hStart : I s) : I t := by
  induction run with
  | nil => exact hStart
  | snoc prior last ih => exact hStep _ _ _ ih last

/-- A fact about the state and the labels emitted so far. -/
theorem history {I : List ε → σ → Prop}
    (hStep : ∀ trace s label t, I trace s → step s label t → I (trace ++ [label]) t)
    {s t : σ} {trace : List ε} (run : Run step s trace t) (hStart : I [] s) : I trace t := by
  induction run with
  | nil => exact hStart
  | snoc prior last ih => exact hStep _ _ _ _ ih last

/-- A run without labels goes nowhere. -/
theorem of_nil {s t : σ} (run : Run step s [] t) : s = t := by
  generalize hTrace : ([] : List ε) = trace at run
  cases run with
  | nil => rfl
  | snoc prior last => exact absurd hTrace.symm (List.append_ne_nil_of_right_ne_nil _ (by simp))

/-- The step of a run with one label. -/
theorem of_single {s t : σ} {label : ε} (run : Run step s [label] t) : step s label t := by
  obtain ⟨u, v, hBefore, hStep, hAfter⟩ :=
    around (show Run step s ([] ++ label :: []) t from run)
  rw [of_nil hBefore, ← of_nil hAfter]
  exact hStep

/-- A run whose labels tell that every step meets a condition. -/
theorem guard {P : σ → ε → Prop} {s t : σ} {trace : List ε} (run : Run step s trace t)
    (hLabels : ∀ label ∈ trace, ∀ s, P s label) :
    Run (fun s label t => step s label t ∧ P s label) s trace t := by
  induction run with
  | nil => exact nil _
  | snoc prior last ih =>
      refine (ih fun label hLabel => hLabels label (List.mem_append_left _ hLabel)).snoc ⟨last, ?_⟩
      exact hLabels _ (List.mem_append_right _ (List.mem_singleton_self _)) _

/-- A run of a relation is a run of any larger one. -/
theorem mono {step' : σ → ε → σ → Prop} (h : ∀ s label t, step s label t → step' s label t)
    {s t : σ} {trace : List ε} (run : Run step s trace t) : Run step' s trace t := by
  induction run with
  | nil => exact nil _
  | snoc prior last ih => exact ih.snoc (h _ _ _ last)

/-- A step relation whose steps are runs of an abstract one, where an invariant holds. -/
theorem refine {δ : Type x} {step' : τ → δ → τ → Prop} {I : σ → Prop} {f : σ → τ}
    {labels : ε → List δ}
    (hStep : ∀ s label t, I s → step s label t →
      I t ∧ Run step' (f s) (labels label) (f t))
    {s t : σ} {trace : List ε} (run : Run step s trace t) (hStart : I s) :
    I t ∧ Run step' (f s) (trace.flatMap labels) (f t) := by
  induction run with
  | nil => exact ⟨hStart, nil _⟩
  | snoc prior last ih =>
      obtain ⟨hMiddle, hPrior⟩ := ih
      obtain ⟨hFinal, hLast⟩ := hStep _ _ _ hMiddle last
      refine ⟨hFinal, ?_⟩
      rw [List.flatMap_append, List.flatMap_singleton]
      exact hPrior.trans hLast

end Run
