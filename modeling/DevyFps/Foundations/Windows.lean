import Mathlib.Data.List.Forall2
import Mathlib.Algebra.BigOperators.Group.List.Basic
import Mathlib.Algebra.GroupWithZero.Nat

/-! Machines that read one event after the other and now and then give an output that covers
the events since the last one. -/

namespace Foundations

variable {σ ε ρ : Type*} (step : σ → ε → Option ρ × σ)

/-- The outputs for a list of events, and the state after it. -/
def outputs (s : σ) : List ε → List ρ × σ
  | [] => ([], s)
  | event :: rest =>
      ((step s event).1.toList ++ (outputs (step s event).2 rest).1,
        (outputs (step s event).2 rest).2)

/-- Each event of a list meets a state that allows it. -/
def AllAllowed (Allowed : σ → ε → Prop) (s : σ) : List ε → Prop
  | [] => True
  | event :: rest => Allowed s event ∧ AllAllowed Allowed (step s event).2 rest

instance AllAllowed.decidable {Allowed : σ → ε → Prop} [∀ s event, Decidable (Allowed s event)] :
    ∀ s events, Decidable (AllAllowed step Allowed s events)
  | _, [] => inferInstanceAs (Decidable True)
  | s, event :: rest =>
      haveI : Decidable (AllAllowed step Allowed (step s event).2 rest) :=
        AllAllowed.decidable (step s event).2 rest
      inferInstanceAs (Decidable (Allowed s event ∧ AllAllowed step Allowed (step s event).2 rest))

variable {step}

/-- The events fall into one window for each output and a rest. `Since` says what the state
keeps of the window that is open, `Covers` what an output tells of its window. -/
theorem outputs_windows {Allowed : σ → ε → Prop} {Since : σ → List ε → Prop}
    {Covers : List ε → ρ → Prop}
    (hKept : ∀ s window event, Since s window → Allowed s event → (step s event).1 = none →
      Since (step s event).2 (window ++ [event]))
    (hShown : ∀ s window event output, Since s window → Allowed s event →
      (step s event).1 = some output →
      Covers (window ++ [event]) output ∧ Since (step s event).2 [])
    {s : σ} {window : List ε} (h : Since s window) {events : List ε}
    (hAllowed : AllAllowed step Allowed s events) :
    ∃ windows rest, window ++ events = windows.flatten ++ rest ∧
      List.Forall₂ Covers windows (outputs step s events).1 ∧
      Since (outputs step s events).2 rest := by
  induction events generalizing s window with
  | nil => exact ⟨[], window, by simp, List.Forall₂.nil, h⟩
  | cons event events ih =>
      obtain ⟨hEvent, hLater⟩ := hAllowed
      cases hStep : (step s event).1 with
      | none =>
          obtain ⟨windows, rest, hSplit, hCovers, hRest⟩ :=
            ih (hKept s window event h hEvent hStep) hLater
          refine ⟨windows, rest, ?_, ?_, hRest⟩
          · rw [← hSplit, List.append_assoc, List.singleton_append]
          · unfold outputs
            rw [hStep]
            exact hCovers
      | some output =>
          obtain ⟨hOutput, hNext⟩ := hShown s window event output h hEvent hStep
          obtain ⟨windows, rest, hSplit, hCovers, hRest⟩ := ih hNext hLater
          refine ⟨(window ++ [event]) :: windows, rest, ?_, ?_, hRest⟩
          · rw [List.flatten_cons, List.append_assoc, List.append_assoc, ← hSplit]
            rfl
          · unfold outputs
            rw [hStep]
            exact List.Forall₂.cons hOutput hCovers

/-- Of two lists that are related element by element, each element of the second has one of
the first. -/
theorem exists_related {α β : Type*} {R : α → β → Prop} {xs : List α} {ys : List β}
    (h : List.Forall₂ R xs ys) {y : β} (hMem : y ∈ ys) : ∃ x ∈ xs, R x y := by
  induction h with
  | nil => cases hMem
  | @cons x first xs ys hFirst _ ih =>
      rcases List.mem_cons.mp hMem with rfl | hLater
      · exact ⟨x, List.mem_cons_self, hFirst⟩
      · obtain ⟨later, hLaterMem, hRelated⟩ := ih hLater
        exact ⟨later, List.mem_cons_of_mem _ hLaterMem, hRelated⟩

/-- What the outputs tell and what the rest adds is what all events add. -/
theorem sum_windows {shown : ρ → Nat} {noted : ε → Nat} {windows : List (List ε)}
    {results : List ρ} (h : List.Forall₂
      (fun window result => shown result = (window.map noted).sum) windows results)
    (rest : List ε) :
    (results.map shown).sum + (rest.map noted).sum =
      ((windows.flatten ++ rest).map noted).sum := by
  induction h with
  | nil => simp
  | cons hShown _ ih =>
      rw [List.map_cons, List.sum_cons, hShown, Nat.add_assoc, ih, List.flatten_cons]
      simp only [List.map_append, List.sum_append, Nat.add_assoc]

/-- An element that is not in the first part splits the second. -/
theorem split_after_append {α : Type*} {first rest before after : List α} {element : α}
    (h : first ++ rest = before ++ element :: after) (hFirst : element ∉ first) :
    ∃ middle, before = first ++ middle ∧ rest = middle ++ element :: after := by
  induction first generalizing before with
  | nil => exact ⟨before, rfl, h⟩
  | cons head first ih =>
      cases before with
      | nil =>
          obtain ⟨rfl, -⟩ := List.cons.inj h
          exact absurd List.mem_cons_self hFirst
      | cons other before =>
          obtain ⟨rfl, hTail⟩ := List.cons.inj h
          obtain ⟨middle, rfl, hRest⟩ :=
            ih hTail (fun hMem => hFirst (List.mem_cons_of_mem _ hMem))
          exact ⟨middle, rfl, hRest⟩

end Foundations
