import DevyFps.Foundations.Run
import Mathlib.Logic.Function.Basic

/-! Actions that are paced by deadlines: an action waits for the deadline of its key and
sets the next one. -/

namespace Foundations

universe u

/-- What can happen to a table of deadlines. -/
inductive Pace (κ : Type u) where
  | acted (key : κ) (now wait : Nat)
  | cleared (key : κ)
  | allCleared

/-- The deadline of the key is forgotten. -/
def Pace.Clears {κ : Type u} (key : κ) : Pace κ → Prop
  | .acted _ _ _ => False
  | .cleared other => other = key
  | .allCleared => True

variable {κ : Type u} [DecidableEq κ]

inductive PaceStep : (κ → Nat) → Pace κ → (κ → Nat) → Prop where
  | acted (deadline : κ → Nat) (key : κ) (now wait : Nat) (h : deadline key ≤ now) :
      PaceStep deadline (.acted key now wait) (Function.update deadline key (now + wait))
  | cleared (deadline : κ → Nat) (key : κ) :
      PaceStep deadline (.cleared key) (Function.update deadline key 0)
  | allCleared (deadline : κ → Nat) : PaceStep deadline .allCleared fun _ => 0

/-- Only a clearing of the key lowers its deadline. -/
theorem PaceStep.le_deadline {deadline later : κ → Nat} {pace : Pace κ} {key : κ}
    (h : PaceStep deadline pace later) (hKept : ¬ pace.Clears key) :
    deadline key ≤ later key := by
  cases h with
  | acted other now wait hNow =>
      by_cases hSame : key = other
      · rw [hSame, Function.update_self]
        exact Nat.le_trans hNow (Nat.le_add_right now wait)
      · exact Nat.le_of_eq (Function.update_of_ne hSame _ _).symm
  | cleared other =>
      have hOther : key ≠ other := fun hSame => hKept hSame.symm
      exact Nat.le_of_eq (Function.update_of_ne hOther _ _).symm
  | allCleared => exact absurd trivial hKept

theorem le_deadline_of_run {deadline later : κ → Nat} {paces : List (Pace κ)} {key : κ}
    (run : Run PaceStep deadline paces later) (hKept : ∀ pace ∈ paces, ¬ pace.Clears key) :
    deadline key ≤ later key := by
  induction run with
  | nil => exact Nat.le_refl _
  | @snoc middle finish paces pace prior last ih =>
      have hPrior := ih fun earlier hEarlier => hKept earlier (List.mem_append_left _ hEarlier)
      exact Nat.le_trans hPrior (last.le_deadline (hKept pace List.mem_concat_self))

/-- Two actions of one key are as far apart as the first one asked for. -/
theorem apart_of_run {deadline later : κ → Nat} {before between rest : List (Pace κ)} {key : κ}
    {now wait now' wait' : Nat}
    (run : Run PaceStep deadline
      (before ++ .acted key now wait :: between ++ .acted key now' wait' :: rest) later)
    (hKept : ∀ pace ∈ between, ¬ pace.Clears key) : now + wait ≤ now' := by
  rw [List.append_assoc, List.cons_append] at run
  obtain ⟨s, t, -, hFirst, hAfter⟩ := run.around
  obtain ⟨u, v, hBetween, hSecond, -⟩ := hAfter.around
  have hSet : t key = now + wait := by
    cases hFirst with
    | acted _ _ _ h => exact Function.update_self ..
  have hMet : u key ≤ now' := by
    cases hSecond with
    | acted _ _ _ h => exact h
  calc now + wait
    _ = t key := hSet.symm
    _ ≤ u key := le_deadline_of_run hBetween hKept
    _ ≤ now' := hMet

end Foundations
