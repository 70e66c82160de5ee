import DevyFps.Server.LoopTicks
import DevyFps.Server.MatchPhases
import Mathlib.Data.List.Destutter

/-! The phases that the match enters while the loop runs. Only a tick moves it on, by one phase
or by two, and reports that it did. -/

namespace DevyFps.Server

open Foundations

namespace MatchLifecycleSimulation

def phaseRank : MatchPhase → Nat
  | .preMatch => 0
  | .inMatch => 1
  | .postMatch => 2

theorem PhaseMove.rank_lt {phase phase' : MatchPhase} (h : PhaseMove phase phase') :
    phaseRank phase < phaseRank phase' := by
  cases h <;> decide

/-- A match is in each of its phases once. -/
theorem nodup_of_moves {phases : List MatchPhase} (h : phases.IsChain PhaseMove) :
    phases.Nodup := by
  have hRanks : (phases.map phaseRank).IsChain (· < ·) :=
    List.isChain_map_of_isChain phaseRank (fun _ _ hMove => hMove.rank_lt) h
  have hDistinct : (phases.map phaseRank).Nodup :=
    (List.isChain_iff_pairwise.mp hRanks).imp fun hLess => Nat.ne_of_lt hLess
  exact hDistinct.of_map phaseRank

/-- A tick up to its deaths starts the match, or it leaves the phase alone. -/
theorem phase_openWith (s : MatchLifecycleSimulation) (call : TickCall) :
    (s.openWith call).2.2.phase = s.phase ∨
      s.phase = .preMatch ∧ (s.openWith call).2.2.phase = .inMatch ∧
        (s.openWith call).2.1 = true := by
  have hSame := (s.sameClock_observeWith call).phase_eq
  unfold openWith
  rcases s.openTick_cases call.tick call.tickInterval call.activePlayerIds call.combatStates
    call.inventorySummaries with ⟨hStarts, hChanged, _, _, _, hAfter⟩ | ⟨-, _, _, _, hAfter⟩
  · rw [hAfter]
    exact Or.inr ⟨hSame.symm.trans hStarts.1, rfl, hChanged⟩
  · rw [hAfter]
    exact Or.inl hSame

/-- The rest of the tick ends the match, or it leaves the phase alone. -/
theorem phase_afterOpen (s : MatchLifecycleSimulation) (call : TickCall) :
    (s.tickWith call).2.phase = (s.openWith call).2.2.phase ∨
      (s.openWith call).2.2.phase = .inMatch ∧ (s.tickWith call).2.phase = .postMatch ∧
        (s.tickWith call).1.stateChanged = true := by
  have hSame := (s.sameClock_playWith call).phase_eq
  have hAfter : (s.tickWith call).2 =
      ((s.playWith call).2.finishMatch call.tick (s.openWith call).1).2 := by
    rw [tickWith, resolveTick_snd, playWith, openWith]
  have hFlag : (s.tickWith call).1.stateChanged = ((s.openWith call).2.1 ||
      ((s.playWith call).2.finishMatch call.tick (s.openWith call).1).1) := by
    rw [tickWith, stateChanged_resolveTick, playWith, openWith]
  rw [hAfter, hFlag]
  rcases (s.playWith call).2.finishMatch_cases call.tick (s.openWith call).1 with
    ⟨hIn, -, hChanged, winner, hEnd⟩ | ⟨-, hGoesOn⟩
  · rw [hEnd, hChanged, Bool.or_true]
    exact Or.inr ⟨hSame.symm.trans hIn, rfl, rfl⟩
  · rw [hGoesOn]
    exact Or.inl hSame

theorem stateChanged_of_opened {s : MatchLifecycleSimulation} {call : TickCall}
    (h : (s.openWith call).2.1 = true) : (s.tickWith call).1.stateChanged = true := by
  rw [tickWith, stateChanged_resolveTick]
  exact (congrArg (· || _) h).trans (Bool.true_or _)

/-- The phases that the match enters in a tick. -/
def phasesEntered (s : MatchLifecycleSimulation) (call : TickCall) : List MatchPhase :=
  (List.destutter' (· ≠ ·) s.phase
    [(s.openWith call).2.2.phase, (s.tickWith call).2.phase]).tail

/-- A tick that does not both start and end the match enters a phase if it leaves another one
than it found. -/
theorem phasesEntered_eq {s : MatchLifecycleSimulation} {call : TickCall}
    (h : ¬ (s.phase = .preMatch ∧ (s.tickWith call).2.phase = .postMatch)) :
    s.phasesEntered call =
        (if (s.tickWith call).2.phase = s.phase then [] else [(s.tickWith call).2.phase]) ∧
      ((s.tickWith call).2.phase ≠ s.phase → PhaseMove s.phase (s.tickWith call).2.phase) := by
  unfold phasesEntered
  rcases s.phase_openWith call with hOpen | ⟨hPre, hOpen, -⟩
  · rcases s.phase_afterOpen call with hAfter | ⟨hIn, hPost, -⟩
    · rw [hAfter, hOpen]
      simp
    · rw [hPost, hIn, ← hOpen, hIn]
      exact ⟨rfl, fun _ => .finish⟩
  · rcases s.phase_afterOpen call with hAfter | ⟨-, hPost, -⟩
    · rw [hAfter, hOpen, hPre]
      exact ⟨rfl, fun _ => .start⟩
    · exact absurd ⟨hPre, hPost⟩ h

/-- A tick that starts the match and ends it enters two phases. -/
theorem phasesEntered_of_both {s : MatchLifecycleSimulation} {call : TickCall}
    (hPre : s.phase = .preMatch) (hPost : (s.tickWith call).2.phase = .postMatch) :
    s.phasesEntered call = [.inMatch, .postMatch] := by
  unfold phasesEntered
  rw [hPre, hPost]
  rcases s.phase_afterOpen call with hAfter | ⟨hIn, -, -⟩
  · rcases s.phase_openWith call with hOpen | ⟨-, hIn, -⟩
    · rw [hAfter, hOpen, hPre] at hPost
      cases hPost
    · rw [hAfter, hIn] at hPost
      cases hPost
  · rw [hIn]
    rfl

theorem stateChanged_of_moved {s : MatchLifecycleSimulation} {call : TickCall}
    (hMoved : (s.tickWith call).2.phase ≠ s.phase) : (s.tickWith call).1.stateChanged = true := by
  rcases s.phase_afterOpen call with hAfter | ⟨-, -, hChanged⟩
  · rcases s.phase_openWith call with hOpen | ⟨-, -, hFlag⟩
    · exact absurd (hAfter.trans hOpen) hMoved
    · exact stateChanged_of_opened hFlag
  · exact hChanged

end MatchLifecycleSimulation

namespace MainLoop

open MatchLifecycleSimulation

variable {F : Type} [SingleFloat F] {s t : MainLoop F}

theorem DeedStep.phase_eq {deed : Deed F} (hStep : DeedStep s deed t)
    (hQuiet : ∀ record, deed ≠ .ticked record) :
    t.matchLifecycleSimulation.phase = s.matchLifecycleSimulation.phase := by
  cases hStep with
  | idle hIdles => rw [hIdles.matchLifecycleSimulation]
  | tick frame rest hFrames => exact absurd rfl (hQuiet _)
  | _ => rfl

/-- Between two ticks the match stays in its phase. -/
theorem phase_of_step {event : LoopEvent F} (hTables : s.sessionManager.TablesAgree)
    (hStep : LoopStep s event t) (hQuiet : ∀ record, event ≠ .ticked record) :
    t.matchLifecycleSimulation.phase = s.matchLifecycleSimulation.phase := by
  have hDeeds : Run (fun u deed v => DeedStep u deed v ∧ ∀ record, deed ≠ .ticked record)
      s (deedsOf event) t := by
    refine (run_step hTables hStep).guard fun deed hDeed _ record hTicked => ?_
    rw [hTicked] at hDeed
    exact hQuiet record (ticked_mem_deedsOf hDeed)
  exact hDeeds.invariant
    (I := fun u => u.matchLifecycleSimulation.phase = s.matchLifecycleSimulation.phase)
    (fun _ _ _ hBefore hDeed => (hDeed.1.phase_eq hDeed.2).trans hBefore) rfl

/-- What a tick reports of the match is what it leaves of it, and that it moved on if it did. -/
theorem reported_of_ticked {record : ServerTick F} (hStep : LoopStep s (.ticked record) t) :
    t.matchLifecycleSimulation.phase = record.lifecycle.state.phase ∧
      (record.lifecycle.state.phase ≠ s.matchLifecycleSimulation.phase →
        record.lifecycle.stateChanged = true) := by
  obtain ⟨frame, rest, -, rfl, hTicked⟩ := ticked_of_step hStep
  rw [lifecycle_runFrame, playedIn_eq, phase_tickWith, hTicked.matchLifecycleSimulation, playedIn_eq]
  exact ⟨rfl, stateChanged_of_moved⟩

/-- The phases that a tick enters, from what it reports of the match. -/
theorem entered_of_ticked {record : ServerTick F} (hStep : LoopStep s (.ticked record) t) :
    (s.matchLifecycleSimulation.phase = .preMatch → record.lifecycle.state.phase = .postMatch →
      s.matchLifecycleSimulation.phasesEntered (s.matchCall record.frame) =
        [.inMatch, .postMatch]) ∧
    (¬ (s.matchLifecycleSimulation.phase = .preMatch ∧
        record.lifecycle.state.phase = .postMatch) →
      s.matchLifecycleSimulation.phasesEntered (s.matchCall record.frame) =
          (if record.lifecycle.state.phase = s.matchLifecycleSimulation.phase then []
          else [record.lifecycle.state.phase]) ∧
        (record.lifecycle.state.phase ≠ s.matchLifecycleSimulation.phase →
          PhaseMove s.matchLifecycleSimulation.phase record.lifecycle.state.phase)) := by
  obtain ⟨frame, rest, -, rfl, -⟩ := ticked_of_step hStep
  rw [lifecycle_runFrame, playedIn_eq, phase_tickWith, frame_runFrame]
  exact ⟨phasesEntered_of_both, phasesEntered_eq⟩

theorem tables_of_step {event : LoopEvent F} (hTables : s.sessionManager.TablesAgree)
    (hStep : LoopStep s event t) : t.sessionManager.TablesAgree :=
  (run_step hTables hStep).invariant (fun _ _ _ h hDeed => hDeed.tables h) hTables

end MainLoop

end DevyFps.Server
