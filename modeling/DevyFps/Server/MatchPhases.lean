import DevyFps.Server.MatchRuns
import Mathlib.Logic.Relation

/-! The phases of a match along its runs. -/

namespace DevyFps.Server.MatchLifecycleSimulation

open Foundations

/-- A match starts once and ends once. -/
inductive PhaseMove : MatchPhase → MatchPhase → Prop where
  | start : PhaseMove .preMatch .inMatch
  | finish : PhaseMove .inMatch .postMatch

/-- Nothing comes after the match. -/
theorem PhaseMove.of_postMatch {phase : MatchPhase}
    (h : Relation.ReflTransGen PhaseMove .postMatch phase) : phase = .postMatch := by
  rcases h.cases_head with hSame | ⟨_, hMove, _⟩
  · exact hSame.symm
  · cases hMove

/-- A match that is left is not entered again. -/
theorem PhaseMove.inMatch_between {phase : MatchPhase}
    (h : Relation.ReflTransGen PhaseMove .inMatch phase)
    (h' : Relation.ReflTransGen PhaseMove phase .inMatch) : phase = .inMatch := by
  rcases h.cases_head with hSame | ⟨_, hMove, hRest⟩
  · exact hSame.symm
  · cases hMove with
    | finish =>
        rw [of_postMatch hRest] at h'
        cases of_postMatch h'

/-- What holds of a match within a tick: before its end there is no winner, and in play
there is time left unless it expired in this tick. -/
structure InOrder (expired : Bool) (s : MatchLifecycleSimulation) : Prop where
  running : s.phase = .inMatch → expired = false → 0 < s.inMatchSecondsRemaining
  undecided : s.phase ≠ .postMatch → s.winnerPlayerId = none
  lasting : 0 < s.config.matchDurationSeconds

/-- What a later state of the same match has in common with an earlier one. -/
structure Advances (s t : MatchLifecycleSimulation) : Prop where
  phase : Relation.ReflTransGen PhaseMove s.phase t.phase
  decided : s.phase = .postMatch → t.winnerPlayerId = s.winnerPlayerId
  counted : s.phase = .inMatch → t.phase = .inMatch →
    t.inMatchSecondsRemaining ≤ s.inMatchSecondsRemaining

variable {s t u : MatchLifecycleSimulation} {expired : Bool}

theorem Advances.trans (h : Advances s t) (h' : Advances t u) : Advances s u where
  phase := h.phase.trans h'.phase
  decided hPost := by
    have hMiddle : t.phase = .postMatch := PhaseMove.of_postMatch (hPost ▸ h.phase)
    exact (h'.decided hMiddle).trans (h.decided hPost)
  counted hStart hEnd := by
    have hMiddle : t.phase = .inMatch :=
      PhaseMove.inMatch_between (hStart ▸ h.phase) (hEnd ▸ h'.phase)
    exact (h'.counted hMiddle hEnd).trans (h.counted hStart hMiddle)

/-- Where the clock is the same no phase is left. -/
theorem SameClock.advances (h : SameClock s t) : Advances s t where
  phase := by rw [h.phase_eq]
  decided _ := h.winner_eq
  counted _ _ := h.seconds_eq.le

theorem SameClock.inOrder (h : SameClock s t) (hOrder : InOrder expired s) : InOrder expired t where
  running hPhase hLeft := by
    rw [h.seconds_eq]
    exact hOrder.running (h.phase_eq ▸ hPhase) hLeft
  undecided hPhase := by
    rw [h.winner_eq]
    exact hOrder.undecided (h.phase_eq ▸ hPhase)
  lasting := by
    rw [h.config_eq]
    exact hOrder.lasting

/-- The countdown, with what it reports: it changes the phase only to start the match. -/
theorem countDown_inOrder (h : InOrder false s) (tick : Nat) :
    InOrder false (s.countDown tick).2.2 ∧ Advances s (s.countDown tick).2.2 ∧
      ((s.countDown tick).2.2.phase = s.phase ∨
        s.phase = .preMatch ∧ (s.countDown tick).2.2.phase = .inMatch ∧
          (s.countDown tick).1 = true) := by
  rcases s.countDown_cases tick with ⟨hStarts, hChanged, _, ticks, hAfter⟩ | ⟨_, _, ticks, hAfter⟩
  · rw [hAfter, hChanged]
    refine ⟨⟨fun _ _ => h.lasting, fun _ => rfl, h.lasting⟩, ⟨?_, ?_, ?_⟩, ?_⟩
    · rw [hStarts.1]
      exact .single .start
    · intro hPost
      rw [hStarts.1] at hPost
      cases hPost
    · intro hIn
      rw [hStarts.1] at hIn
      cases hIn
    · exact Or.inr ⟨hStarts.1, rfl, rfl⟩
  · rw [hAfter]
    exact ⟨⟨h.running, h.undecided, h.lasting⟩, ⟨.refl, fun _ => rfl, fun _ _ => le_rfl⟩,
      Or.inl rfl⟩

/-- The clock runs down in the match only, and it never goes below zero. -/
theorem runClock_inOrder (h : InOrder false s) (tickInterval : Int) (started : Bool) :
    InOrder (s.runClock tickInterval started).1 (s.runClock tickInterval started).2 ∧
      Advances s (s.runClock tickInterval started).2 ∧
      (s.runClock tickInterval started).2.phase = s.phase := by
  obtain ⟨_, accumulator, seconds, hAfter, hLe, hLeft⟩ := s.runClock_spec tickInterval started
  rw [hAfter]
  exact ⟨⟨fun hPhase hFlag => hLeft (h.running hPhase rfl) hFlag, h.undecided, h.lasting⟩,
    ⟨.refl, fun _ => rfl, fun _ _ => hLe⟩, rfl⟩

/-- The end of the match, with what it reports. -/
theorem finishMatch_inOrder (h : InOrder expired s) (tick : Nat) :
    InOrder false (s.finishMatch tick expired).2 ∧ Advances s (s.finishMatch tick expired).2 ∧
      ((s.finishMatch tick expired).2.phase = s.phase ∨
        s.phase = .inMatch ∧ (s.finishMatch tick expired).1 = true) := by
  rcases s.finishMatch_cases tick expired with
    ⟨hPhase, _, hChanged, winner, hAfter⟩ | ⟨hGoesOn, hSame⟩
  · rw [hAfter, hChanged]
    refine ⟨⟨fun hIn => (nomatch hIn), fun hNot => absurd rfl hNot, h.lasting⟩, ⟨?_, ?_, ?_⟩,
      Or.inr ⟨hPhase, rfl⟩⟩
    · rw [hPhase]
      exact .single .finish
    · intro hPost
      rw [hPhase] at hPost
      cases hPost
    · intro _ hIn
      cases hIn
  · rw [hSame]
    refine ⟨⟨fun hIn _ => ?_, h.undecided, h.lasting⟩, ⟨.refl, fun _ => rfl, fun _ _ => le_rfl⟩,
      Or.inl rfl⟩
    rcases hGoesOn with hNot | hOn
    · exact absurd hIn hNot
    · exact h.running hIn hOn.2

/-- A tick up to its deaths. -/
theorem openTick_inOrder (h : InOrder false s) (tick : Nat) (tickInterval : Int)
    (activePlayerIds : List Nat) (combatStates : List PlayerCombatState)
    (inventorySummaries : List InventorySummary) :
    let opened := s.openTick tick tickInterval activePlayerIds combatStates inventorySummaries
    InOrder opened.1 opened.2.2 ∧ Advances s opened.2.2 ∧
      (opened.2.2.phase = s.phase ∨
        s.phase = .preMatch ∧ opened.2.2.phase = .inMatch ∧ opened.2.1 = true) := by
  have hObserve := s.sameClock_observe activePlayerIds combatStates inventorySummaries
  obtain ⟨hCounted, hCount, hReport⟩ := countDown_inOrder (hObserve.inOrder h) tick
  obtain ⟨hTimed, hTime, hPhase⟩ := runClock_inOrder hCounted tickInterval
    ((s.observe activePlayerIds combatStates inventorySummaries).countDown tick).2.1
  refine ⟨hTimed, (hObserve.advances.trans hCount).trans hTime, ?_⟩
  unfold openTick
  dsimp only
  rw [hPhase, ← hObserve.phase_eq]
  exact hReport

/-- One tick: the match stays in order and advances, a tick that changes the phase reports
it, and none skips the match proper. -/
theorem resolveTick_inOrder (h : InOrder false s) (tick : Nat) (tickInterval : Int)
    (activePlayerIds : List Nat) (combatStates : List PlayerCombatState)
    (deathEvents : List DeathResolution) (inventorySummaries : List InventorySummary) :
    let after := s.resolveTick tick tickInterval activePlayerIds combatStates deathEvents
      inventorySummaries
    InOrder false after.2 ∧ Advances s after.2 ∧
      (after.2.phase ≠ s.phase → after.1.stateChanged = true) ∧
      (s.phase = .preMatch → after.2.phase = .postMatch →
        (s.openTick tick tickInterval activePlayerIds combatStates
          inventorySummaries).2.2.phase = .inMatch) := by
  obtain ⟨hOpened, hOpen, hStart⟩ := openTick_inOrder h tick tickInterval activePlayerIds
    combatStates inventorySummaries
  have hRecords := s.sameClock_playTick tick tickInterval activePlayerIds combatStates deathEvents
    inventorySummaries
  obtain ⟨hFinished, hFinish, hEnd⟩ := finishMatch_inOrder (hRecords.inOrder hOpened) tick
  intro after
  have hAfter : after.2 = _ := s.resolveTick_snd tick tickInterval activePlayerIds combatStates
    deathEvents inventorySummaries
  have hChanged : after.1.stateChanged = _ := s.stateChanged_resolveTick tick tickInterval
    activePlayerIds combatStates deathEvents inventorySummaries
  rw [hAfter, hChanged]
  refine ⟨hFinished, (hOpen.trans hRecords.advances).trans hFinish, fun hMoved => ?_,
    fun hPre hPost => ?_⟩
  · rcases hEnd with hSame | ⟨_, hReported⟩
    · rcases hStart with hKept | ⟨_, _, hReported⟩
      · exact absurd (hSame.trans (hRecords.phase_eq.trans hKept)) hMoved
      · rw [hReported, Bool.true_or]
    · rw [hReported, Bool.or_true]
  · rcases hStart with hKept | ⟨_, hIn, _⟩
    · rcases hEnd with hSame | ⟨hIn, _⟩
      · rw [hSame, hRecords.phase_eq, hKept, hPre] at hPost
        cases hPost
      · exact hRecords.phase_eq.symm.trans hIn
    · exact hIn

/-- A new match waits for its start. -/
theorem inOrder_create (config : MatchLifecycleConfig) : InOrder false (create config) where
  running h := nomatch h
  undecided _ := rfl
  lasting := by
    change 0 < (sanitizeConfig config).matchDurationSeconds
    simp only [sanitizeConfig]
    split
    · decide
    · exact Nat.pos_of_ne_zero ‹_›

/-- Every call keeps phase, clock and winner in order, and moves forward only. -/
theorem MatchCall.inOrder {event : MatchEvent} (h : InOrder false s) (call : MatchCall s event t) :
    InOrder false t ∧ Advances s t := by
  cases call with
  | ensurePlayer playerId =>
      have hSame := s.sameClock_ensurePlayer playerId
      exact ⟨hSame.inOrder h, hSame.advances⟩
  | removePlayer playerId =>
      have hSame := s.sameClock_modifyPlayer playerId fun record =>
        { record with connected := false, pendingRespawnTick := none }
      exact ⟨hSame.inOrder h, hSame.advances⟩
  | resolveTick tick tickInterval activePlayerIds combatStates deathEvents inventorySummaries =>
      obtain ⟨hAfter, hAdvances, _⟩ := resolveTick_inOrder h tick tickInterval activePlayerIds
        combatStates deathEvents inventorySummaries
      exact ⟨hAfter, hAdvances⟩

/-- So does every run. -/
theorem run_inOrder (h : InOrder false s) {trace : List MatchEvent}
    (run : Run MatchCall s trace t) : InOrder false t ∧ Advances s t := by
  induction run with
  | nil => exact ⟨h, .refl, fun _ => rfl, fun _ _ => le_rfl⟩
  | snoc prior last ih =>
      obtain ⟨hPrior, hAdvances⟩ := ih
      obtain ⟨hLast, hStep⟩ := last.inOrder hPrior
      exact ⟨hLast, hAdvances.trans hStep⟩

/-- The phases of a run: they move forward only, the winner is unknown before the end
and fixed from then on, time in play is positive and never grows, no time is left after
the end, and every tick that changes the phase reports a change and passes through the
match proper. -/
theorem match_phase_machine (config : MatchLifecycleConfig) {trace trace' : List MatchEvent}
    (run : Run MatchCall (create config) trace s) (later : Run MatchCall s trace' t) :
    Relation.ReflTransGen PhaseMove s.phase t.phase ∧
    (∀ tickInterval,
      ((s.state tickInterval).phase ≠ .postMatch →
        (s.state tickInterval).winnerPlayerId = none) ∧
      (s.phase = .postMatch →
        (t.state tickInterval).winnerPlayerId = (s.state tickInterval).winnerPlayerId) ∧
      (s.phase = .inMatch → 0 < (s.state tickInterval).remainingSeconds) ∧
      (∀ tickInterval', s.phase = .inMatch → t.phase = .inMatch →
        (t.state tickInterval').remainingSeconds ≤ (s.state tickInterval).remainingSeconds) ∧
      (s.phase = .postMatch → (s.state tickInterval).remainingSeconds = 0)) ∧
    ∀ (tick : Nat) (tickInterval : Int) (activePlayerIds : List Nat)
      (combatStates : List PlayerCombatState) (deathEvents : List DeathResolution)
      (inventorySummaries : List InventorySummary),
      let after := s.resolveTick tick tickInterval activePlayerIds combatStates deathEvents
        inventorySummaries
      after.1.state = after.2.state tickInterval ∧
      (after.1.state.phase ≠ s.phase → after.1.stateChanged = true) ∧
      (s.phase = .preMatch → after.1.state.phase = .postMatch →
        (s.openTick tick tickInterval activePlayerIds combatStates
          inventorySummaries).2.2.phase = .inMatch) := by
  obtain ⟨hOrder, _⟩ := run_inOrder (inOrder_create config) run
  obtain ⟨_, hAdvances⟩ := run_inOrder hOrder later
  refine ⟨hAdvances.phase, fun tickInterval => ⟨hOrder.undecided, hAdvances.decided, ?_, ?_, ?_⟩, ?_⟩
  · intro hPhase
    simp only [state, buildState, hPhase]
    exact hOrder.running hPhase rfl
  · intro tickInterval' hStart hEnd
    simp only [state, buildState, hStart, hEnd]
    exact hAdvances.counted hStart hEnd
  · intro hPhase
    simp only [state, buildState, hPhase]
  · intro tick tickInterval activePlayerIds combatStates deathEvents inventorySummaries after
    obtain ⟨_, _, hReported, hThrough⟩ := resolveTick_inOrder hOrder tick tickInterval
      activePlayerIds combatStates deathEvents inventorySummaries
    have hState : after.1.state = after.2.state tickInterval := s.state_resolveTick tick
      tickInterval activePlayerIds combatStates deathEvents inventorySummaries
    rw [hState, phase_state]
    exact ⟨rfl, hReported, hThrough⟩

/-- A match of two players that starts in its first tick. -/
theorem match_phase_machine_start :
    ((((create { preMatchTicks := 1 }).ensurePlayer 1).ensurePlayer 2).resolveTick 1 0 [1, 2] [] []
      []).1.stateChanged = true := by
  have run : Run MatchCall (create { preMatchTicks := 1 }) ([] ++ [.called] ++ [.called])
      (((create { preMatchTicks := 1 }).ensurePlayer 1).ensurePlayer 2) :=
    ((Run.nil _).snoc (.ensurePlayer _ 1)).snoc (.ensurePlayer _ 2)
  obtain ⟨_, _, hTick⟩ := match_phase_machine { preMatchTicks := 1 } run (.nil _)
  exact (hTick 1 0 [1, 2] [] [] []).2.1 (by decide)

end DevyFps.Server.MatchLifecycleSimulation
