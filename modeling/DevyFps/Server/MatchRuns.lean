import DevyFps.Foundations.Run
import DevyFps.Server.MatchRecords

/-! Runs of the match: its calls in any order, without `reset`, and the stages of a
tick that touch the records only. -/

namespace DevyFps.Server

open Foundations

/-- A tick of the match, as its callers see it. -/
structure TickRecord where
  tick : Nat
  startPhase : MatchPhase
  deathEvents : List DeathResolution
  result : MatchLifecycleTickResult

inductive MatchEvent where
  | called
  | ticked (record : TickRecord)

namespace MatchLifecycleSimulation

/-- The calls that change the match, `reset` left out. -/
inductive MatchCall : MatchLifecycleSimulation → MatchEvent → MatchLifecycleSimulation → Prop where
  | ensurePlayer (s) (playerId : Nat) : MatchCall s .called (s.ensurePlayer playerId)
  | removePlayer (s) (playerId : Nat) : MatchCall s .called (s.removePlayer playerId)
  | resolveTick (s) (tick : Nat) (tickInterval : Int) (activePlayerIds : List Nat)
      (combatStates : List PlayerCombatState) (deathEvents : List DeathResolution)
      (inventorySummaries : List InventorySummary) :
      MatchCall s
        (.ticked
          { tick := tick
            startPhase := s.phase
            deathEvents := deathEvents
            result := (s.resolveTick tick tickInterval activePlayerIds combatStates deathEvents
              inventorySummaries).1 })
        (s.resolveTick tick tickInterval activePlayerIds combatStates deathEvents
          inventorySummaries).2

/-- The two states differ in their records only. -/
def SameClock (s t : MatchLifecycleSimulation) : Prop :=
  t = { s with playersById := t.playersById }

namespace SameClock

variable {s t u : MatchLifecycleSimulation}

theorem refl (s : MatchLifecycleSimulation) : SameClock s s := rfl

/-- The clock of the match is the same if it is by way of a third state. -/
theorem trans (h : SameClock s t) (h' : SameClock t u) : SameClock s u := by
  unfold SameClock at *
  rw [h', h]

theorem phase_eq (h : SameClock s t) : t.phase = s.phase := by rw [h]

theorem seconds_eq (h : SameClock s t) :
    t.inMatchSecondsRemaining = s.inMatchSecondsRemaining := by rw [h]

theorem winner_eq (h : SameClock s t) : t.winnerPlayerId = s.winnerPlayerId := by rw [h]

theorem config_eq (h : SameClock s t) : t.config = s.config := by rw [h]

/-- A loop keeps the clock that each of its rounds keeps. -/
theorem foldl {α : Type} {f : MatchLifecycleSimulation → α → MatchLifecycleSimulation}
    (h : ∀ s a, SameClock s (f s a)) (l : List α) (s : MatchLifecycleSimulation) :
    SameClock s (l.foldl f s) := by
  induction l generalizing s with
  | nil => exact refl s
  | cons head rest ih => exact (h s head).trans (ih (f s head))

end SameClock

/-- Only four fields make up the clock, and no write to a record touches them. -/
theorem sameClock_ensurePlayer (s : MatchLifecycleSimulation) (playerId : Nat) :
    SameClock s (s.ensurePlayer playerId) := rfl

theorem sameClock_modifyPlayer (s : MatchLifecycleSimulation) (playerId : Nat)
    (f : PlayerRecord → PlayerRecord) : SameClock s (s.modifyPlayer playerId f) := rfl

/-- What a tick observes does not touch the clock. -/
theorem sameClock_observe (s : MatchLifecycleSimulation) (activePlayerIds : List Nat)
    (combatStates : List PlayerCombatState) (inventorySummaries : List InventorySummary) :
    SameClock s (s.observe activePlayerIds combatStates inventorySummaries) := by
  have hMark : SameClock s (s.markActive activePlayerIds) :=
    SameClock.trans (SameClock.foldl sameClock_ensurePlayer activePlayerIds s) rfl
  have hCombat : ∀ t state, SameClock t (t.syncCombatState state) := fun _ _ => rfl
  have hCoins : ∀ t summary, SameClock t (t.syncCoins summary) := fun _ _ => rfl
  exact (hMark.trans (SameClock.foldl hCombat combatStates _)).trans
    (SameClock.foldl hCoins inventorySummaries _)

theorem sameClock_recordDeath (s : MatchLifecycleSimulation) (tick : Nat)
    (death : DeathResolution) : SameClock s (s.recordDeath tick death) := by
  unfold recordDeath
  dsimp only
  split
  · rfl
  · rfl

theorem sameClock_recordDeaths (tick : Nat) (deaths : List DeathResolution)
    (s : MatchLifecycleSimulation) (handled : Finset Nat) :
    SameClock s (s.recordDeaths tick deaths handled) :=
  keeps_recordDeaths .refl .trans (fun s death => sameClock_recordDeath s tick death) deaths s
    handled

/-- Nor do the deaths of a tick. -/
theorem sameClock_applyDeaths (s : MatchLifecycleSimulation) (tick : Nat)
    (deathEvents : List DeathResolution) : SameClock s (s.applyDeaths tick deathEvents) := by
  unfold applyDeaths
  split
  · exact sameClock_recordDeaths tick _ s ∅
  · exact .refl s

theorem sameClock_respawnDue (tick : Nat) (ids : List Nat) (s : MatchLifecycleSimulation) :
    SameClock s (s.respawnDue tick ids).2 :=
  keeps_respawnDue .refl .trans (fun s head => sameClock_modifyPlayer s head stopWaiting)
    (fun s head => sameClock_modifyPlayer s head returned) tick ids s

/-- Nor its respawns. -/
theorem sameClock_applyRespawns (s : MatchLifecycleSimulation) (tick : Nat) :
    SameClock s (s.applyRespawns tick).2 := by
  unfold applyRespawns
  split
  · exact sameClock_respawnDue tick _ s
  · exact .refl s

/-- Whether the countdown starts the match in this tick. -/
def Starts (s : MatchLifecycleSimulation) : Prop :=
  s.phase = .preMatch ∧ s.config.minPlayersToStart ≤ s.connectedCount ∧
    s.preMatchTicksRemaining ≤ 1

/-- The countdown starts the match, or it leaves everything but its own counter. -/
theorem countDown_cases (s : MatchLifecycleSimulation) (tick : Nat) :
    (s.Starts ∧ (s.countDown tick).1 = true ∧ (s.countDown tick).2.1 = true ∧
        ∃ ticks, (s.countDown tick).2.2 =
          ({ s with preMatchTicksRemaining := ticks } : MatchLifecycleSimulation).enterInMatch
            tick) ∨
      (¬ s.Starts ∧ (s.countDown tick).2.1 = false ∧
        ∃ ticks, (s.countDown tick).2.2 = { s with preMatchTicksRemaining := ticks }) := by
  unfold countDown Starts
  by_cases hPhase : s.phase = .preMatch
  · rw [if_neg (not_not.mpr hPhase)]
    by_cases hFew : s.connectedCount < s.config.minPlayersToStart
    · rw [if_pos hFew]
      exact Or.inr ⟨fun h => absurd h.2.1 (not_le.mpr hFew), rfl, _, rfl⟩
    · rw [if_neg hFew]
      dsimp only
      by_cases hZero : s.preMatchTicksRemaining - 1 = 0
      · rw [if_pos hZero]
        exact Or.inl ⟨⟨hPhase, not_lt.mp hFew, by omega⟩, rfl, rfl, _, rfl⟩
      · rw [if_neg hZero]
        exact Or.inr ⟨fun h => hZero (by omega), rfl, _, rfl⟩
  · rw [if_pos hPhase]
    exact Or.inr ⟨fun h => hPhase h.1, rfl, _, rfl⟩

/-- The clock runs down only. -/
theorem drainSeconds_le (accumulator : Int) (seconds : Nat) :
    (drainSeconds accumulator seconds).2 ≤ seconds := by
  induction seconds generalizing accumulator with
  | zero => exact Nat.le_refl 0
  | succ seconds ih =>
      unfold drainSeconds
      split
      · exact (ih _).trans (Nat.le_succ seconds)
      · exact Nat.le_refl _

/-- The seconds are used up exactly when the accumulator holds them all. -/
theorem drainSeconds_eq_zero (accumulator : Int) (seconds : Nat) :
    (drainSeconds accumulator seconds).2 = 0 ↔ seconds = 0 ∨ seconds * kOneSecond ≤ accumulator := by
  induction seconds generalizing accumulator with
  | zero => exact ⟨fun _ => Or.inl rfl, fun _ => rfl⟩
  | succ seconds ih =>
      unfold drainSeconds
      have hStep : ((seconds + 1 : Nat) : Int) * kOneSecond = seconds * kOneSecond + kOneSecond := by
        push_cast
        ring
      have hNonneg : 0 ≤ (seconds : Int) * kOneSecond :=
        mul_nonneg (Int.natCast_nonneg seconds) (by decide)
      rw [hStep]
      by_cases hSecond : kOneSecond ≤ accumulator
      · rw [if_pos hSecond, ih]
        constructor
        · rintro (hNone | hRest)
          · rw [hNone]
            exact Or.inr (by simpa using hSecond)
          · exact Or.inr (by omega)
        · rintro (hNone | hRest)
          · exact absurd hNone (Nat.succ_ne_zero seconds)
          · exact Or.inr (by omega)
      · rw [if_neg hSecond]
        exact ⟨fun h => absurd h (Nat.succ_ne_zero seconds), fun h => by omega⟩

/-- Whether the time left runs out within one tick. -/
def RunsOut (s : MatchLifecycleSimulation) (tickInterval : Int) : Prop :=
  s.phase = .inMatch ∧ 0 < tickInterval ∧ 0 < s.inMatchSecondsRemaining ∧
    s.inMatchSecondsRemaining * kOneSecond ≤ s.inMatchSecondAccumulator + tickInterval

/-- The clock writes its own two counters; it runs out as `RunsOut` says, and leaves
time otherwise. -/
theorem runClock_spec (s : MatchLifecycleSimulation) (tickInterval : Int) (started : Bool) :
    ((s.runClock tickInterval started).1 = true ↔ s.RunsOut tickInterval ∧ started = false) ∧
      ∃ accumulator seconds, (s.runClock tickInterval started).2 =
          { s with inMatchSecondAccumulator := accumulator, inMatchSecondsRemaining := seconds } ∧
        seconds ≤ s.inMatchSecondsRemaining ∧
        (0 < s.inMatchSecondsRemaining → (s.runClock tickInterval started).1 = false →
          0 < seconds) := by
  unfold runClock
  by_cases hRuns : (s.phase = .inMatch && !started && 0 < tickInterval &&
      0 < s.inMatchSecondsRemaining) = true
  · rw [if_pos hRuns]
    simp only [Bool.and_eq_true, decide_eq_true_eq, Bool.not_eq_true'] at hRuns
    obtain ⟨⟨⟨hPhase, hStarted⟩, hInterval⟩, hSeconds⟩ := hRuns
    have hZero := drainSeconds_eq_zero (s.inMatchSecondAccumulator + tickInterval)
      s.inMatchSecondsRemaining
    refine ⟨?_, _, _, rfl, drainSeconds_le _ _, fun _ hLeft => ?_⟩
    · rw [decide_eq_true_iff, hZero]
      unfold RunsOut
      constructor
      · rintro (hNone | hEnough)
        · exact absurd hNone hSeconds.ne'
        · exact ⟨⟨hPhase, hInterval, hSeconds, hEnough⟩, hStarted⟩
      · exact fun h => Or.inr h.1.2.2.2
    · rw [decide_eq_false_iff_not] at hLeft
      exact Nat.pos_of_ne_zero hLeft
  · rw [if_neg hRuns]
    refine ⟨⟨fun h => absurd h Bool.false_ne_true, fun h => absurd ?_ hRuns⟩, _, _, rfl, le_rfl,
      fun hSeconds _ => hSeconds⟩
    obtain ⟨⟨hPhase, hInterval, hSeconds, _⟩, hStarted⟩ := h
    simp [hPhase, hStarted, hInterval, hSeconds]

/-- Up to its deaths a tick starts the match, or it only counts: its countdown, then its clock. -/
theorem openTick_cases (s : MatchLifecycleSimulation) (tick : Nat) (tickInterval : Int)
    (activePlayerIds : List Nat) (combatStates : List PlayerCombatState)
    (inventorySummaries : List InventorySummary) :
    let observed := s.observe activePlayerIds combatStates inventorySummaries
    let opened := s.openTick tick tickInterval activePlayerIds combatStates inventorySummaries
    (observed.Starts ∧ opened.2.1 = true ∧ ∃ ticks accumulator seconds, opened.2.2 =
        { ({ observed with preMatchTicksRemaining := ticks } :
            MatchLifecycleSimulation).enterInMatch tick with
          inMatchSecondAccumulator := accumulator, inMatchSecondsRemaining := seconds }) ∨
      (¬ observed.Starts ∧ ∃ ticks accumulator seconds, opened.2.2 =
        { observed with
          preMatchTicksRemaining := ticks
          inMatchSecondAccumulator := accumulator
          inMatchSecondsRemaining := seconds }) := by
  intro observed opened
  obtain ⟨-, accumulator, seconds, hTimed, -⟩ :=
    (observed.countDown tick).2.2.runClock_spec tickInterval (observed.countDown tick).2.1
  have hOpened : opened.2.2 = { (observed.countDown tick).2.2 with
      inMatchSecondAccumulator := accumulator, inMatchSecondsRemaining := seconds } := hTimed
  rcases observed.countDown_cases tick with
    ⟨hStarts, hChanged, -, ticks, hCounted⟩ | ⟨hWaits, -, ticks, hCounted⟩
  · rw [hOpened, hCounted]
    exact Or.inl ⟨hStarts, hChanged, ticks, accumulator, seconds, rfl⟩
  · rw [hOpened, hCounted]
    exact Or.inr ⟨hWaits, ticks, accumulator, seconds, rfl⟩

/-- A match in play ends when one contender is left or the time has run out. -/
theorem finishMatch_cases (s : MatchLifecycleSimulation) (tick : Nat) (timerExpired : Bool) :
    (s.phase = .inMatch ∧ (s.contenders.length = 1 ∨ timerExpired = true) ∧
        (s.finishMatch tick timerExpired).1 = true ∧
        ∃ winner, (s.finishMatch tick timerExpired).2 = s.enterPostMatch tick winner) ∨
      ((s.phase ≠ .inMatch ∨ s.contenders.length ≠ 1 ∧ timerExpired = false) ∧
        s.finishMatch tick timerExpired = (false, s)) := by
  unfold finishMatch
  by_cases hPhase : s.phase = .inMatch
  · rw [if_neg (not_not.mpr hPhase)]
    split
    · rename_i winner hOne
      rw [hOne]
      exact Or.inl ⟨hPhase, Or.inl rfl, rfl, _, rfl⟩
    · rename_i hMany
      cases timerExpired with
      | true => exact Or.inl ⟨hPhase, Or.inr rfl, rfl, _, rfl⟩
      | false =>
          refine Or.inr ⟨Or.inr ⟨fun hOne => ?_, rfl⟩, rfl⟩
          obtain ⟨winner, hWinner⟩ := List.length_eq_one_iff.mp hOne
          exact hMany winner hWinner
  · rw [if_pos hPhase]
    exact Or.inr ⟨Or.inl hPhase, rfl⟩

/-- A tick after its deaths and respawns: who respawned, and the match. -/
def playTick (s : MatchLifecycleSimulation) (tick : Nat) (tickInterval : Int)
    (activePlayerIds : List Nat) (combatStates : List PlayerCombatState)
    (deathEvents : List DeathResolution) (inventorySummaries : List InventorySummary) :
    List Nat × MatchLifecycleSimulation :=
  ((s.openTick tick tickInterval activePlayerIds combatStates
    inventorySummaries).2.2.applyDeaths tick deathEvents).applyRespawns tick

section Tick

variable (s : MatchLifecycleSimulation) (tick : Nat) (tickInterval : Int)
  (activePlayerIds : List Nat) (combatStates : List PlayerCombatState)
  (deathEvents : List DeathResolution) (inventorySummaries : List InventorySummary)

/-- A tick opens, plays and finishes the match. -/
theorem resolveTick_snd :
    (s.resolveTick tick tickInterval activePlayerIds combatStates deathEvents
        inventorySummaries).2 =
      ((s.playTick tick tickInterval activePlayerIds combatStates deathEvents
        inventorySummaries).2.finishMatch tick
          (s.openTick tick tickInterval activePlayerIds combatStates inventorySummaries).1).2 := by
  unfold resolveTick playTick
  rfl

/-- The change of a state is reported by the opening or by the finish. -/
theorem stateChanged_resolveTick :
    (s.resolveTick tick tickInterval activePlayerIds combatStates deathEvents
        inventorySummaries).1.stateChanged =
      ((s.openTick tick tickInterval activePlayerIds combatStates inventorySummaries).2.1 ||
        ((s.playTick tick tickInterval activePlayerIds combatStates deathEvents
          inventorySummaries).2.finishMatch tick
            (s.openTick tick tickInterval activePlayerIds combatStates
              inventorySummaries).1).1) := rfl

/-- The respawned players of a tick are those of its middle stage. -/
theorem respawnedPlayers_resolveTick :
    (s.resolveTick tick tickInterval activePlayerIds combatStates deathEvents
        inventorySummaries).1.respawnedPlayers =
      (s.playTick tick tickInterval activePlayerIds combatStates deathEvents
        inventorySummaries).1 := rfl

/-- The state that a tick reports is the one after it. -/
theorem state_resolveTick :
    (s.resolveTick tick tickInterval activePlayerIds combatStates deathEvents
        inventorySummaries).1.state =
      (s.resolveTick tick tickInterval activePlayerIds combatStates deathEvents
        inventorySummaries).2.state tickInterval := by
  rw [state, resolveTick]

/-- The middle stage does not touch the clock. -/
theorem sameClock_playTick :
    SameClock (s.openTick tick tickInterval activePlayerIds combatStates inventorySummaries).2.2
      (s.playTick tick tickInterval activePlayerIds combatStates deathEvents
        inventorySummaries).2 :=
  (sameClock_applyDeaths _ tick deathEvents).trans (sameClock_applyRespawns _ tick)

end Tick

@[simp] theorem phase_state (s : MatchLifecycleSimulation) (tickInterval : Int) :
    (s.state tickInterval).phase = s.phase := rfl

end MatchLifecycleSimulation

end DevyFps.Server
