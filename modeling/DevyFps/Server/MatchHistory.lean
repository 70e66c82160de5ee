import DevyFps.Server.ConnectedPlayers
import DevyFps.Server.MatchOpponents

/-! Histories of a match: the calls of its owner, with everything that a tick reads. -/

namespace DevyFps.Server

open Foundations

/-- The arguments of one `resolve_tick`. -/
structure TickCall where
  tick : Nat := 0
  tickInterval : Int := 0
  activePlayerIds : List Nat := []
  combatStates : List PlayerCombatState := []
  deathEvents : List DeathResolution := []
  inventorySummaries : List InventorySummary := []

/-- The calls between two resets. -/
inductive MatchAction where
  | ensurePlayer (playerId : Nat)
  | removePlayer (playerId : Nat)
  | resolveTick (call : TickCall)

namespace MatchLifecycleSimulation

def tickWith (s : MatchLifecycleSimulation) (call : TickCall) :
    MatchLifecycleTickResult × MatchLifecycleSimulation :=
  s.resolveTick call.tick call.tickInterval call.activePlayerIds call.combatStates
    call.deathEvents call.inventorySummaries

/-- The tick up to its deaths. -/
def openWith (s : MatchLifecycleSimulation) (call : TickCall) :
    Bool × Bool × MatchLifecycleSimulation :=
  s.openTick call.tick call.tickInterval call.activePlayerIds call.combatStates
    call.inventorySummaries

/-- The tick up to the check for the end of the match. -/
def playWith (s : MatchLifecycleSimulation) (call : TickCall) :
    List Nat × MatchLifecycleSimulation :=
  s.playTick call.tick call.tickInterval call.activePlayerIds call.combatStates
    call.deathEvents call.inventorySummaries

def observeWith (s : MatchLifecycleSimulation) (call : TickCall) : MatchLifecycleSimulation :=
  s.observe call.activePlayerIds call.combatStates call.inventorySummaries

def act (s : MatchLifecycleSimulation) : MatchAction → MatchLifecycleSimulation
  | .ensurePlayer playerId => s.ensurePlayer playerId
  | .removePlayer playerId => s.removePlayer playerId
  | .resolveTick call => (s.tickWith call).2

/-- The match after a list of calls. -/
def history (s : MatchLifecycleSimulation) (actions : List MatchAction) :
    MatchLifecycleSimulation :=
  actions.foldl act s

variable {s t : MatchLifecycleSimulation}

@[simp] theorem history_nil (s : MatchLifecycleSimulation) : s.history [] = s := rfl

@[simp] theorem history_snoc (s : MatchLifecycleSimulation) (actions : List MatchAction)
    (action : MatchAction) :
    s.history (actions ++ [action]) = (s.history actions).act action :=
  List.foldl_append

@[simp] theorem phase_tickWith (s : MatchLifecycleSimulation) (call : TickCall) :
    (s.tickWith call).1.state.phase = (s.tickWith call).2.phase := by
  unfold tickWith
  rw [state_resolveTick, phase_state]

/-- A tick reports the state that it leaves. -/
theorem state_tickWith (s : MatchLifecycleSimulation) (call : TickCall) :
    (s.tickWith call).1.state = (s.tickWith call).2.state call.tickInterval :=
  s.state_resolveTick call.tick call.tickInterval call.activePlayerIds call.combatStates
    call.deathEvents call.inventorySummaries

@[simp] theorem act_resolveTick (s : MatchLifecycleSimulation) (call : TickCall) :
    s.act (.resolveTick call) = (s.tickWith call).2 := rfl

/-- What a tick observes does not touch the clock. -/
theorem sameClock_observeWith (s : MatchLifecycleSimulation) (call : TickCall) :
    SameClock s (s.observeWith call) :=
  s.sameClock_observe call.activePlayerIds call.combatStates call.inventorySummaries

/-- Nor do its deaths and respawns. -/
theorem sameClock_playWith (s : MatchLifecycleSimulation) (call : TickCall) :
    SameClock (s.openWith call).2.2 (s.playWith call).2 :=
  s.sameClock_playTick call.tick call.tickInterval call.activePlayerIds call.combatStates
    call.deathEvents call.inventorySummaries

theorem config_tickWith (s : MatchLifecycleSimulation) (call : TickCall) :
    (s.tickWith call).2.config = s.config :=
  s.config_resolveTick call.tick call.tickInterval call.activePlayerIds call.combatStates
    call.deathEvents call.inventorySummaries

theorem config_act (s : MatchLifecycleSimulation) (action : MatchAction) :
    (s.act action).config = s.config := by
  cases action with
  | ensurePlayer playerId => rfl
  | removePlayer playerId => rfl
  | resolveTick call => rw [act_resolveTick, config_tickWith]

/-- No run changes the configuration. -/
theorem config_history (s : MatchLifecycleSimulation) (actions : List MatchAction) :
    (s.history actions).config = s.config := by
  induction actions generalizing s with
  | nil => rfl
  | cons action actions ih => exact (ih (s.act action)).trans (s.config_act action)

/-- A tick ends the match in play, or it goes on as it was. -/
theorem tickWith_cases (s : MatchLifecycleSimulation) (call : TickCall) :
    ((s.playWith call).2.phase = .inMatch ∧
        ((s.playWith call).2.contenders.length = 1 ∨ (s.openWith call).1 = true) ∧
        ∃ winner, (s.tickWith call).2 = (s.playWith call).2.enterPostMatch call.tick winner) ∨
      (((s.playWith call).2.phase ≠ .inMatch ∨
          (s.playWith call).2.contenders.length ≠ 1 ∧ (s.openWith call).1 = false) ∧
        (s.tickWith call).2 = (s.playWith call).2) := by
  have hAfter : (s.tickWith call).2 =
      ((s.playWith call).2.finishMatch call.tick (s.openWith call).1).2 := by
    rw [tickWith, resolveTick_snd, playWith, openWith]
  rw [hAfter]
  rcases (s.playWith call).2.finishMatch_cases call.tick (s.openWith call).1 with
    ⟨hIn, hOver, -, winner, hEnd⟩ | ⟨hGoesOn, hSame⟩
  · exact Or.inl ⟨hIn, hOver, winner, hEnd⟩
  · rw [hSame]
    exact Or.inr ⟨hGoesOn, rfl⟩

/-- Once the match has started the countdown does nothing. -/
theorem countDown_of_started {s : MatchLifecycleSimulation} (h : s.phase ≠ .preMatch)
    (tick : Nat) : s.countDown tick = (false, false, s) := by
  unfold countDown
  rw [if_pos h]

/-- Outside the countdown a tick reads the other components and runs the clock. -/
theorem openWith_of_started (h : s.phase ≠ .preMatch) (call : TickCall) :
    s.openWith call = (((s.observeWith call).runClock call.tickInterval false).1, false,
      ((s.observeWith call).runClock call.tickInterval false).2) := by
  have hPhase : (s.observeWith call).phase ≠ .preMatch := by
    rw [(s.sameClock_observeWith call).phase_eq]
    exact h
  unfold openWith openTick
  dsimp only
  rw [show s.observe call.activePlayerIds call.combatStates call.inventorySummaries =
    s.observeWith call from rfl, countDown_of_started hPhase]

/-- A match that has started does not go back to its countdown. -/
theorem phase_of_started (h : s.phase ≠ .preMatch) (call : TickCall) :
    (s.tickWith call).2.phase ≠ .preMatch := by
  have hOpen := openWith_of_started h call
  obtain ⟨-, _, _, hClock, -⟩ := (s.observeWith call).runClock_spec call.tickInterval false
  have hPlayed : (s.playWith call).2.phase = s.phase := by
    rw [(s.sameClock_playWith call).phase_eq, hOpen, hClock]
    exact (s.sameClock_observeWith call).phase_eq
  rcases s.tickWith_cases call with ⟨-, -, winner, hEnd⟩ | ⟨-, hSame⟩
  · rw [hEnd]
    exact MatchPhase.noConfusion
  · rw [hSame, hPlayed]
    exact h

/-- A match that is over stays over. -/
theorem phase_of_postMatch (h : s.phase = .postMatch) (call : TickCall) :
    (s.tickWith call).2.phase = .postMatch := by
  have hOpen : s.openWith call = _ :=
    openWith_of_started (by rw [h]; exact MatchPhase.noConfusion) call
  obtain ⟨-, _, _, hClock, -⟩ := (s.observeWith call).runClock_spec call.tickInterval false
  have hPlayed : (s.playWith call).2.phase = .postMatch := by
    rw [(s.sameClock_playWith call).phase_eq, hOpen, hClock]
    exact (s.sameClock_observeWith call).phase_eq.trans h
  rcases s.tickWith_cases call with ⟨hIn, -⟩ | ⟨-, hSame⟩
  · rw [hPlayed] at hIn
    cases hIn
  · rw [hSame]
    exact hPlayed

/-- Every reachable match holds the configuration as it was sanitized. -/
theorem Reachable.config_eq {config : MatchLifecycleConfig} (h : Reachable config s) :
    s.config = sanitizeConfig config := by
  induction h with
  | refl => rfl
  | tail prior last ih =>
      cases last with
      | ensurePlayer playerId => exact ih
      | removePlayer playerId => exact ih
      | reset => exact ih
      | resolveTick => exact (config_resolveTick ..).trans ih

end MatchLifecycleSimulation

end DevyFps.Server
