import DevyFps.Server.MatchStandings

/-! The ticks in which the match is in play. Every call on the match leaves the standings
alone, or is such a tick and takes each player through its death and its respawn. -/

namespace DevyFps.Server

open Foundations

/-- The deaths of the tick are recorded: the match was in play, or it started. -/
def TickRecord.InPlay (record : TickRecord) : Prop :=
  record.startPhase ≠ .postMatch ∧ record.result.state.phase ≠ .preMatch

instance (record : TickRecord) : Decidable record.InPlay :=
  inferInstanceAs (Decidable (_ ∧ _))

def MatchEvent.tick? : MatchEvent → Option TickRecord
  | .called => none
  | .ticked record => some record

/-- The ticks of a run, in order. -/
def ticksOf (trace : List MatchEvent) : List TickRecord := trace.filterMap MatchEvent.tick?

/-- How often the player appears among the respawned. -/
def respawns (trace : List MatchEvent) (playerId : Nat) : Nat :=
  ((ticksOf trace).map fun record => record.result.respawnedPlayers.count playerId).sum

@[simp] theorem ticksOf_append (trace trace' : List MatchEvent) :
    ticksOf (trace ++ trace') = ticksOf trace ++ ticksOf trace' :=
  List.filterMap_append

@[simp] theorem ticksOf_ticked (record : TickRecord) : ticksOf [.ticked record] = [record] := rfl

@[simp] theorem respawns_append (trace trace' : List MatchEvent) (playerId : Nat) :
    respawns (trace ++ trace') playerId = respawns trace playerId + respawns trace' playerId := by
  simp [respawns]

@[simp] theorem respawns_called (playerId : Nat) : respawns [.called] playerId = 0 := rfl

@[simp] theorem respawns_ticked (record : TickRecord) (playerId : Nat) :
    respawns [.ticked record] playerId = record.result.respawnedPlayers.count playerId :=
  Nat.add_zero _

namespace Standing

variable {config : MatchLifecycleConfig} {tick : Nat} {standing : Standing}

theorem pending_of_due (h : standing.due tick = true) :
    ∃ pending, standing.pendingRespawnTick = some pending ∧ pending ≤ tick := by
  unfold due at h
  obtain ⟨pending, hPending, hLe⟩ := (Option.any_eq_true _ _).mp h
  exact ⟨pending, hPending, of_decide_eq_true hLe⟩

variable {died : Prop} [Decidable died]

/-- A respawn that is still pending was not due. -/
theorem pending_revive {pending : Nat}
    (h : (standing.revive tick).pendingRespawnTick = some pending) :
    standing.due tick = false ∧ standing.pendingRespawnTick = some pending := by
  unfold revive at h
  by_cases hDue : standing.due tick = true
  · rw [if_pos hDue] at h
    cases h
  · rw [if_neg hDue] at h
    exact ⟨Bool.eq_false_of_not_eq_true hDue, h⟩

/-- A pending respawn is the one of this death, or it was pending before. -/
theorem pending_dieIf {pending : Nat}
    (h : (standing.dieIf died config tick).pendingRespawnTick = some pending) :
    died ∧ pending = (tick + config.respawnDelayTicks) % 2 ^ 64 ∨
      ¬ died ∧ standing.pendingRespawnTick = some pending := by
  unfold dieIf die at h
  by_cases hDied : died
  · rw [if_pos hDied] at h
    split at h
    · injection h with h
      exact Or.inl ⟨hDied, h.symm⟩
    · cases h
  · rw [if_neg hDied] at h
    exact Or.inr ⟨hDied, h⟩

end Standing

namespace MatchLifecycleSimulation

theorem respawnDue_sublist (tick : Nat) (ids : List Nat) (s : MatchLifecycleSimulation) :
    (s.respawnDue tick ids).1.Sublist ids := by
  induction ids generalizing s with
  | nil => exact .slnil
  | cons head rest ih =>
      rcases s.respawnDue_cons tick head rest with
        ⟨-, hAfter⟩ | ⟨_, -, -, ⟨-, hAfter⟩ | ⟨-, hAfter⟩⟩
      · rw [hAfter]
        exact (ih s).cons head
      · rw [hAfter]
        exact (ih _).cons head
      · rw [hAfter]
        exact (ih _).cons_cons head

/-- Nobody respawns twice in one tick. -/
theorem respawned_nodup (s : MatchLifecycleSimulation) (tick : Nat) :
    (s.applyRespawns tick).1.Nodup := by
  unfold applyRespawns
  split
  · exact (respawnDue_sublist tick _ s).nodup s.sortedPlayerIds_nodup
  · exact List.nodup_nil

/-- A call that leaves every budget alone: nobody respawns, and at most a pending respawn
is cleared. -/
structure Idles (s t : MatchLifecycleSimulation) (event : MatchEvent) : Prop where
  phase : t.phase = s.phase
  nobody : ∀ id, respawns [event] id = 0
  remaining : ∀ id, (t.standing id).respawnsRemaining = (s.standing id).respawnsRemaining
  out : ∀ id, (t.standing id).eliminated = (s.standing id).eliminated
  pending : ∀ id, (t.standing id).pendingRespawnTick = (s.standing id).pendingRespawnTick ∨
    (t.standing id).pendingRespawnTick = none

/-- The standing with which a player goes into a tick in play. -/
def entering (s : MatchLifecycleSimulation) (playerId : Nat) : Standing :=
  if s.phase = .preMatch then .fresh s.config else s.standing playerId

/-- The standing once the deaths of the tick are recorded. -/
def buried (s : MatchLifecycleSimulation) (record : TickRecord) (playerId : Nat) : Standing :=
  (s.entering playerId).dieIf (Died record.deathEvents playerId) s.config record.tick

/-- A tick in play: every player may die and then respawn. -/
structure Plays (s t : MatchLifecycleSimulation) (record : TickRecord) : Prop where
  startPhase : record.startPhase = s.phase
  inPlay : record.InPlay
  endPhase : t.phase ≠ .preMatch
  once : record.result.respawnedPlayers.Nodup
  standing : ∀ id, t.standing id = (s.buried record id).revive record.tick
  respawned : ∀ id, id ∈ record.result.respawnedPlayers ↔
    (s.buried record id).due record.tick = true ∧ (s.buried record id).eliminated = false

section Tick

variable (s : MatchLifecycleSimulation) (tick : Nat) (tickInterval : Int)
  (activePlayerIds : List Nat) (combatStates : List PlayerCombatState)
  (deathEvents : List DeathResolution) (inventorySummaries : List InventorySummary)

theorem standing_resolveTick (id : Nat) :
    (s.resolveTick tick tickInterval activePlayerIds combatStates deathEvents
        inventorySummaries).2.standing id =
      (s.playTick tick tickInterval activePlayerIds combatStates deathEvents
        inventorySummaries).2.standing id := by
  rw [resolveTick_snd, standing_finishMatch]

/-- A tick out of play. -/
theorem idles_resolveTick
    (hIdle : (s.openTick tick tickInterval activePlayerIds combatStates
      inventorySummaries).2.2.phase ≠ .inMatch)
    {record : TickRecord}
    (hResult : record.result = (s.resolveTick tick tickInterval activePlayerIds combatStates
      deathEvents inventorySummaries).1) :
    Idles s (s.resolveTick tick tickInterval activePlayerIds combatStates deathEvents
      inventorySummaries).2 (.ticked record) := by
  have hPlay := s.playTick_of_idle tick tickInterval activePlayerIds combatStates deathEvents
    inventorySummaries hIdle
  have hWaits : ¬ (s.observe activePlayerIds combatStates inventorySummaries).Starts := fun h =>
    hIdle ((s.phase_openTick tick tickInterval activePlayerIds combatStates
      inventorySummaries).mpr (Or.inr h))
  have hStanding : ∀ id, (s.resolveTick tick tickInterval activePlayerIds combatStates deathEvents
      inventorySummaries).2.standing id = s.standing id := by
    intro id
    rw [standing_resolveTick, hPlay]
    exact (s.standing_openTick tick tickInterval activePlayerIds combatStates
      inventorySummaries id).2 hWaits
  refine ⟨?_, fun id => ?_, fun id => ?_, fun id => ?_, fun id => ?_⟩
  · have hObserve := s.sameClock_observe activePlayerIds combatStates inventorySummaries
    rw [resolveTick_snd, hPlay]
    rcases finishMatch_cases _ tick (s.openTick tick tickInterval activePlayerIds combatStates
      inventorySummaries).1 with ⟨hIn, _⟩ | ⟨_, hSame⟩
    · exact absurd hIn hIdle
    · rw [hSame]
      exact phase_openTick_of_waits s tick tickInterval activePlayerIds combatStates
        inventorySummaries hWaits
  · rw [respawns_ticked, hResult, respawnedPlayers_resolveTick, hPlay]
    rfl
  · rw [hStanding]
  · rw [hStanding]
  · rw [hStanding]
    exact Or.inl rfl

/-- A tick in play. -/
theorem plays_resolveTick
    (hPlays : (s.openTick tick tickInterval activePlayerIds combatStates
      inventorySummaries).2.2.phase = .inMatch) :
    Plays s (s.resolveTick tick tickInterval activePlayerIds combatStates deathEvents
        inventorySummaries).2
      { tick := tick
        startPhase := s.phase
        deathEvents := deathEvents
        result := (s.resolveTick tick tickInterval activePlayerIds combatStates deathEvents
          inventorySummaries).1 } := by
  have hObserve := s.sameClock_observe activePlayerIds combatStates inventorySummaries
  have hPhase := (s.phase_openTick tick tickInterval activePlayerIds combatStates
    inventorySummaries).mp hPlays
  have hEntering : ∀ id, (s.openTick tick tickInterval activePlayerIds combatStates
      inventorySummaries).2.2.standing id = s.entering id := by
    intro id
    obtain ⟨hStarts, hWaits⟩ := s.standing_openTick tick tickInterval activePlayerIds combatStates
      inventorySummaries id
    unfold entering
    by_cases h : (s.observe activePlayerIds combatStates inventorySummaries).Starts
    · rw [if_pos (hObserve.phase_eq.symm.trans h.1), hStarts h]
    · rw [if_neg, hWaits h]
      rw [hPhase.resolve_right h]
      exact MatchPhase.noConfusion
  have hEnd : (s.resolveTick tick tickInterval activePlayerIds combatStates deathEvents
      inventorySummaries).2.phase ≠ .preMatch := by
    have hRecords := s.sameClock_playTick tick tickInterval activePlayerIds combatStates
      deathEvents inventorySummaries
    rw [resolveTick_snd]
    rcases finishMatch_cases (s.playTick tick tickInterval activePlayerIds combatStates
        deathEvents inventorySummaries).2 tick (s.openTick tick tickInterval activePlayerIds
          combatStates inventorySummaries).1 with ⟨_, _, _, winner, hAfter⟩ | ⟨_, hSame⟩
    · rw [hAfter]
      exact MatchPhase.noConfusion
    · rw [hSame]
      change (s.playTick tick tickInterval activePlayerIds combatStates deathEvents
        inventorySummaries).2.phase ≠ .preMatch
      rw [hRecords.phase_eq, hPlays]
      exact MatchPhase.noConfusion
  refine ⟨rfl, ⟨?_, ?_⟩, hEnd, ?_, fun id => ?_, fun id => ?_⟩
  · rcases hPhase with hIn | hStarts
    · rw [hIn]
      exact MatchPhase.noConfusion
    · rw [← hObserve.phase_eq, hStarts.1]
      exact MatchPhase.noConfusion
  · dsimp only
    rw [state_resolveTick, phase_state]
    exact hEnd
  · exact respawned_nodup _ tick
  · have hStanding := (s.standing_playTick tick tickInterval activePlayerIds combatStates
      deathEvents inventorySummaries id hPlays).1
    rw [hEntering] at hStanding
    rw [standing_resolveTick, hStanding]
    rfl
  · have hMem := (s.standing_playTick tick tickInterval activePlayerIds combatStates
      deathEvents inventorySummaries id hPlays).2
    rw [hEntering] at hMem
    exact hMem

end Tick

/-- Every call idles or plays. -/
theorem MatchCall.idles_or_plays {s t : MatchLifecycleSimulation} {event : MatchEvent}
    (call : MatchCall s event t) :
    t.config = s.config ∧ (Idles s t event ∨ ∃ record, event = .ticked record ∧ Plays s t record) := by
  cases call with
  | ensurePlayer playerId =>
      have hSame := s.standing_ensurePlayer playerId
      refine ⟨rfl, Or.inl ⟨rfl, fun _ => rfl, fun id => ?_, fun id => ?_, fun id => ?_⟩⟩
      · rw [hSame]
      · rw [hSame]
      · rw [hSame]
        exact Or.inl rfl
  | removePlayer playerId =>
      have hLeaves := s.standing_removePlayer playerId
      refine ⟨rfl, Or.inl ⟨rfl, fun _ => rfl, fun id => ?_, fun id => ?_, fun id => ?_⟩⟩
      · rw [hLeaves]
        split
        · rfl
        · rfl
      · rw [hLeaves]
        split
        · rfl
        · rfl
      · rw [hLeaves]
        split
        · exact Or.inr rfl
        · exact Or.inl rfl
  | resolveTick tick tickInterval activePlayerIds combatStates deathEvents inventorySummaries =>
      refine ⟨?_, ?_⟩
      · exact s.config_resolveTick tick tickInterval activePlayerIds combatStates deathEvents
          inventorySummaries
      · by_cases hPlays : (s.openTick tick tickInterval activePlayerIds combatStates
          inventorySummaries).2.2.phase = .inMatch
        · exact Or.inr ⟨_, rfl, s.plays_resolveTick tick tickInterval activePlayerIds combatStates
            deathEvents inventorySummaries hPlays⟩
        · exact Or.inl (s.idles_resolveTick tick tickInterval activePlayerIds combatStates
            deathEvents inventorySummaries hPlays rfl)

end MatchLifecycleSimulation

end DevyFps.Server
