import DevyFps.Server.MatchPlays

/-! Whom the match takes to be alive. A tick reads it from the combat, except for those who
wait for their respawn, and then writes its own deaths and respawns. -/

namespace DevyFps.Server.MatchLifecycleSimulation

open Foundations

/-- The life that is written in the record of a player, which starts alive. -/
def markedAlive (s : MatchLifecycleSimulation) (playerId : Nat) : Bool := (s.vitals playerId).alive

/-- To make a player known does not change whether it is marked alive. -/
theorem markedAlive_ensurePlayer (s : MatchLifecycleSimulation) (playerId id : Nat) :
    (s.ensurePlayer playerId).markedAlive id = s.markedAlive id := by
  unfold markedAlive vitals
  rw [recordOf_ensurePlayer]
  split
  · rename_i hSame
    rw [hSame]
    rfl
  · rfl

theorem markedAlive_removePlayer (s : MatchLifecycleSimulation) (playerId id : Nat) :
    (s.removePlayer playerId).markedAlive id = s.markedAlive id := by
  unfold removePlayer
  refine view_modifyPlayer PlayerRecord.alive s playerId _ ?_ id
  exact fun _ => rfl

theorem markedAlive_modifyPlayer (s : MatchLifecycleSimulation) (playerId id : Nat)
    (f : PlayerRecord → PlayerRecord) :
    ((s.ensurePlayer playerId).modifyPlayer playerId f).markedAlive id =
      if id = playerId then (f (touch (s.recordOf playerId))).alive else s.markedAlive id := by
  unfold markedAlive vitals
  rw [recordOf_modifyPlayer_ensured]
  split
  · rfl
  · rfl

theorem standing_syncCombatState (s : MatchLifecycleSimulation) (state : PlayerCombatState)
    (id : Nat) : (s.syncCombatState state).standing id = s.standing id := by
  refine (view_modifyPlayer standingOf _ state.playerId _ (fun record => ?_) id).trans
    (s.standing_ensurePlayer state.playerId id)
  split
  · rfl
  · rfl

/-- The life of a player is copied from the combat unless its respawn is pending. -/
theorem markedAlive_syncCombatState (s : MatchLifecycleSimulation) (state : PlayerCombatState)
    (id : Nat) :
    (s.syncCombatState state).markedAlive id =
      if id = state.playerId ∧ (s.standing id).pendingRespawnTick = none then state.alive
      else s.markedAlive id := by
  rw [syncCombatState, markedAlive_modifyPlayer]
  by_cases hSame : id = state.playerId
  · rw [if_pos hSame]
    have hPending : (touch (s.recordOf state.playerId)).pendingRespawnTick =
        (s.standing id).pendingRespawnTick := by
      rw [hSame]
      rfl
    rw [hPending]
    cases (s.standing id).pendingRespawnTick with
    | none => simp [hSame]
    | some pending =>
        rw [hSame]
        simp [touch, markedAlive, vitals, vitalsOf]
  · rw [if_neg hSame, if_neg (fun h => hSame h.1)]

/-- Each listed player that does not wait for a respawn is marked as the combat has it. -/
theorem markedAlive_syncCombatStates (states : List PlayerCombatState) {lives : Nat → Bool}
    (hLives : ∀ state ∈ states, state.alive = lives state.playerId) (id : Nat)
    (s : MatchLifecycleSimulation) :
    (states.foldl syncCombatState s).markedAlive id =
      if (∃ state ∈ states, state.playerId = id) ∧ (s.standing id).pendingRespawnTick = none then
        lives id
      else s.markedAlive id := by
  induction states generalizing s with
  | nil => simp
  | cons head rest ih =>
      have hRest := ih (fun state hState => hLives state (List.mem_cons_of_mem _ hState))
        (s.syncCombatState head)
      rw [List.foldl_cons, hRest, standing_syncCombatState, markedAlive_syncCombatState]
      simp only [List.mem_cons, exists_eq_or_imp]
      by_cases hPending : (s.standing id).pendingRespawnTick = none
      · by_cases hHead : head.playerId = id
        · have hAlive := hLives head List.mem_cons_self
          rw [hHead] at hAlive
          simp [hHead, hPending, hAlive]
        · simp [hHead, Ne.symm hHead, hPending]
      · simp [hPending]

/-- Only the combat states matter to the lives that a tick reads. -/
theorem markedAlive_observe (s : MatchLifecycleSimulation) (activePlayerIds : List Nat)
    {combatStates : List PlayerCombatState} (inventorySummaries : List InventorySummary)
    {lives : Nat → Bool} (hLives : ∀ state ∈ combatStates, state.alive = lives state.playerId)
    (id : Nat) :
    (s.observe activePlayerIds combatStates inventorySummaries).markedAlive id =
      if (∃ state ∈ combatStates, state.playerId = id) ∧
          (s.standing id).pendingRespawnTick = none then lives id
      else s.markedAlive id := by
  have hMark : (s.markActive activePlayerIds).markedAlive id = s.markedAlive id := by
    have hEnsured : (activePlayerIds.foldl ensurePlayer s).markedAlive id = s.markedAlive id :=
      view_foldl (fun t playerId =>
        show PlayerRecord.alive ((t.ensurePlayer playerId).recordOf id) =
            PlayerRecord.alive (t.recordOf id) from
          t.markedAlive_ensurePlayer playerId id) activePlayerIds s
    have hFlags := view_mapValues PlayerRecord.alive (activePlayerIds.foldl ensurePlayer s)
      (fun playerId record => { record with connected := activePlayerIds.contains playerId })
      (fun _ _ => rfl) id
    exact hFlags.trans hEnsured
  have hStanding : (s.markActive activePlayerIds).standing id = s.standing id :=
    s.standing_observe activePlayerIds [] [] id
  have hCoins : ∀ (t : MatchLifecycleSimulation) summary,
      (t.syncCoins summary).markedAlive id = t.markedAlive id := by
    intro t summary
    rw [← t.markedAlive_ensurePlayer summary.playerId id]
    unfold syncCoins
    refine view_modifyPlayer PlayerRecord.alive _ summary.playerId _ ?_ id
    exact fun _ => rfl
  unfold observe
  refine (view_foldl (fun t summary =>
    show PlayerRecord.alive ((t.syncCoins summary).recordOf id) =
        PlayerRecord.alive (t.recordOf id) from hCoins t summary) inventorySummaries _).trans ?_
  refine (markedAlive_syncCombatStates combatStates hLives id _).trans ?_
  rw [hMark, hStanding]

/-- The start of a match marks everybody alive. -/
theorem markedAlive_countDown (s : MatchLifecycleSimulation) (tick id : Nat) :
    (s.Starts → (s.countDown tick).2.2.markedAlive id = true) ∧
      (¬ s.Starts → (s.countDown tick).2.2.markedAlive id = s.markedAlive id) := by
  rcases s.countDown_cases tick with ⟨hStarts, _, _, ticks, hAfter⟩ | ⟨hWaits, _, ticks, hAfter⟩
  · refine ⟨fun _ => ?_, fun h => absurd hStarts h⟩
    rw [hAfter]
    unfold markedAlive vitals recordOf enterInMatch
    dsimp only
    rw [UnorderedMap.find_mapValues]
    cases s.playersById.find id with
    | none => rfl
    | some record => rfl
  · refine ⟨fun h => absurd h hWaits, fun _ => ?_⟩
    rw [hAfter]
    rfl

/-- A death marks its victim. -/
theorem markedAlive_recordDeath (s : MatchLifecycleSimulation) (tick : Nat)
    (death : DeathResolution) (id : Nat) :
    (s.recordDeath tick death).markedAlive id =
      if id = death.victimId then false else s.markedAlive id := by
  have hBuried : ((s.ensurePlayer death.victimId).modifyPlayer death.victimId
      (victimRecord s.config tick)).markedAlive id =
        if id = death.victimId then false else s.markedAlive id := by
    rw [markedAlive_modifyPlayer]
    unfold victimRecord
    dsimp only
    split
    · split
      · rfl
      · rfl
    · rfl
  unfold recordDeath
  dsimp only
  split
  · have hKill : ∀ t : MatchLifecycleSimulation,
        (t.modifyPlayer death.killerId killerRecord).markedAlive id = t.markedAlive id :=
      fun t => view_modifyPlayer PlayerRecord.alive t death.killerId killerRecord (fun _ => rfl) id
    rw [hKill, markedAlive_ensurePlayer, hBuried]
  · exact hBuried

/-- A victim that was handled before is marked already. -/
theorem markedAlive_recordDeaths (tick : Nat) (deaths : List DeathResolution)
    (s : MatchLifecycleSimulation) (handled : Finset Nat) {id : Nat}
    (hHandled : id ∈ handled → s.markedAlive id = false) :
    (s.recordDeaths tick deaths handled).markedAlive id =
      if Died deaths id then false else s.markedAlive id := by
  induction deaths generalizing s handled with
  | nil => simp [recordDeaths, Died]
  | cons death rest ih =>
      have hDied := died_cons death rest id
      unfold recordDeaths
      split
      · rename_i hOld
        rw [ih s handled hHandled]
        by_cases hVictim : death.victimId = id
        · rw [if_pos (hDied.mpr (Or.inl hVictim)), hHandled (hVictim ▸ hOld), ite_self]
        · simp [hDied, hVictim]
      · have hAfter := s.markedAlive_recordDeath tick death id
        rw [ih (s.recordDeath tick death) (insert death.victimId handled), hAfter]
        · by_cases hVictim : death.victimId = id
          · rw [if_pos hVictim.symm, if_pos (hDied.mpr (Or.inl hVictim)), ite_self]
          · rw [if_neg (Ne.symm hVictim)]
            simp [hDied, hVictim]
        · intro hMem
          rw [hAfter]
          rcases Finset.mem_insert.mp hMem with hNow | hBefore
          · rw [if_pos hNow]
          · rw [hHandled hBefore, ite_self]

/-- A respawn marks its player alive again. -/
theorem markedAlive_respawnDue (tick : Nat) {ids : List Nat} (hNodup : ids.Nodup)
    (s : MatchLifecycleSimulation) (id : Nat) :
    (s.respawnDue tick ids).2.markedAlive id =
      if id ∈ (s.respawnDue tick ids).1 then true else s.markedAlive id := by
  induction ids generalizing s with
  | nil => simp [respawnDue]
  | cons head rest ih =>
      obtain ⟨hHead, hRest⟩ := List.nodup_cons.mp hNodup
      rcases s.respawnDue_cons tick head rest with
        ⟨-, hAfter⟩ | ⟨record, hFind, -, ⟨-, hAfter⟩ | ⟨-, hAfter⟩⟩
      · rw [hAfter]
        exact ih hRest s
      · have hCleared : (s.modifyPlayer head stopWaiting).markedAlive id = s.markedAlive id :=
          view_modifyPlayer PlayerRecord.alive s head stopWaiting (fun _ => rfl) id
        rw [hAfter, ih hRest, hCleared]
      · have hRevived : (s.modifyPlayer head returned).markedAlive id =
            if id = head then true else s.markedAlive id := by
          unfold markedAlive vitals recordOf modifyPlayer
          dsimp only
          rw [UnorderedMap.find_modify]
          split
          · rw [hFind]
            rfl
          · rfl
        rw [hAfter]
        dsimp only
        rw [ih hRest, hRevived]
        by_cases hSame : id = head
        · rw [if_pos hSame, ite_self, hSame, if_pos List.mem_cons_self]
        · rw [if_neg hSame]
          simp [hSame]

/-- So after the respawns of a tick exactly they and those before are alive. -/
theorem markedAlive_applyRespawns (s : MatchLifecycleSimulation) (tick id : Nat)
    (hPhase : s.phase = .inMatch) :
    (s.applyRespawns tick).2.markedAlive id =
      if id ∈ (s.applyRespawns tick).1 then true else s.markedAlive id := by
  unfold applyRespawns
  rw [if_pos hPhase]
  exact markedAlive_respawnDue tick s.sortedPlayerIds_nodup s id

/-- After the deaths of a tick the dead are marked. -/
theorem markedAlive_applyDeaths (s : MatchLifecycleSimulation) (tick : Nat)
    (deathEvents : List DeathResolution) (id : Nat) (hPhase : s.phase = .inMatch) :
    (s.applyDeaths tick deathEvents).markedAlive id =
      if Died deathEvents id then false else s.markedAlive id := by
  have hDied : Died (sortBy deathLess deathEvents) id ↔ Died deathEvents id := by simp [Died]
  have hNobody : id ∈ (∅ : Finset Nat) → s.markedAlive id = false :=
    fun hMem => absurd hMem (Finset.notMem_empty id)
  rw [applyDeaths, if_pos hPhase, markedAlive_recordDeaths tick _ s ∅ hNobody]
  simp only [hDied]

section Tick

variable (s : MatchLifecycleSimulation) (tick : Nat) (tickInterval : Int)
  (activePlayerIds : List Nat) {combatStates : List PlayerCombatState}
  (deathEvents : List DeathResolution) (inventorySummaries : List InventorySummary)

/-- After the opening of a tick the marks are the lives of the combat, but for those who wait. -/
theorem markedAlive_openTick {lives : Nat → Bool}
    (hLives : ∀ state ∈ combatStates, state.alive = lives state.playerId) (id : Nat)
    (hPlays : (s.openTick tick tickInterval activePlayerIds combatStates
      inventorySummaries).2.2.phase = .inMatch) :
    (s.openTick tick tickInterval activePlayerIds combatStates
        inventorySummaries).2.2.markedAlive id =
      if s.phase = .preMatch then true
      else if (∃ state ∈ combatStates, state.playerId = id) ∧
          (s.standing id).pendingRespawnTick = none then lives id
      else s.markedAlive id := by
  have hClock := s.sameClock_observe activePlayerIds combatStates inventorySummaries
  have hObserve := s.markedAlive_observe activePlayerIds inventorySummaries hLives id
  obtain ⟨hStarts, hWaits⟩ := (s.observe activePlayerIds combatStates
    inventorySummaries).markedAlive_countDown tick id
  have hTimed : ∀ (t : MatchLifecycleSimulation) started,
      (t.runClock tickInterval started).2.markedAlive id = t.markedAlive id := by
    intro t started
    obtain ⟨_, accumulator, seconds, hAfter, _⟩ := t.runClock_spec tickInterval started
    rw [hAfter]
    rfl
  have hPhase := (s.phase_openTick tick tickInterval activePlayerIds combatStates
    inventorySummaries).mp hPlays
  unfold openTick
  dsimp only
  rw [hTimed]
  by_cases h : (s.observe activePlayerIds combatStates inventorySummaries).Starts
  · rw [hStarts h, if_pos (hClock.phase_eq.symm.trans h.1)]
  · have hIn : ¬ s.phase = .preMatch := by
      rw [hPhase.resolve_right h]
      exact MatchPhase.noConfusion
    rw [hWaits h, hObserve, if_neg hIn]

/-- The lives after a tick in play. -/
theorem markedAlive_resolveTick {lives : Nat → Bool}
    (hLives : ∀ state ∈ combatStates, state.alive = lives state.playerId) (id : Nat)
    (hPlays : (s.openTick tick tickInterval activePlayerIds combatStates
      inventorySummaries).2.2.phase = .inMatch) :
    (s.resolveTick tick tickInterval activePlayerIds combatStates deathEvents
        inventorySummaries).2.markedAlive id =
      if id ∈ (s.resolveTick tick tickInterval activePlayerIds combatStates deathEvents
          inventorySummaries).1.respawnedPlayers then true
      else if Died deathEvents id then false
      else if s.phase = .preMatch then true
      else if (∃ state ∈ combatStates, state.playerId = id) ∧
          (s.standing id).pendingRespawnTick = none then lives id
      else s.markedAlive id := by
  have hSame := sameClock_applyDeaths (s.openTick tick tickInterval activePlayerIds combatStates
    inventorySummaries).2.2 tick deathEvents
  have hFinish : ∀ (t : MatchLifecycleSimulation) expired,
      (t.finishMatch tick expired).2.markedAlive id = t.markedAlive id := by
    intro t expired
    rcases t.finishMatch_cases tick expired with ⟨_, _, _, winner, hAfter⟩ | ⟨_, hStays⟩
    · rw [hAfter]
      rfl
    · rw [hStays]
  rw [resolveTick_snd, hFinish, respawnedPlayers_resolveTick]
  unfold playTick
  rw [markedAlive_applyRespawns _ tick id (hSame.phase_eq.trans hPlays),
    markedAlive_applyDeaths _ tick deathEvents id hPlays,
    s.markedAlive_openTick tick tickInterval activePlayerIds inventorySummaries hLives id hPlays]

end Tick

end DevyFps.Server.MatchLifecycleSimulation
