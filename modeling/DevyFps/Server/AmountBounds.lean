import DevyFps.Server.PlayerFacts

/-! The amounts that a player is told of fit the `int` that a client reads them into: health does
with the starting health, and coins do where no bearable load overflows. -/

namespace DevyFps.Server

open Foundations Game

variable {F : Type} [SingleFloat F]

/-- No strike hits a player without health, and none leaves more than there was. -/
theorem bounds_of_strikes {vitals vitals' : Vitals} {events : List DamageResolution}
    {startingHealth : Int} (run : Run Strike vitals events vitals')
    (h : vitals.Sound startingHealth) :
    ∀ event ∈ events, vitals event.victimId ≠ none ∧ 0 ≤ event.victimHealth ∧
      event.victimHealth ≤ startingHealth := by
  have hAll := run.history (I := fun events now => Vitals.Sound now startingHealth ∧
      (∀ id, vitals id = none → now id = none) ∧
      ∀ event ∈ events, vitals event.victimId ≠ none ∧ 0 ≤ event.victimHealth ∧
        event.victimHealth ≤ startingHealth) ?_
    ⟨h, fun _ hNone => hNone, fun _ hEvent => absurd hEvent List.not_mem_nil⟩
  · exact hAll.2.2
  · rintro events now event later ⟨hSound, hNobody, hBefore⟩ hStrike
    have hHit : vitals event.victimId ≠ none ∧ 0 ≤ event.victimHealth ∧
        event.victimHealth ≤ startingHealth := by
      cases hStrike with
      | strike health hAlive hDamage hHealth hLethal =>
          have hBounds := hSound _ _ _ hAlive
          refine ⟨fun hNone => ?_, by omega, by omega⟩
          rw [hNobody _ hNone] at hAlive
          cases hAlive
    refine ⟨hStrike.sound hSound, fun id hNone => ?_, fun other hOther => ?_⟩
    · rw [hStrike.felt id, hNobody id hNone]
      exact if_neg fun hSame : event.victimId = id => hHit.1 (hSame ▸ hNone)
    · rcases List.mem_append.mp hOther with hOld | hNew
      · exact hBefore other hOld
      · rw [List.mem_singleton.mp hNew]
        exact hHit

namespace CombatSimulation

variable {s t : CombatSimulation F}

/-- No call changes the settings. -/
theorem config_call {event : CombatEvent} (hStep : CombatCall s event t) : t.config = s.config := by
  cases hStep with
  | setPlayerPosition playerId x y => exact s.config_setPlayerPosition playerId x y
  | enqueueFire fire hAccepted =>
      rcases s.enqueueFire_cases fire with ⟨hRefused, -⟩ | ⟨-, hState⟩
      · exact absurd hAccepted hRefused
      · rw [hState]
        rfl
  | refuseFire fire hRefused =>
      rcases s.enqueueFire_cases fire with ⟨-, hState⟩ | ⟨hAccepted, -⟩
      · rw [hState]
      · exact absurd hAccepted hRefused
  | resolveTick tick tickInterval => exact (s.harms_resolveTick tick tickInterval).config
  | _ => rfl

theorem config_run {trace : List CombatEvent} (run : Run CombatCall s trace t) :
    t.config = s.config :=
  run.invariant (I := fun u => u.config = s.config)
    (fun _ _ _ hBefore hStep => (config_call hStep).trans hBefore) rfl

theorem config_enqueueFire (s : CombatSimulation F) (fire : FireCommand F) :
    (s.enqueueFire fire).2.config = s.config := by
  by_cases hStatus : (s.enqueueFire fire).1 = .accepted
  · exact config_call (.enqueueFire s fire hStatus)
  · exact config_call (.refuseFire s fire hStatus)

theorem config_respawnPlayers (ids : List Nat) (s : CombatSimulation F) :
    (ids.foldl respawnPlayer s).config = s.config := by
  induction ids generalizing s with
  | nil => rfl
  | cons id rest ih => exact (ih _).trans (config_call (.respawnPlayer s id))

end CombatSimulation

namespace InventoryLootSimulation

variable {s : InventoryLootSimulation F}

/-- What is held is a bearable load, the last treasure of which was offered to the others. -/
theorem fits_held (hLawful : s.Lawful) (hSupplied : s.Supplied)
    (hBearable : Bearable s.treasureDefinitions s.config.maxItemsPerPlayer
      s.config.maxWeightPerPlayer) (playerId : Nat) :
    FitsInt (s.holdingsOf playerId).totalValue := by
  cases hFind : s.playersById.find playerId with
  | none =>
      rw [holdingsOf_of_unknown hFind]
      exact fitsInt_iff.mpr (by decide)
  | some player =>
      rw [holdingsOf_of_find hFind]
      have hFits := (hLawful.players playerId player hFind).2
      obtain ⟨carried, hFrom, hLength, hWeights, hValues⟩ :=
        exists_carried player.items (hSupplied.items playerId player hFind)
      change FitsInt player.totalValue
      rw [hFits.value_eq, ← hValues]
      have hItems := hFits.items_le
      have hWeight := hFits.weight_le
      rw [hFits.weight_eq, ← hWeights] at hWeight
      rw [← hLength] at hItems
      cases carried with
      | nil => exact fitsInt_iff.mpr (by decide)
      | cons offered rest =>
          have hOffered := hFrom offered List.mem_cons_self
          have hSum : totalWeight (offered :: rest) = totalWeight rest + offered.weight := by
            unfold totalWeight
            rw [List.map_cons, List.sum_cons, Int.add_comm]
          have hValue : totalValue (offered :: rest) = totalValue rest + offered.value := by
            unfold totalValue
            rw [List.map_cons, List.sum_cons, Int.add_comm]
          have hHeavy := (hLawful.definitions offered hOffered).2
          rw [hSum] at hWeight
          rw [hValue]
          exact (hBearable rest offered hOffered
            (fun treasure hTreasure => hFrom treasure (List.mem_cons_of_mem _ hTreasure)) hItems
            (by omega)).2 hWeight

end InventoryLootSimulation

namespace MainLoop

variable {s t : MainLoop F} {setup : ServerSetup F}

/-- A server whose starting health fits an `int`, and the worth of every load that can be borne. -/
structure Displayable (setup : ServerSetup F) : Prop where
  health : (create setup).combatSimulation.config.startingHealth ≤ 2 ^ 31 - 1
  loads : Bearable (create setup).inventoryLootSimulation.treasureDefinitions
    (create setup).inventoryLootSimulation.config.maxItemsPerPlayer
    (create setup).inventoryLootSimulation.config.maxWeightPerPlayer

theorem combatConfig_deed {deed : Deed F} (hStep : DeedStep s deed t) :
    t.combatSimulation.config = s.combatSimulation.config := by
  cases hStep with
  | idle hIdles => rw [hIdles.combatRest]
  | fire peerToken command hPhase hSeat => exact s.combatSimulation.config_enqueueFire command
  | tick frame rest hFrames =>
      obtain ⟨calls, hPositions⟩ :=
        s.combatSimulation.run_setPlayerPositions (s.movedIn frame).snapshot
      have hFought : (s.foughtIn frame).2.config = s.combatSimulation.config :=
        (s.harms_foughtIn frame).config.trans (CombatSimulation.config_run hPositions)
      rw [(s.ticked_runFrame frame rest).combatSimulation]
      exact (CombatSimulation.config_respawnPlayers _ _).trans hFought
  | _ => rfl

theorem combatConfig_run {trace : List (LoopEvent F)} (run : Run LoopStep (create setup) trace s) :
    s.combatSimulation.config = (create setup).combatSimulation.config :=
  (run_deeds run (SessionManager.tablesAgree_create setup.session)).2.invariant
    (I := fun s => s.combatSimulation.config = (create setup).combatSimulation.config)
    (fun _ _ _ hBefore hStep => (combatConfig_deed hStep).trans hBefore) rfl

/-- In every state that the loop reaches the health and the coins of a player fit. -/
theorem fits_run (hDisplayable : Displayable setup) {trace : List (LoopEvent F)}
    (run : Run LoopStep (create setup) trace s) (playerId : Nat) :
    (∀ health alive, s.combatSimulation.vitals playerId = some (health, alive) → FitsInt health) ∧
      FitsInt (s.inventoryLootSimulation.totalsFor playerId).totalValue := by
  constructor
  · intro health alive hVitals
    have hBounds := (healthy_run run).2 playerId health alive hVitals
    have hLimit := hDisplayable.health
    rw [← combatConfig_run run] at hLimit
    exact fitsInt_iff.mpr (by omega)
  · obtain ⟨actions, hActions, -⟩ := loot_run run
    have hMoves := InventoryLootSimulation.moves_history
      (.create setup.treasures setup.inventory) actions
    rw [← hActions] at hMoves
    rw [InventoryLootSimulation.totalsFor_eq]
    refine InventoryLootSimulation.fits_held (booked_run run).lawful
      ((InventoryLootSimulation.supplied_create _ _).of_moves hMoves) ?_ playerId
    rw [(InventoryLootSimulation.settings_of_moves hMoves).1,
      (InventoryLootSimulation.settings_of_moves hMoves).2]
    exact hDisplayable.loads

/-- A strike of a tick hits a seated player, and what it leaves fits. -/
theorem fits_strike (hDisplayable : Displayable setup) {trace : List (LoopEvent F)}
    (run : Run LoopStep (create setup) trace s) {record : ServerTick F}
    (hStep : LoopStep s (.ticked record) t) {event : DamageResolution}
    (hEvent : event ∈ record.combat.damageEvents) :
    s.sessionManager.Seated event.victimId ∧ FitsInt event.victimHealth := by
  have hCast := cast_run run
  obtain ⟨frame, rest, hFrames, rfl, -⟩ := ticked_of_step hStep
  rw [combat_runFrame] at hEvent
  obtain ⟨calls, hPositions⟩ :=
    s.combatSimulation.run_setPlayerPositions (s.movedIn frame).snapshot
  have hConfig := (CombatSimulation.config_run hPositions).trans (combatConfig_run run)
  have hHealthy := (healthy_run run).run hPositions
  obtain ⟨hKnown, hLow, hHigh⟩ :=
    bounds_of_strikes (s.strikes_foughtIn frame) hHealthy.2 event hEvent
  have hLimit := hDisplayable.health
  rw [← hConfig] at hLimit
  have hInputs := hCast.frames frame (hFrames ▸ List.mem_cons_self)
  refine ⟨?_, fitsInt_iff.mpr (by omega)⟩
  rw [CombatSimulation.vitals_ne_none, CombatSimulation.knows_setPlayerPositions] at hKnown
  rcases hKnown with hBefore | ⟨state, hState, hSame⟩
  · exact (hCast.fighters _).mp hBefore
  · rw [← hSame]
    exact hCast.mem_movedIn_snapshot hInputs hState

/-- An item count is a `uint32_t`. -/
theorem itemCount_totalsFor (s : InventoryLootSimulation F) (playerId : Nat) :
    (s.totalsFor playerId).itemCount < 2 ^ 32 := by
  rw [InventoryLootSimulation.totalsFor_eq]
  exact Nat.mod_lt _ (by decide)

/-- A delta of a tick is what its player holds after the tick, which fits. -/
theorem fits_delta (hDisplayable : Displayable setup) {trace : List (LoopEvent F)}
    (run : Run LoopStep (create setup) trace s) {record : ServerTick F}
    (hStep : LoopStep s (.ticked record) t) {delta : InventorySummary}
    (hDelta : delta ∈ record.inventory.inventoryDeltas) :
    FitsInt delta.totalValue ∧ delta.itemCount < 2 ^ 32 := by
  obtain ⟨-, hFits⟩ := fits_run hDisplayable (run.snoc hStep) delta.playerId
  obtain ⟨frame, rest, -, rfl, hTicked⟩ := ticked_of_step hStep
  have hTotals : t.inventoryLootSimulation.totalsFor delta.playerId = delta.totals := by
    rw [inventory_runFrame, lootedIn_eq] at hDelta
    unfold InventoryLootSimulation.totalsFor
    rw [hTicked.inventoryLootSimulation, lootedIn_eq, (booked_run run).lawful.delta_eq _ hDelta]
    rfl
  have hCount := itemCount_totalsFor t.inventoryLootSimulation delta.playerId
  rw [hTotals] at hFits hCount
  exact ⟨hFits, hCount⟩

end MainLoop

end DevyFps.Server
