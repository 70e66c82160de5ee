import DevyFps.Server.FinalRecords
import DevyFps.Server.Holdings
import DevyFps.Server.PickupAnswers

/-! What an inventory is worth: only a pickup adds to it and only a death takes it, and a match
that reads the inventories has their values as coins. -/

namespace DevyFps.Server

open Foundations CommandQueues FloatFormat

variable {F : Type} [SingleFloat F]

namespace InventoryLootSimulation

variable {s t : InventoryLootSimulation F}

/-- What the inventory of a player is worth; an unknown player holds nothing. -/
def valueHeld (s : InventoryLootSimulation F) (playerId : Nat) : Int :=
  ((s.playersById.find playerId).map PlayerInventoryState.totalValue).getD 0

theorem valueHeld_of_find {playerId : Nat} {player : PlayerInventoryState F}
    (h : s.playersById.find playerId = some player) : s.valueHeld playerId = player.totalValue := by
  unfold valueHeld
  rw [h]
  rfl

/-- Who is not known holds nothing of worth. -/
theorem valueHeld_of_unknown {playerId : Nat} (h : s.playersById.find playerId = none) :
    s.valueHeld playerId = 0 := by
  unfold valueHeld
  rw [h]
  rfl

/-- Nobody holds less than nothing. -/
theorem Lawful.valueHeld_nonneg (h : s.Lawful) (playerId : Nat) : 0 ≤ s.valueHeld playerId := by
  cases hFind : s.playersById.find playerId with
  | none => rw [valueHeld_of_unknown hFind]
  | some player =>
      have hFits := (h.players playerId player hFind).2
      rw [valueHeld_of_find hFind, hFits.value_eq]
      refine List.sum_nonneg fun value hValue => ?_
      obtain ⟨item, hItem, rfl⟩ := List.mem_map.mp hValue
      exact (hFits.worth item hItem).1

/-- What is held is worth what the holdings say. -/
theorem valueHeld_eq (s : InventoryLootSimulation F) (playerId : Nat) :
    s.valueHeld playerId = (s.holdingsOf playerId).totalValue := by
  unfold valueHeld holdingsOf
  cases s.playersById.find playerId with
  | none => rfl
  | some player => rfl

theorem valueHeld_ensurePlayer (s : InventoryLootSimulation F) (playerId id : Nat) :
    (s.ensurePlayer playerId).valueHeld id = s.valueHeld id := by
  rw [valueHeld_eq, valueHeld_eq, holdingsOf_ensurePlayer]

/-- A removed player keeps what it holds. -/
theorem valueHeld_removePlayer (s : InventoryLootSimulation F) (playerId id : Nat) :
    (s.removePlayer playerId).valueHeld id = s.valueHeld id := by
  rw [valueHeld_eq, valueHeld_eq, holdingsOf_removePlayer]

theorem valueHeld_enqueuePickup (s : InventoryLootSimulation F) (command : TreasurePickupCommand)
    (id : Nat) : (s.enqueuePickup command).2.valueHeld id = s.valueHeld id := by
  rw [valueHeld_eq, valueHeld_eq, holdingsOf_enqueuePickup]

/-- Until the pickups of a tick are drained, only the dead lose anything. -/
theorem valueHeld_looted (s : InventoryLootSimulation F) (tick : Nat)
    (movementStates : List (PlayerMotionState F)) (combatStates : List PlayerCombatState)
    (deaths : List DeathResolution) (id : Nat) :
    (s.looted tick movementStates combatStates deaths).valueHeld id = s.valueHeld id ∨
      Died deaths id ∧ (s.looted tick movementStates combatStates deaths).valueHeld id = 0 := by
  have hSpawned : ((s.observePlayers movementStates combatStates).spawnScheduled tick).2.holdingsOf
      id = s.holdingsOf id := by
    rw [holdingsOf_congr (players_spawnScheduled _ tick), holdingsOf_observePlayers]
  have hDropped := (dropAllLoot_spec tick
    (((s.observePlayers movementStates combatStates).spawnScheduled tick).2.lootDeaths deaths)
    ((s.observePlayers movementStates combatStates).spawnScheduled tick).2 id).2
  rw [hSpawned] at hDropped
  change (s.looted tick movementStates combatStates deaths).holdingsOf id = _ at hDropped
  rw [valueHeld_eq, valueHeld_eq, hDropped]
  split
  · rename_i hLost
    exact Or.inr ⟨((died_lootDeaths _ deaths id).mp hLost.1).2, rfl⟩
  · exact Or.inl rfl

/-- No pickup waits for a tick. -/
def NothingWaits (s : InventoryLootSimulation F) : Prop :=
  ∀ id queue, s.pickupQueueByPlayer.find id = some queue → queue = []

/-- Where no pickup waits none is drained. -/
theorem NothingWaits.drained (h : s.NothingWaits) : s.drainPickups.1 = [] := by
  rw [List.eq_nil_iff_forall_not_mem]
  intro pickup hPickup
  obtain ⟨id, queue, hFind, hMem⟩ := mem_drain hPickup
  rw [h id queue hFind] at hMem
  cases hMem

theorem valueHeld_drainPickups (s : InventoryLootSimulation F) (id : Nat) :
    s.drainPickups.2.valueHeld id = s.valueHeld id := rfl

/-- A tick without pickups. -/
theorem NothingWaits.valueHeld_tickWith (h : s.NothingWaits) (call : LootTickCall F) (id : Nat) :
    (s.tickWith call).2.valueHeld id = s.valueHeld id ∨
      Died call.deaths id ∧ (s.tickWith call).2.valueHeld id = 0 := by
  have hLooted : (s.lootedWith call).NothingWaits := by
    unfold NothingWaits lootedWith
    rw [(s.leavesPickups_looted call.tick call.movementStates call.combatStates call.deaths).queues]
    exact h
  rw [state_tickWith, hLooted.drained, resolvePickups]
  dsimp only
  rw [valueHeld_drainPickups, lootedWith]
  exact s.valueHeld_looted call.tick call.movementStates call.combatStates call.deaths id

/-- A tick leaves no pickup waiting and forgets nobody. -/
theorem nothingWaits_tickWith (s : InventoryLootSimulation F) (call : LootTickCall F) :
    (s.tickWith call).2.NothingWaits ∧
      ∀ id, s.playersById.find id ≠ none → (s.tickWith call).2.playersById.find id ≠ none := by
  have hLooted : LeavesPickups s (s.lootedWith call) :=
    s.leavesPickups_looted call.tick call.movementStates call.combatStates call.deaths
  have hResolved := leavesPickups_resolvePickups (s.lootedWith call).drainPickups.1
    (s.lootedWith call).drainPickups.2
  rw [state_tickWith]
  refine ⟨fun id queue hFind => ?_, fun id hKnown => hResolved.known id ?_⟩
  · rw [hResolved.queues, (drained_queues _).2] at hFind
    exact (find_drain hFind).1
  · rw [players_drainPickups]
    exact hLooted.known id hKnown

/-- The summaries of a tick name everybody once, with what the player holds. -/
theorem Lawful.mem_inventorySnapshot (h : s.Lawful) {summary : InventorySummary} :
    summary ∈ s.inventorySnapshot ↔ s.summaryFor summary.playerId = some summary := by
  unfold inventorySnapshot summaryFor
  rw [mem_sortBy, List.mem_map]
  constructor
  · rintro ⟨player, hPlayer, rfl⟩
    obtain ⟨id, hFind⟩ := UnorderedMap.mem_values_iff.mp hPlayer
    obtain rfl := (h.players id player hFind).1
    rw [show (toSummary player).playerId = player.playerId from rfl, hFind]
    rfl
  · intro hFound
    obtain ⟨player, hFind, hSummary⟩ := Option.map_eq_some_iff.mp hFound
    exact ⟨player, UnorderedMap.mem_values_iff.mpr ⟨_, hFind⟩, hSummary⟩

/-- Each player has one summary. -/
theorem Lawful.snapshot_nodup (h : s.Lawful) :
    (s.inventorySnapshot.map InventorySummary.playerId).Nodup := by
  have hKeys : s.playersById.values.map PlayerInventoryState.playerId = s.playersById.keys := by
    rw [← UnorderedMap.map_snd_items, ← UnorderedMap.map_fst_items, List.map_map]
    apply List.map_congr_left
    intro item hItem
    exact (h.players item.1 item.2 (UnorderedMap.mem_items_iff.mp hItem)).1
  unfold inventorySnapshot
  rw [((sortBy_perm _ _).map InventorySummary.playerId).nodup_iff, List.map_map]
  change (s.playersById.values.map PlayerInventoryState.playerId).Nodup
  rw [hKeys]
  exact s.playersById.keys_nodup

/-- A tick of the match that reads these inventories copies what they are worth. -/
theorem Lawful.coins_tickWith (h : s.Lawful) (m : MatchLifecycleSimulation) {call : TickCall}
    (hSummaries : call.inventorySummaries = s.inventorySnapshot) (id : Nat) :
    ((m.tickWith call).2.recordOf id).coins =
      if s.playersById.find id = none then (m.recordOf id).coins else s.valueHeld id := by
  rw [MatchLifecycleSimulation.coins_tickWith]
  unfold MatchLifecycleSimulation.observeWith MatchLifecycleSimulation.observe
  rw [hSummaries]
  cases hFind : s.playersById.find id with
  | some player =>
      have hId := (h.players id player hFind).1
      have hSummary : toSummary player ∈ s.inventorySnapshot := by
        apply h.mem_inventorySnapshot.mpr
        change (s.playersById.find player.playerId).map toSummary = some (toSummary player)
        rw [hId, hFind]
        rfl
      have hListed := MatchLifecycleSimulation.coins_of_listed h.snapshot_nodup hSummary
      rw [if_neg (Option.some_ne_none player), valueHeld_of_find hFind, ← hId]
      exact hListed _
  | none =>
      have hUnlisted : ∀ summary ∈ s.inventorySnapshot, summary.playerId ≠ id := by
        intro summary hSummary hId
        have hFound := h.mem_inventorySnapshot.mp hSummary
        unfold summaryFor at hFound
        rw [hId, hFind] at hFound
        cases hFound
      rw [if_pos rfl, MatchLifecycleSimulation.coins_of_unlisted hUnlisted,
        MatchLifecycleSimulation.coins_synced]

end InventoryLootSimulation

end DevyFps.Server
