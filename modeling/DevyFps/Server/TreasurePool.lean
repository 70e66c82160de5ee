import DevyFps.Server.InventoryLimits
import DevyFps.Server.TreasureConservation
import Mathlib.Algebra.Order.BigOperators.Group.List

/-! How much treasure there can be. Collecting and dying only move it between the world and
the inventories; only the schedule adds to it, and only while the world has room. -/

namespace DevyFps.Server

open Foundations Game

variable {F : Type} [SingleFloat F]

namespace InventoryLootSimulation

/-- How many players were ever made known. -/
def known (s : InventoryLootSimulation F) : Nat := s.playersById.size

/-- The active spawns and the held items together. -/
def pool (s : InventoryLootSimulation F) : Nat := s.activeSpawnsById.size + s.heldItems.length

/-- A step after which there is no more treasure, and nobody is forgotten. -/
structure AddsNothing (s t : InventoryLootSimulation F) : Prop where
  known : s.known ≤ t.known
  pool : t.pool ≤ s.pool

variable {s t u : InventoryLootSimulation F}

namespace AddsNothing

theorem refl (s : InventoryLootSimulation F) : AddsNothing s s := ⟨Nat.le_refl _, Nat.le_refl _⟩

/-- What adds nothing twice adds nothing. -/
theorem trans (h : AddsNothing s t) (h' : AddsNothing t u) : AddsNothing s u :=
  ⟨h.known.trans h'.known, h'.pool.trans h.pool⟩

/-- A loop adds nothing if none of its rounds does. -/
theorem foldl {α : Type} {f : InventoryLootSimulation F → α → InventoryLootSimulation F}
    (h : ∀ s a, AddsNothing s (f s a)) (l : List α) (s : InventoryLootSimulation F) :
    AddsNothing s (l.foldl f s) := by
  induction l generalizing s with
  | nil => exact refl s
  | cons head rest ih => exact (h s head).trans (ih (f s head))

/-- A step that leaves the world and all that is held. -/
theorem of_held (hKnown : s.playersById.size ≤ t.playersById.size)
    (hActive : t.activeSpawnsById = s.activeSpawnsById) (hHeld : t.heldItems.Perm s.heldItems) :
    AddsNothing s t := by
  refine ⟨hKnown, ?_⟩
  unfold InventoryLootSimulation.pool
  rw [hActive, hHeld.length_eq]

end AddsNothing

theorem addsNothing_ensurePlayer (s : InventoryLootSimulation F) (playerId : Nat) :
    AddsNothing s (s.ensurePlayer playerId) :=
  .of_held (UnorderedMap.size_le_tryEmplace _ _ _) rfl (heldItems_ensurePlayer s playerId)

/-- A write to a player that keeps its items adds nothing. -/
theorem addsNothing_modify (s : InventoryLootSimulation F) (playerId : Nat)
    (f : PlayerInventoryState F → PlayerInventoryState F)
    (hItems : ∀ player, (f player).items = player.items) :
    AddsNothing s { s with playersById := s.playersById.modify playerId f } :=
  .of_held (UnorderedMap.size_modify _ _ _).ge rfl (heldItems_modify_perm s playerId f hItems)

theorem addsNothing_set {playerId : Nat} {player player' : PlayerInventoryState F}
    (hFind : s.playersById.find playerId = some player) (hItems : player'.items = player.items) :
    AddsNothing s { s with playersById := s.playersById.set playerId player' } :=
  .of_held (UnorderedMap.size_set_of_find _ hFind).ge rfl (heldItems_set_perm hFind hItems)

/-- A removed player keeps its items, and gets none. -/
theorem addsNothing_removePlayer (s : InventoryLootSimulation F) (playerId : Nat) :
    AddsNothing s (s.removePlayer playerId) := by
  unfold removePlayer
  cases s.pickupQueueByPlayer.find playerId with
  | none => exact addsNothing_modify s playerId _ fun _ => rfl
  | some queue =>
      exact .of_held (UnorderedMap.size_modify _ _ _).ge rfl
        (heldItems_modify_perm s playerId _ fun _ => rfl)

theorem addsNothing_enqueuePickup (s : InventoryLootSimulation F)
    (command : TreasurePickupCommand) : AddsNothing s (s.enqueuePickup command).2 := by
  have hEnsured := s.addsNothing_ensurePlayer command.playerId
  unfold enqueuePickup
  dsimp only
  cases hFind : (s.ensurePlayer command.playerId).playersById.find command.playerId with
  | none => exact hEnsured
  | some state =>
      dsimp only
      split_ifs
      · exact hEnsured
      · exact hEnsured
      · exact hEnsured
      · exact hEnsured.trans (.of_held (UnorderedMap.size_set_of_find _ hFind).ge rfl
          (heldItems_set_perm (s := s.ensurePlayer command.playerId) hFind rfl))

theorem addsNothing_observePlayers (s : InventoryLootSimulation F)
    (movementStates : List (PlayerMotionState F)) (combatStates : List PlayerCombatState) :
    AddsNothing s (s.observePlayers movementStates combatStates) := by
  have hPosition : ∀ (t : InventoryLootSimulation F) state,
      AddsNothing t (t.updatePosition state) := fun t state =>
    (t.addsNothing_ensurePlayer state.playerId).trans (addsNothing_modify _ _ _ fun _ => rfl)
  have hAlive : ∀ (t : InventoryLootSimulation F) state,
      AddsNothing t (t.updateAlive state) := fun t state =>
    (t.addsNothing_ensurePlayer state.playerId).trans (addsNothing_modify _ _ _ fun _ => rfl)
  exact (AddsNothing.foldl hPosition movementStates s).trans
    (AddsNothing.foldl hAlive combatStates _)

/-- A reset empties the hands of all. -/
theorem addsNothing_reset (s : InventoryLootSimulation F) : AddsNothing s s.reset := by
  have hHeld : s.reset.heldItems = [] := by
    apply List.flatMap_eq_nil_iff.mpr
    intro player hPlayer
    obtain ⟨id, hFind⟩ := UnorderedMap.mem_values_iff.mp hPlayer
    unfold reset at hFind
    dsimp only at hFind
    rw [UnorderedMap.find_mapValues] at hFind
    obtain ⟨before, -, rfl⟩ := Option.map_eq_some_iff.mp hFind
    rfl
  refine ⟨(UnorderedMap.size_mapValues _ _).ge, ?_⟩
  unfold pool
  rw [hHeld]
  exact Nat.zero_le _

/-- Dropping items adds at most one spawn for each to the world. -/
theorem size_dropItems (s : InventoryLootSimulation F) (tick : Nat) (originX originY : F)
    (itemIndex : Nat) (items : List InventoryItem) :
    (s.dropItems tick originX originY itemIndex items).2.activeSpawnsById.size ≤
        s.activeSpawnsById.size + items.length ∧
      (s.dropItems tick originX originY itemIndex items).2.playersById = s.playersById := by
  induction items generalizing s itemIndex with
  | nil => exact ⟨Nat.le_refl _, rfl⟩
  | cons item rest ih =>
      obtain ⟨hSize, hPlayers⟩ := ih
        ((s.createDeathDropSpawn tick item.treasure originX originY itemIndex).2.place
          (s.createDeathDropSpawn tick item.treasure originX originY itemIndex).1) (itemIndex + 1)
      refine ⟨hSize.trans ?_, hPlayers⟩
      have hOne := UnorderedMap.size_set_le s.activeSpawnsById
        (s.createDeathDropSpawn tick item.treasure originX originY itemIndex).1.spawnId
        (s.createDeathDropSpawn tick item.treasure originX originY itemIndex).1
      rw [List.length_cons]
      change (s.activeSpawnsById.set _ _).size + rest.length ≤ _
      omega

/-- A death moves what the victim held into the world. -/
theorem addsNothing_dropLoot (s : InventoryLootSimulation F) (tick victimId : Nat) :
    AddsNothing s (s.dropLoot tick victimId).2.2 := by
  unfold dropLoot
  cases hFind : s.playersById.find victimId with
  | none => exact .refl s
  | some player =>
      dsimp only
      split
      · exact .refl s
      · obtain ⟨hSize, hPlayers⟩ := s.size_dropItems tick player.positionX player.positionY 0
          player.items
        generalize (s.dropItems tick player.positionX player.positionY 0 player.items).2 = dropped
          at hSize hPlayers ⊢
        have hSet : (dropped.clearItems victimId).playersById = s.playersById.set victimId
            { player with items := [], totalValue := 0, totalWeight := 0 } := by
          simp [clearItems, hPlayers, UnorderedMap.modify, hFind]
        have hBefore := (heldItems_perm_of_find hFind).length_eq
        have hAfter : (dropped.clearItems victimId).heldItems.length =
            ((s.playersById.erase victimId).values.flatMap fun other => other.items).length := by
          simp [heldItems, hSet, UnorderedMap.values_set]
        refine ⟨?_, ?_⟩
        · unfold known
          rw [hSet]
          exact (UnorderedMap.size_set_of_find _ hFind).ge
        · unfold pool
          rw [hAfter, hBefore, List.length_append]
          change dropped.activeSpawnsById.size + _ ≤ _
          omega

/-- Dropped loot was held before. -/
theorem addsNothing_dropAllLoot (tick : Nat) (deaths : List DeathResolution)
    (s : InventoryLootSimulation F) : AddsNothing s (s.dropAllLoot tick deaths).2.2 := by
  induction deaths generalizing s with
  | nil => exact .refl s
  | cons death rest ih => exact (s.addsNothing_dropLoot tick death.victimId).trans (ih _)

/-- A collected spawn leaves the world. -/
theorem addsNothing_collect {playerId spawnId : Nat} {player : PlayerInventoryState F}
    {spawn : TreasureSpawnInstance F} (hPlayer : s.playersById.find playerId = some player)
    (hSpawn : s.activeSpawnsById.find spawnId = some spawn) :
    AddsNothing s (s.collect playerId player spawnId spawn).2 := by
  refine ⟨(UnorderedMap.size_set_of_find _ hPlayer).ge, ?_⟩
  have hErased := UnorderedMap.size_erase_add_one hSpawn
  have hBefore := (heldItems_perm_of_find hPlayer).length_eq
  have hAfter : (s.collect playerId player spawnId spawn).2.heldItems.length =
      player.items.length + 1 +
        ((s.playersById.erase playerId).values.flatMap fun other => other.items).length := by
    simp [heldItems, collect, UnorderedMap.values_set]
    omega
  unfold pool
  rw [hAfter, hBefore, List.length_append]
  change (s.activeSpawnsById.erase spawnId).size + _ ≤ _
  omega

theorem addsNothing_noted {pickup : TreasurePickupCommand} {before : PlayerInventoryState F}
    (hFind : s.playersById.find pickup.playerId = some before) :
    AddsNothing s (s.noted pickup before) :=
  addsNothing_set hFind rfl

/-- Collected loot lay on the ground before. -/
theorem addsNothing_resolvePickup (s : InventoryLootSimulation F) (pickup : TreasurePickupCommand) :
    AddsNothing s (s.resolvePickup pickup).2.2 := by
  rcases s.resolvePickup_cases pickup with
    ⟨-, -, hState⟩ | ⟨before, hFind, ⟨status, -, -, hState⟩ | ⟨spawn, hJudged, -, hState⟩⟩
  · rw [hState]
    exact .refl s
  · rw [hState]
    exact addsNothing_noted hFind
  · rw [hState]
    exact (addsNothing_noted hFind).trans (addsNothing_collect (s.find_noted_self pickup before)
      (judgePickup_ok hJudged).1)

theorem addsNothing_resolvePickups (pickups : List TreasurePickupCommand)
    (s : InventoryLootSimulation F) : AddsNothing s (s.resolvePickups pickups).2.2 := by
  induction pickups generalizing s with
  | nil => exact .refl s
  | cons pickup rest ih => exact (s.addsNothing_resolvePickup pickup).trans (ih _)

/-- The schedule adds one spawn where there is room for it, or nothing. -/
theorem spawnScheduled_cases (s : InventoryLootSimulation F) (tick : Nat) :
    (s.spawnScheduled tick).1 = [] ∧ (s.spawnScheduled tick).2 = s ∨
      (s.spawnScheduled tick).1 ≠ [] ∧
        s.activeSpawnsById.size < s.config.maxActiveSpawns ∧
        (s.spawnScheduled tick).2.activeSpawnsById.size ≤ s.activeSpawnsById.size + 1 ∧
        (s.spawnScheduled tick).2.playersById = s.playersById := by
  unfold spawnScheduled
  split
  · rename_i hDue
    simp only [Bool.and_eq_true, decide_eq_true_eq] at hDue
    exact Or.inr ⟨List.cons_ne_nil _ _, hDue.2, UnorderedMap.size_set_le _ _ _, rfl⟩
  · exact Or.inl ⟨rfl, rfl⟩

/-- Nobody holds more than the limit, so all together hold no more than it for each. -/
theorem Lawful.held_le (h : s.Lawful) :
    s.heldItems.length ≤ s.config.maxItemsPerPlayer * s.known := by
  have hEach : ∀ count ∈ s.playersById.values.map fun player => player.items.length,
      count ≤ s.config.maxItemsPerPlayer := by
    intro count hCount
    obtain ⟨player, hPlayer, rfl⟩ := List.mem_map.mp hCount
    obtain ⟨id, hFind⟩ := UnorderedMap.mem_values_iff.mp hPlayer
    exact (h.players id player hFind).2.items_le
  have hSum := List.sum_le_card_nsmul _ _ hEach
  rw [List.length_map, UnorderedMap.length_values, nsmul_eq_mul, Nat.cast_id, Nat.mul_comm] at hSum
  unfold heldItems
  rw [List.length_flatMap]
  exact hSum

/-- The bound on all treasure. -/
structure Pooled (s : InventoryLootSimulation F) : Prop where
  lawful : s.Lawful
  pool_le : s.pool ≤ s.config.maxActiveSpawns + s.config.maxItemsPerPlayer * s.known

/-- A pool that nothing is added to stays within its bound. -/
theorem AddsNothing.pooled (h : AddsNothing s t) (hPooled : s.Pooled) (hLawful : t.Lawful)
    (hConfig : t.config = s.config) : t.Pooled := by
  refine ⟨hLawful, ?_⟩
  rw [hConfig]
  calc t.pool
    _ ≤ s.pool := h.pool
    _ ≤ s.config.maxActiveSpawns + s.config.maxItemsPerPlayer * s.known := hPooled.pool_le
    _ ≤ s.config.maxActiveSpawns + s.config.maxItemsPerPlayer * t.known :=
        Nat.add_le_add_left (Nat.mul_le_mul_left _ h.known) _

/-- The schedule stays within the bound: it adds to the world only while that has room, and
what is held is bounded by itself. -/
theorem Pooled.spawnScheduled (h : s.Pooled) (tick : Nat) : (s.spawnScheduled tick).2.Pooled := by
  rcases s.spawnScheduled_cases tick with ⟨-, hSame⟩ | ⟨-, hRoom, hSize, hPlayers⟩
  · rw [hSame]
    exact h
  · have hConfig := (s.leavesPickups_spawnScheduled tick).config
    have hHeld := h.lawful.held_le
    refine ⟨h.lawful.of_moves (s.moves_spawnScheduled tick), ?_⟩
    rw [hConfig]
    unfold pool known heldItems at *
    rw [hPlayers]
    omega

theorem Pooled.drainPickups (h : s.Pooled) : s.drainPickups.2.Pooled :=
  ⟨h.lawful.drainPickups, h.pool_le⟩

/-- The part of a tick before its pickups: what it observes, the scheduled spawn and the drops. -/
theorem lootedWith_eq (s : InventoryLootSimulation F) (call : LootTickCall F) :
    s.lootedWith call =
      (((s.observePlayers call.movementStates call.combatStates).spawnScheduled
        call.tick).2.dropAllLoot call.tick
          (((s.observePlayers call.movementStates call.combatStates).spawnScheduled
            call.tick).2.lootDeaths call.deaths)).2.2 := rfl

/-- Only the scheduled spawn of a tick adds to the pool, and it is skipped when the pool is full.
-/
theorem Pooled.tickWith (h : s.Pooled) (call : LootTickCall F) : (s.tickWith call).2.Pooled := by
  have hKeeps := s.keepsHoldings_observePlayers call.movementStates call.combatStates
  have hObserved := (s.addsNothing_observePlayers call.movementStates call.combatStates).pooled h
    (hKeeps.lawful h.lawful) hKeeps.config
  have hSpawned := hObserved.spawnScheduled call.tick
  have hLooted : (s.lootedWith call).Pooled := by
    rw [lootedWith_eq]
    generalize ((s.observePlayers call.movementStates call.combatStates).spawnScheduled
      call.tick).2 = spawned at hSpawned
    exact (addsNothing_dropAllLoot call.tick (spawned.lootDeaths call.deaths) spawned).pooled
      hSpawned (hSpawned.lawful.of_moves (moves_dropAllLoot _ call.tick _))
      (leavesPickups_dropAllLoot call.tick _ spawned).config
  have hDrained := hLooted.drainPickups
  rw [state_tickWith]
  exact (addsNothing_resolvePickups _ _).pooled hDrained (hDrained.lawful.of_moves (moves_resolvePickups _ _))
    (settings_of_moves (moves_resolvePickups _ _)).2

theorem Pooled.act (h : s.Pooled) (action : LootAction F) : (s.act action).Pooled := by
  have hLawful := h.lawful.of_moves (s.moves_act action)
  have hConfig := (settings_of_moves (s.moves_act action)).2
  cases action with
  | reset => exact s.addsNothing_reset.pooled h hLawful hConfig
  | ensurePlayer playerId => exact (s.addsNothing_ensurePlayer playerId).pooled h hLawful hConfig
  | removePlayer playerId => exact (s.addsNothing_removePlayer playerId).pooled h hLawful hConfig
  | enqueuePickup command => exact (s.addsNothing_enqueuePickup command).pooled h hLawful hConfig
  | resolveTick call => exact h.tickWith call

/-- Every run of operations keeps the pool within its bound. -/
theorem Pooled.history (h : s.Pooled) (actions : List (LootAction F)) :
    (s.history actions).Pooled := by
  induction actions generalizing s with
  | nil => exact h
  | cons action actions ih => exact ih (h.act action)

/-- At the start the pool is empty. -/
theorem pooled_create (definitions : List TreasureDefinition) (config : InventoryLootConfig F) :
    (create definitions config).Pooled :=
  ⟨lawful_create definitions config, Nat.zero_le _⟩

/-- Two gems in a world with room for one: the first is collected, the second takes its place,
and then the first is dropped. -/
def crowdedWorld : InventoryLootSimulation ℚ :=
  let gem : TreasureDefinition := { id := Bytes.ofString "gem", value := 5, weight := 2 }
  (create [gem] { maxActiveSpawns := 1 }).history
    [.resolveTick { tick := 90 }, .enqueuePickup { playerId := 1, pickupSeq := 1, spawnId := 1 },
      .resolveTick { tick := 91, movementStates := [nearGem] }, .resolveTick { tick := 180 },
      .resolveTick { tick := 181, deaths := [{ victimId := 1 }] }]

/-- What a tick tells of new spawns: the scheduled ones, and then the death drops. -/
theorem spawned_tickWith (s : InventoryLootSimulation F) (call : LootTickCall F) :
    let scheduled :=
      (s.observePlayers call.movementStates call.combatStates).spawnScheduled call.tick
    (s.tickWith call).1.spawned = scheduled.1 ++
      (scheduled.2.dropAllLoot call.tick (scheduled.2.lootDeaths call.deaths)).1 := by
  unfold tickWith
  exact s.spawned_resolveTick call.tick call.movementStates call.combatStates call.deaths

/-- In every run the active spawns and the items held by all known players are bounded, and the
scheduled spawn of a tick fits into the world; only death drops may crowd it. -/
theorem treasure_pool_bounded (definitions : List TreasureDefinition)
    (config : InventoryLootConfig F) (actions : List (LootAction F)) :
    let s := (create definitions config).history actions
    s.activeSpawnsById.size + s.heldItems.length ≤ (sanitizeConfig config).maxActiveSpawns +
        (sanitizeConfig config).maxItemsPerPlayer * s.playersById.size ∧
      (∀ call : LootTickCall F,
        let observed := s.observePlayers call.movementStates call.combatStates
        observed.activeSpawnsById = s.activeSpawnsById ∧
        (s.tickWith call).1.spawned = (observed.spawnScheduled call.tick).1 ++
          ((observed.spawnScheduled call.tick).2.dropAllLoot call.tick
            ((observed.spawnScheduled call.tick).2.lootDeaths call.deaths)).1 ∧
        ((observed.spawnScheduled call.tick).1 = [] →
          (observed.spawnScheduled call.tick).2 = observed) ∧
        ((observed.spawnScheduled call.tick).1 ≠ [] →
          (observed.spawnScheduled call.tick).2.activeSpawnsById.size ≤
            (sanitizeConfig config).maxActiveSpawns)) ∧
      crowdedWorld.config.maxActiveSpawns < crowdedWorld.activeSpawnsById.size := by
  intro s
  have hPooled : s.Pooled := (pooled_create definitions config).history actions
  have hConfig : s.config = sanitizeConfig config := config_history _ actions
  refine ⟨?_, fun call => ?_, by decide +kernel⟩
  · have hBound := hPooled.pool_le
    rw [hConfig] at hBound
    exact hBound
  · intro observed
    have hKeeps := s.keepsHoldings_observePlayers call.movementStates call.combatStates
    refine ⟨hKeeps.spawns, s.spawned_tickWith call, fun hNone => ?_, fun hSome => ?_⟩
    · rcases observed.spawnScheduled_cases call.tick with ⟨-, hSame⟩ | ⟨hSome, -⟩
      · exact hSame
      · exact absurd hNone hSome
    · rcases observed.spawnScheduled_cases call.tick with ⟨hNone, -⟩ | ⟨-, hRoom, hSize, -⟩
      · exact absurd hNone hSome
      · rw [hKeeps.config.trans hConfig] at hRoom
        exact hSize.trans hRoom

end InventoryLootSimulation

end DevyFps.Server
