import DevyFps.Foundations.Run
import DevyFps.Server.InventoryLootSimulation
import Mathlib.Algebra.Order.Group.Multiset

/-! Treasure is neither lost nor copied. A spawn is minted by the schedule, moves
into an inventory when it is collected and back under a new id when its holder
dies; what lies in the world and what is held add up to what was scheduled. -/

namespace DevyFps.Server

open Foundations Game

variable {F : Type} [SingleFloat F]

/-- What a piece of treasure is, apart from where it lies: its id, value and weight. -/
abbrev Loot := Bytes × Int × Int

def TreasureSpawnInstance.loot (spawn : TreasureSpawnInstance F) : Loot :=
  (spawn.treasureId, spawn.value, spawn.weight)

def InventoryItem.loot (item : InventoryItem) : Loot :=
  (item.treasure.id, item.treasure.value, item.treasure.weight)

namespace InventoryLootSimulation

/-- The items of all known players, disconnected ones included. -/
def heldItems (s : InventoryLootSimulation F) : List InventoryItem :=
  s.playersById.values.flatMap fun player => player.items

/-- The treasure of all active spawns and all held items. -/
def lootInPlay (s : InventoryLootSimulation F) : Multiset Loot :=
  ↑(s.activeSpawnsById.values.map TreasureSpawnInstance.loot) +
    ↑(s.heldItems.map InventoryItem.loot)

/-- The treasure that the schedule has put into the world. -/
def scheduledLoot (created : List (TreasureSpawnInstance F)) : Multiset Loot :=
  ↑((created.filter fun spawn => spawn.source == .scheduled).map TreasureSpawnInstance.loot)

/-- The books of a state after the given spawns were created. -/
structure Accounted (s : InventoryLootSimulation F) (created : List (TreasureSpawnInstance F)) :
    Prop where
  next : s.nextSpawnId = created.length + 1
  loot : s.lootInPlay = scheduledLoot created
  keyed : ∀ id spawn, s.activeSpawnsById.find id = some spawn → spawn.spawnId = id
  active_lt : ∀ id, s.activeSpawnsById.find id ≠ none → id < s.nextSpawnId
  consumed_lt : ∀ id ∈ s.consumedSpawnIds, id < s.nextSpawnId
  apart : ∀ id, s.activeSpawnsById.find id ≠ none → id ∉ s.consumedSpawnIds
  held_consumed : ∀ item ∈ s.heldItems, item.sourceSpawnId ∈ s.consumedSpawnIds
  held_distinct : (s.heldItems.map InventoryItem.sourceSpawnId).Nodup

/-- One step of a run, labelled by the spawns it creates. -/
inductive LootStep : InventoryLootSimulation F → List (TreasureSpawnInstance F) →
    InventoryLootSimulation F → Prop where
  | ensurePlayer (s) (playerId : Nat) : LootStep s [] (s.ensurePlayer playerId)
  | removePlayer (s) (playerId : Nat) : LootStep s [] (s.removePlayer playerId)
  | enqueuePickup (s) (command : TreasurePickupCommand) :
      LootStep s [] (s.enqueuePickup command).2
  | resolveTick (s) (tick : Nat) (movementStates : List (PlayerMotionState F))
      (combatStates : List PlayerCombatState) (deaths : List DeathResolution) :
      LootStep s (s.resolveTick tick movementStates combatStates deaths).1.spawned
        (s.resolveTick tick movementStates combatStates deaths).2

/-! Held items under the writes to a player record. -/

/-- Storing a player takes the items it held before out of the books and puts the
new ones in. -/
theorem heldItems_perm_of_find {s : InventoryLootSimulation F} {playerId : Nat}
    {player : PlayerInventoryState F} (h : s.playersById.find playerId = some player) :
    s.heldItems.Perm (player.items ++
      (s.playersById.erase playerId).values.flatMap fun other => other.items) :=
  (UnorderedMap.values_perm_of_find h).flatMap_right _

/-- What all players hold after the inventory of one of them is set. -/
theorem heldItems_set (s : InventoryLootSimulation F) (playerId : Nat)
    (player : PlayerInventoryState F) :
    ({ s with playersById := s.playersById.set playerId player }).heldItems = player.items ++
      (s.playersById.erase playerId).values.flatMap fun other => other.items := by
  simp [heldItems, UnorderedMap.values_set]

/-- A write that keeps the items of its player keeps what all players hold. -/
theorem heldItems_set_perm {s : InventoryLootSimulation F} {playerId : Nat}
    {old new : PlayerInventoryState F} (h : s.playersById.find playerId = some old)
    (hItems : new.items = old.items) :
    ({ s with playersById := s.playersById.set playerId new }).heldItems.Perm s.heldItems := by
  rw [heldItems_set, hItems]
  exact (heldItems_perm_of_find h).symm

/-- So does a change of a player that keeps its items. -/
theorem heldItems_modify_perm (s : InventoryLootSimulation F) (playerId : Nat)
    (f : PlayerInventoryState F → PlayerInventoryState F)
    (hItems : ∀ player, (f player).items = player.items) :
    ({ s with playersById := s.playersById.modify playerId f }).heldItems.Perm s.heldItems := by
  unfold UnorderedMap.modify
  cases h : s.playersById.find playerId with
  | none => exact List.Perm.refl _
  | some player => exact heldItems_set_perm h (hItems player)

theorem heldItems_ensurePlayer (s : InventoryLootSimulation F) (playerId : Nat) :
    (s.ensurePlayer playerId).heldItems.Perm s.heldItems := by
  unfold ensurePlayer UnorderedMap.tryEmplace
  cases h : s.playersById.find playerId with
  | some player => exact List.Perm.refl _
  | none =>
      rw [heldItems_set, UnorderedMap.erase_eq_self_of_find_none h]
      exact List.Perm.refl _

/-- A write that moves no treasure keeps the books. -/
theorem Accounted.of_perm {s s' : InventoryLootSimulation F}
    {created : List (TreasureSpawnInstance F)} (h : s.Accounted created)
    (hActive : s'.activeSpawnsById = s.activeSpawnsById)
    (hConsumed : s'.consumedSpawnIds = s.consumedSpawnIds)
    (hNext : s'.nextSpawnId = s.nextSpawnId) (hHeld : s'.heldItems.Perm s.heldItems) :
    s'.Accounted created where
  next := hNext.trans h.next
  loot := by
    rw [← h.loot, lootInPlay, lootInPlay, hActive]
    congr 1
    exact Multiset.coe_eq_coe.mpr (hHeld.map _)
  keyed := by rw [hActive]; exact h.keyed
  active_lt := by rw [hActive, hNext]; exact h.active_lt
  consumed_lt := by rw [hConsumed, hNext]; exact h.consumed_lt
  apart := by rw [hActive, hConsumed]; exact h.apart
  held_consumed item hItem := by
    rw [hConsumed]
    exact h.held_consumed item (hHeld.mem_iff.mp hItem)
  held_distinct := (hHeld.map _).nodup_iff.mpr h.held_distinct

/-- A player becomes known with empty hands. -/
theorem Accounted.ensurePlayer {s : InventoryLootSimulation F}
    {created : List (TreasureSpawnInstance F)} (h : s.Accounted created) (playerId : Nat) :
    (s.ensurePlayer playerId).Accounted created :=
  h.of_perm rfl rfl rfl (heldItems_ensurePlayer s playerId)

/-- A removed player keeps its items. -/
theorem Accounted.removePlayer {s : InventoryLootSimulation F}
    {created : List (TreasureSpawnInstance F)} (h : s.Accounted created) (playerId : Nat) :
    (s.removePlayer playerId).Accounted created := by
  unfold InventoryLootSimulation.removePlayer
  cases s.pickupQueueByPlayer.find playerId with
  | none => exact h.of_perm rfl rfl rfl (heldItems_modify_perm s playerId _ fun _ => rfl)
  | some queue => exact h.of_perm rfl rfl rfl (heldItems_modify_perm s playerId _ fun _ => rfl)

/-- A queued pickup moves nothing yet. -/
theorem Accounted.enqueuePickup {s : InventoryLootSimulation F}
    {created : List (TreasureSpawnInstance F)} (h : s.Accounted created)
    (command : TreasurePickupCommand) : (s.enqueuePickup command).2.Accounted created := by
  have hEnsured := h.ensurePlayer command.playerId
  unfold InventoryLootSimulation.enqueuePickup
  simp only
  cases hFind : (s.ensurePlayer command.playerId).playersById.find command.playerId with
  | none => exact hEnsured
  | some state =>
      simp only
      split_ifs
      · exact hEnsured
      · exact hEnsured
      · exact hEnsured
      · exact hEnsured.of_perm rfl rfl rfl
          (heldItems_set_perm (s := s.ensurePlayer command.playerId) hFind rfl)

/-- What a tick observes moves nothing either. -/
theorem Accounted.updatePosition {s : InventoryLootSimulation F}
    {created : List (TreasureSpawnInstance F)} (h : s.Accounted created)
    (state : PlayerMotionState F) : (s.updatePosition state).Accounted created :=
  (h.ensurePlayer state.playerId).of_perm rfl rfl rfl
    (heldItems_modify_perm (s.ensurePlayer state.playerId) state.playerId _ fun _ => rfl)

theorem Accounted.updateAlive {s : InventoryLootSimulation F}
    {created : List (TreasureSpawnInstance F)} (h : s.Accounted created)
    (state : PlayerCombatState) : (s.updateAlive state).Accounted created :=
  (h.ensurePlayer state.playerId).of_perm rfl rfl rfl
    (heldItems_modify_perm (s.ensurePlayer state.playerId) state.playerId _ fun _ => rfl)

/-! Minting. -/

/-- New spawns, under the next ids, and nothing else changed in the books. -/
structure Minted (s s' : InventoryLootSimulation F) (spawned : List (TreasureSpawnInstance F)) :
    Prop where
  next : s'.nextSpawnId = s.nextSpawnId + spawned.length
  players : s'.playersById = s.playersById
  consumed : s'.consumedSpawnIds = s.consumedSpawnIds
  loot : (↑(s'.activeSpawnsById.values.map TreasureSpawnInstance.loot) : Multiset Loot) =
    ↑(s.activeSpawnsById.values.map TreasureSpawnInstance.loot) +
      ↑(spawned.map TreasureSpawnInstance.loot)
  active : ∀ id, s'.activeSpawnsById.find id ≠ none →
    s.activeSpawnsById.find id ≠ none ∨ s.nextSpawnId ≤ id ∧ id < s'.nextSpawnId
  keyed : (∀ id spawn, s.activeSpawnsById.find id = some spawn → spawn.spawnId = id) →
    ∀ id spawn, s'.activeSpawnsById.find id = some spawn → spawn.spawnId = id

theorem Minted.refl (s : InventoryLootSimulation F) : Minted s s [] where
  next := rfl
  players := rfl
  consumed := rfl
  loot := by simp
  active _ h := Or.inl h
  keyed h := h

/-- Spawns that are made one after the other have ids in one line. -/
theorem Minted.trans {a b c : InventoryLootSimulation F}
    {first second : List (TreasureSpawnInstance F)} (h : Minted a b first)
    (h' : Minted b c second) : Minted a c (first ++ second) where
  next := by rw [h'.next, h.next, List.length_append, Nat.add_assoc]
  players := h'.players.trans h.players
  consumed := h'.consumed.trans h.consumed
  loot := by rw [h'.loot, h.loot, List.map_append, ← Multiset.coe_add, add_assoc]
  active id hid := by
    have hFirst := h.next
    have hSecond := h'.next
    rcases h'.active id hid with hOld | hNew
    · rcases h.active id hOld with hOlder | hNew
      · exact Or.inl hOlder
      · exact Or.inr ⟨hNew.1, by omega⟩
    · exact Or.inr ⟨by omega, hNew.2⟩
  keyed hKeyed := h'.keyed (h.keyed hKeyed)

/-- Every spawn on the ground has an id that has been given out. -/
theorem Minted.active_lt {s s' : InventoryLootSimulation F}
    {spawned : List (TreasureSpawnInstance F)} (h : Minted s s' spawned)
    (hLt : ∀ id, s.activeSpawnsById.find id ≠ none → id < s.nextSpawnId) :
    ∀ id, s'.activeSpawnsById.find id ≠ none → id < s'.nextSpawnId := by
  intro id hid
  have hNext := h.next
  rcases h.active id hid with hOld | hNew
  · have := hLt id hOld
    omega
  · exact hNew.2

/-- Placing one spawn under the next id. -/
theorem Minted.place {s counted : InventoryLootSimulation F} {spawn : TreasureSpawnInstance F}
    (hId : spawn.spawnId = s.nextSpawnId)
    (hNext : counted.nextSpawnId = (s.nextSpawnId + 1) % 2 ^ 64)
    (hPlayers : counted.playersById = s.playersById)
    (hConsumed : counted.consumedSpawnIds = s.consumedSpawnIds)
    (hActive : counted.activeSpawnsById = s.activeSpawnsById)
    (hLt : ∀ id, s.activeSpawnsById.find id ≠ none → id < s.nextSpawnId)
    (hFit : s.nextSpawnId + 1 < 2 ^ 64) : Minted s (counted.place spawn) [spawn] := by
  have hCount : counted.nextSpawnId = s.nextSpawnId + 1 := by
    rw [hNext, Nat.mod_eq_of_lt hFit]
  have hFresh : s.activeSpawnsById.find spawn.spawnId = none := by
    by_contra hTaken
    have := hLt _ hTaken
    omega
  have hPlaced : (counted.place spawn).activeSpawnsById =
      s.activeSpawnsById.set spawn.spawnId spawn := by
    rw [InventoryLootSimulation.place, hActive]
  constructor
  · exact hCount
  · exact hPlayers
  · exact hConsumed
  · rw [hPlaced, UnorderedMap.values_set_of_find_none _ hFresh, List.map_cons, List.map_singleton,
      Multiset.coe_add]
    exact Multiset.coe_eq_coe.mpr (List.perm_append_singleton _ _).symm
  · intro id hid
    rw [hPlaced, UnorderedMap.find_set] at hid
    split at hid
    · rename_i hEq
      right
      change _ ∧ id < counted.nextSpawnId
      omega
    · exact Or.inl hid
  · intro hKeyed id found hFound
    rw [hPlaced, UnorderedMap.find_set] at hFound
    split at hFound
    · rename_i hEq
      injection hFound with hFound
      rw [← hFound, hEq]
    · exact hKeyed id found hFound

/-- Each item of a victim is dropped as one spawn. -/
theorem length_dropItems (s : InventoryLootSimulation F) (tick : Nat) (originX originY : F)
    (itemIndex : Nat) (items : List InventoryItem) :
    (s.dropItems tick originX originY itemIndex items).1.length = items.length := by
  induction items generalizing s itemIndex with
  | nil => rfl
  | cons item rest ih => exact congrArg (· + 1) (ih _ (itemIndex + 1))

/-- Dropping a list of items mints one spawn for each, with the same treasure. -/
theorem minted_dropItems (s : InventoryLootSimulation F) (tick : Nat) (originX originY : F)
    (itemIndex : Nat) (items : List InventoryItem)
    (hLt : ∀ id, s.activeSpawnsById.find id ≠ none → id < s.nextSpawnId)
    (hFit : s.nextSpawnId + items.length < 2 ^ 64) :
    let dropped := s.dropItems tick originX originY itemIndex items
    Minted s dropped.2 dropped.1 ∧
      dropped.1.map TreasureSpawnInstance.loot = items.map InventoryItem.loot ∧
      ∀ spawn ∈ dropped.1, spawn.source = .deathDrop := by
  induction items generalizing s itemIndex with
  | nil => exact ⟨.refl s, rfl, by simp [dropItems]⟩
  | cons item rest ih =>
      simp only [List.length_cons] at hFit
      have hOne : Minted s ((s.createDeathDropSpawn tick item.treasure originX originY itemIndex).2.place
          (s.createDeathDropSpawn tick item.treasure originX originY itemIndex).1)
          [(s.createDeathDropSpawn tick item.treasure originX originY itemIndex).1] :=
        .place rfl rfl rfl rfl rfl hLt (by omega)
      have hNext := hOne.next
      simp only [List.length_singleton] at hNext
      obtain ⟨hMinted, hLoot, hSource⟩ := ih _ (itemIndex + 1) (hOne.active_lt hLt) (by omega)
      refine ⟨hOne.trans hMinted, ?_, ?_⟩
      · exact congrArg (item.loot :: ·) hLoot
      · intro spawn hSpawn
        rcases List.mem_cons.mp hSpawn with rfl | hLater
        · rfl
        · exact hSource spawn hLater

theorem scheduledLoot_append (created spawned : List (TreasureSpawnInstance F)) :
    scheduledLoot (created ++ spawned) = scheduledLoot created + scheduledLoot spawned := by
  simp [scheduledLoot]

/-- Drops are not counted as scheduled loot. -/
theorem scheduledLoot_of_drops {spawned : List (TreasureSpawnInstance F)}
    (h : ∀ spawn ∈ spawned, spawn.source = .deathDrop) : scheduledLoot spawned = 0 := by
  have hNone : spawned.filter (fun spawn => spawn.source == .scheduled) = [] := by
    rw [List.filter_eq_nil_iff]
    intro spawn hSpawn
    rw [h spawn hSpawn]
    decide
  simp [scheduledLoot, hNone]

/-- The scheduled spawn of a tick adds its treasure to both sides of the books. -/
theorem Accounted.spawnScheduled {s : InventoryLootSimulation F}
    {created : List (TreasureSpawnInstance F)} (h : s.Accounted created) (tick : Nat)
    (hFit : created.length + (s.spawnScheduled tick).1.length + 1 < 2 ^ 64) :
    (s.spawnScheduled tick).2.Accounted (created ++ (s.spawnScheduled tick).1) := by
  revert hFit
  unfold InventoryLootSimulation.spawnScheduled
  split
  · intro hFit
    have hNextOld := h.next
    have hFits : s.nextSpawnId + 1 < 2 ^ 64 := by
      simp only [List.length_singleton] at hFit
      omega
    have hMinted : Minted s ((s.createScheduledSpawn tick).2.place (s.createScheduledSpawn tick).1)
        [(s.createScheduledSpawn tick).1] :=
      .place rfl rfl rfl rfl rfl h.active_lt hFits
    have hNext := hMinted.next
    simp only [List.length_singleton] at hNext
    constructor
    · rw [hNext, hNextOld, List.length_append, List.length_singleton]
    · rw [lootInPlay, hMinted.loot, scheduledLoot_append, ← h.loot, lootInPlay]
      have hHeld : ((s.createScheduledSpawn tick).2.place (s.createScheduledSpawn tick).1).heldItems =
          s.heldItems := rfl
      have hSource : scheduledLoot [(s.createScheduledSpawn tick).1] =
          ↑([(s.createScheduledSpawn tick).1].map TreasureSpawnInstance.loot) := rfl
      rw [hHeld, hSource, add_right_comm]
    · exact hMinted.keyed h.keyed
    · exact hMinted.active_lt h.active_lt
    · intro id hid
      have hLt := h.consumed_lt id hid
      change id < ((s.createScheduledSpawn tick).2.place (s.createScheduledSpawn tick).1).nextSpawnId
      omega
    · intro id hid hConsumed
      rcases hMinted.active id hid with hOld | hNew
      · exact h.apart id hOld hConsumed
      · have := h.consumed_lt id hConsumed
        omega
    · exact h.held_consumed
    · exact h.held_distinct
  · intro _
    simpa using h

/-- Moving what one player holds into the world under fresh ids keeps the books. -/
theorem Accounted.moveToWorld {s dropped : InventoryLootSimulation F}
    {created spawned : List (TreasureSpawnInstance F)} (h : s.Accounted created) {victimId : Nat}
    {player : PlayerInventoryState F} (hFind : s.playersById.find victimId = some player)
    (hMinted : Minted s dropped spawned)
    (hLoot : spawned.map TreasureSpawnInstance.loot = player.items.map InventoryItem.loot)
    (hSource : ∀ spawn ∈ spawned, spawn.source = .deathDrop) :
    (dropped.clearItems victimId).Accounted (created ++ spawned) := by
  let others := (s.playersById.erase victimId).values.flatMap fun other => other.items
  have hBefore : s.heldItems.Perm (player.items ++ others) := heldItems_perm_of_find hFind
  have hAfter : (dropped.clearItems victimId).heldItems = others := by
    have hPlayers : (dropped.clearItems victimId).playersById = s.playersById.set victimId
        { player with items := [], totalValue := 0, totalWeight := 0 } := by
      simp [clearItems, hMinted.players, UnorderedMap.modify, hFind]
    simp [heldItems, hPlayers, UnorderedMap.values_set, others]
  have hKept : ∀ item ∈ (dropped.clearItems victimId).heldItems, item ∈ s.heldItems := by
    intro item hItem
    rw [hAfter] at hItem
    exact hBefore.mem_iff.mpr (List.mem_append_right _ hItem)
  have hNext : (dropped.clearItems victimId).nextSpawnId = s.nextSpawnId + spawned.length :=
    hMinted.next
  have hConsumed : (dropped.clearItems victimId).consumedSpawnIds = s.consumedSpawnIds :=
    hMinted.consumed
  constructor
  · rw [hNext, h.next, List.length_append]
    omega
  · have hWorld : (↑((dropped.clearItems victimId).activeSpawnsById.values.map
        TreasureSpawnInstance.loot) : Multiset Loot) =
        ↑(s.activeSpawnsById.values.map TreasureSpawnInstance.loot) +
          ↑(player.items.map InventoryItem.loot) := by
      rw [← hLoot]
      exact hMinted.loot
    have hHeld : (↑(s.heldItems.map InventoryItem.loot) : Multiset Loot) =
        ↑(player.items.map InventoryItem.loot) + ↑(others.map InventoryItem.loot) := by
      rw [Multiset.coe_add, ← List.map_append]
      exact Multiset.coe_eq_coe.mpr (hBefore.map _)
    rw [scheduledLoot_append, scheduledLoot_of_drops hSource, add_zero, ← h.loot, lootInPlay,
      lootInPlay, hAfter, hWorld, hHeld, add_assoc]
  · exact hMinted.keyed h.keyed
  · exact hMinted.active_lt h.active_lt
  · intro id hid
    rw [hConsumed] at hid
    have hLt := h.consumed_lt id hid
    omega
  · intro id hid hTaken
    rw [hConsumed] at hTaken
    rcases hMinted.active id hid with hOld | hNew
    · exact h.apart id hOld hTaken
    · have hLt := h.consumed_lt id hTaken
      omega
  · intro item hItem
    rw [hConsumed]
    exact h.held_consumed item (hKept item hItem)
  · rw [hAfter]
    have hAll := (hBefore.map InventoryItem.sourceSpawnId).nodup_iff.mp h.held_distinct
    rw [List.map_append] at hAll
    exact hAll.of_append_right

/-- The death of one player moves everything it held back into the world. -/
theorem Accounted.dropLoot {s : InventoryLootSimulation F}
    {created : List (TreasureSpawnInstance F)} (h : s.Accounted created) (tick victimId : Nat)
    (hFit : created.length + (s.dropLoot tick victimId).1.length + 1 < 2 ^ 64) :
    (s.dropLoot tick victimId).2.2.Accounted (created ++ (s.dropLoot tick victimId).1) := by
  revert hFit
  unfold InventoryLootSimulation.dropLoot
  cases hFind : s.playersById.find victimId with
  | none =>
      intro _
      simpa using h
  | some player =>
      simp only
      split
      · intro _
        simpa using h
      · intro hFit
        simp only [length_dropItems] at hFit
        have hNextOld := h.next
        obtain ⟨hMinted, hLoot, hSource⟩ := minted_dropItems s tick player.positionX
          player.positionY 0 player.items h.active_lt (by omega)
        exact h.moveToWorld hFind hMinted hLoot hSource

/-- Dropped loot leaves the hands of the victims and lies on the ground, by induction over the
deaths. -/
theorem Accounted.dropAllLoot (tick : Nat) (deaths : List DeathResolution)
    {s : InventoryLootSimulation F} {created : List (TreasureSpawnInstance F)}
    (h : s.Accounted created)
    (hFit : created.length + (s.dropAllLoot tick deaths).1.length + 1 < 2 ^ 64) :
    (s.dropAllLoot tick deaths).2.2.Accounted (created ++ (s.dropAllLoot tick deaths).1) := by
  induction deaths generalizing s created with
  | nil => simpa [InventoryLootSimulation.dropAllLoot] using h
  | cons death rest ih =>
      have hSplit : (s.dropAllLoot tick (death :: rest)).1 = (s.dropLoot tick death.victimId).1 ++
          ((s.dropLoot tick death.victimId).2.2.dropAllLoot tick rest).1 := rfl
      rw [hSplit, List.length_append] at hFit
      have hFirst := h.dropLoot tick death.victimId (by omega)
      have hRest := ih hFirst (by rw [List.length_append]; omega)
      rw [hSplit, ← List.append_assoc]
      exact hRest

/-! Pickups. -/

/-- A collected spawn leaves the world and enters one inventory. -/
theorem Accounted.collect {s : InventoryLootSimulation F}
    {created : List (TreasureSpawnInstance F)} (h : s.Accounted created) {playerId spawnId : Nat}
    {player : PlayerInventoryState F} {spawn : TreasureSpawnInstance F}
    (hPlayer : s.playersById.find playerId = some player)
    (hSpawn : s.activeSpawnsById.find spawnId = some spawn)
    (hFresh : spawnId ∉ s.consumedSpawnIds) :
    (s.collect playerId player spawnId spawn).2.Accounted created := by
  let others := (s.playersById.erase playerId).values.flatMap fun other => other.items
  have hId : spawn.spawnId = spawnId := h.keyed spawnId spawn hSpawn
  have hBefore : s.heldItems.Perm (player.items ++ others) := heldItems_perm_of_find hPlayer
  let taken : InventoryItem :=
    { sourceSpawnId := spawn.spawnId
      treasure := { id := spawn.treasureId, value := spawn.value, weight := spawn.weight } }
  have hAfter : (s.collect playerId player spawnId spawn).2.heldItems.Perm
      (taken :: s.heldItems) := by
    have hHeld : (s.collect playerId player spawnId spawn).2.heldItems =
        (player.items ++ [taken]) ++ others := by
      simp [heldItems, InventoryLootSimulation.collect, UnorderedMap.values_set, others, taken]
    rw [hHeld, List.append_assoc]
    exact List.perm_middle.trans (hBefore.symm.cons taken)
  have hActive : (s.collect playerId player spawnId spawn).2.activeSpawnsById =
      s.activeSpawnsById.erase spawnId := rfl
  have hConsumed : (s.collect playerId player spawnId spawn).2.consumedSpawnIds =
      insert spawnId s.consumedSpawnIds := by
    rw [← hId]
    rfl
  constructor
  · exact h.next
  · have hWorld : (↑(s.activeSpawnsById.values.map TreasureSpawnInstance.loot) : Multiset Loot) =
        taken.loot ::ₘ ↑((s.activeSpawnsById.erase spawnId).values.map
          TreasureSpawnInstance.loot) := by
      rw [Multiset.cons_coe]
      exact Multiset.coe_eq_coe.mpr ((UnorderedMap.values_perm_of_find hSpawn).map _)
    have hHeld : (↑((s.collect playerId player spawnId spawn).2.heldItems.map
        InventoryItem.loot) : Multiset Loot) =
        taken.loot ::ₘ ↑(s.heldItems.map InventoryItem.loot) := by
      rw [Multiset.cons_coe]
      exact Multiset.coe_eq_coe.mpr (hAfter.map _)
    rw [← h.loot, lootInPlay, lootInPlay, hHeld, hWorld, hActive, Multiset.cons_add,
      Multiset.add_cons]
  · intro id found hFound
    rw [hActive, UnorderedMap.find_erase] at hFound
    split at hFound
    · cases hFound
    · exact h.keyed id found hFound
  · intro id hid
    rw [hActive, UnorderedMap.find_erase] at hid
    split at hid
    · exact absurd rfl hid
    · exact h.active_lt id hid
  · intro id hid
    rw [hConsumed, Finset.mem_insert] at hid
    rcases hid with rfl | hOld
    · exact h.active_lt id (by rw [hSpawn]; exact Option.some_ne_none _)
    · exact h.consumed_lt id hOld
  · intro id hid
    rw [hActive, UnorderedMap.find_erase] at hid
    split at hid
    · exact absurd rfl hid
    · rename_i hNe
      rw [hConsumed, Finset.mem_insert, not_or]
      exact ⟨hNe, h.apart id hid⟩
  · intro item hItem
    rw [hConsumed, Finset.mem_insert]
    rcases List.mem_cons.mp (hAfter.mem_iff.mp hItem) with rfl | hOld
    · exact Or.inl hId
    · exact Or.inr (h.held_consumed item hOld)
  · refine (hAfter.map InventoryItem.sourceSpawnId).nodup_iff.mpr ?_
    rw [List.map_cons, List.nodup_cons]
    refine ⟨fun hMem => hFresh ?_, h.held_distinct⟩
    obtain ⟨item, hItem, hSource⟩ := List.mem_map.mp hMem
    have hOld := h.held_consumed item hItem
    rwa [hSource, show taken.sourceSpawnId = spawnId from hId] at hOld

/-- A pickup moves a spawn from the ground into the hands of one player, or nothing. -/
theorem Accounted.resolvePickup {s : InventoryLootSimulation F}
    {created : List (TreasureSpawnInstance F)} (h : s.Accounted created)
    (pickup : TreasurePickupCommand) : (s.resolvePickup pickup).2.2.Accounted created := by
  unfold InventoryLootSimulation.resolvePickup
  cases hFind : s.playersById.find pickup.playerId with
  | none => exact h
  | some before =>
      let player := { before with lastPickupSeq := max before.lastPickupSeq pickup.pickupSeq }
      let noted := { s with playersById := s.playersById.set pickup.playerId player }
      have hNoted : noted.Accounted created :=
        h.of_perm rfl rfl rfl (heldItems_set_perm hFind rfl)
      simp only
      cases hJudge : noted.judgePickup player pickup.spawnId with
      | error status => exact hNoted
      | ok spawn =>
          obtain ⟨hSpawn, hFresh⟩ := judgePickup_ok hJudge
          exact hNoted.collect (UnorderedMap.find_set_self _ _ _) hSpawn hFresh

/-- All pickups of a tick. -/
theorem Accounted.resolvePickups (pickups : List TreasurePickupCommand)
    {s : InventoryLootSimulation F} {created : List (TreasureSpawnInstance F)}
    (h : s.Accounted created) : (s.resolvePickups pickups).2.2.Accounted created := by
  induction pickups generalizing s with
  | nil => exact h
  | cons pickup rest ih => exact ih (h.resolvePickup pickup)

theorem Accounted.observePlayers {s : InventoryLootSimulation F}
    {created : List (TreasureSpawnInstance F)} (h : s.Accounted created)
    (movementStates : List (PlayerMotionState F)) (combatStates : List PlayerCombatState) :
    (s.observePlayers movementStates combatStates).Accounted created := by
  unfold InventoryLootSimulation.observePlayers
  have hMoved : (movementStates.foldl InventoryLootSimulation.updatePosition s).Accounted
      created := by
    induction movementStates generalizing s with
    | nil => exact h
    | cons state rest ih => exact ih (h.updatePosition state)
  generalize movementStates.foldl InventoryLootSimulation.updatePosition s = moved at hMoved ⊢
  induction combatStates generalizing moved with
  | nil => exact hMoved
  | cons state rest ih => exact ih _ (hMoved.updateAlive state)

/-- The scheduled spawn and the drops of a tick enter the books. -/
theorem Accounted.spawnAndDrop {s : InventoryLootSimulation F}
    {created : List (TreasureSpawnInstance F)} (h : s.Accounted created) (tick : Nat)
    (deaths : List DeathResolution)
    (hFit : (created ++ (s.spawnAndDrop tick deaths).1).length + 1 < 2 ^ 64) :
    (s.spawnAndDrop tick deaths).2.2.Accounted (created ++ (s.spawnAndDrop tick deaths).1) := by
  let order := (s.spawnScheduled tick).2.lootDeaths deaths
  have hSpawned : (s.spawnAndDrop tick deaths).1 =
      (s.spawnScheduled tick).1 ++ ((s.spawnScheduled tick).2.dropAllLoot tick order).1 := rfl
  rw [hSpawned, ← List.append_assoc] at hFit ⊢
  simp only [List.length_append] at hFit
  have hScheduled := h.spawnScheduled tick (by omega)
  exact hScheduled.dropAllLoot tick order (by rw [List.length_append]; omega)

theorem Accounted.resolveQueuedPickups {s : InventoryLootSimulation F}
    {created : List (TreasureSpawnInstance F)} (h : s.Accounted created) :
    s.resolveQueuedPickups.2.2.Accounted created := by
  have hDrained : s.drainPickups.2.Accounted created :=
    h.of_perm rfl rfl rfl (List.Perm.refl _)
  exact hDrained.resolvePickups s.drainPickups.1

/-- A whole tick keeps the books, with the spawns it created entered. -/
theorem Accounted.resolveTick {s : InventoryLootSimulation F}
    {created : List (TreasureSpawnInstance F)} (h : s.Accounted created) (tick : Nat)
    (movementStates : List (PlayerMotionState F)) (combatStates : List PlayerCombatState)
    (deaths : List DeathResolution)
    (hFit : (created ++ (s.resolveTick tick movementStates combatStates deaths).1.spawned).length + 1
      < 2 ^ 64) :
    (s.resolveTick tick movementStates combatStates deaths).2.Accounted
      (created ++ (s.resolveTick tick movementStates combatStates deaths).1.spawned) := by
  rw [spawned_resolveTick] at hFit
  rw [spawned_resolveTick, state_resolveTick]
  exact ((h.observePlayers movementStates combatStates).spawnAndDrop tick deaths
    hFit).resolveQueuedPickups

/-- At the start there is nothing to account for. -/
theorem accounted_create (definitions : List TreasureDefinition)
    (config : InventoryLootConfig F) : (create definitions config).Accounted [] where
  next := rfl
  loot := rfl
  keyed id spawn h := by simp [create] at h
  active_lt id h := by simp [create] at h
  consumed_lt id h := by simp [create] at h
  apart id h := by simp [create] at h
  held_consumed item h := by simp [heldItems, create] at h
  held_distinct := by simp [heldItems, create]

/-- Every operation keeps the books, with what it has spawned added to them. -/
theorem Accounted.step {s s' : InventoryLootSimulation F}
    {created spawned : List (TreasureSpawnInstance F)} (h : s.Accounted created)
    (hStep : LootStep s spawned s') (hFit : (created ++ spawned).length + 1 < 2 ^ 64) :
    s'.Accounted (created ++ spawned) := by
  cases hStep with
  | ensurePlayer playerId => simpa using h.ensurePlayer playerId
  | removePlayer playerId => simpa using h.removePlayer playerId
  | enqueuePickup command => simpa using h.enqueuePickup command
  | resolveTick tick movementStates combatStates deaths =>
      exact h.resolveTick tick movementStates combatStates deaths hFit

/-- Treasure conservation over every run from the constructor, as long as the
`uint64_t` counter of spawn ids has not wrapped. -/
theorem treasure_conserved (definitions : List TreasureDefinition)
    (config : InventoryLootConfig F) (s : InventoryLootSimulation F)
    (trace : List (List (TreasureSpawnInstance F)))
    (run : Run LootStep (create definitions config) trace s)
    (hIds : trace.flatten.length + 1 < 2 ^ 64) : s.Accounted trace.flatten := by
  refine run.history (I := fun trace s =>
    trace.flatten.length + 1 < 2 ^ 64 → s.Accounted trace.flatten) ?_ ?_ hIds
  · intro before t spawned t' ih hStep hFit
    have hSplit : (before ++ [spawned]).flatten = before.flatten ++ spawned := by simp
    rw [hSplit] at hFit ⊢
    exact (ih (by rw [List.length_append] at hFit; omega)).step hStep hFit
  · exact fun _ => accounted_create definitions config

/-! One piece of treasure on its way from the schedule into an inventory and back. -/

/-- A player next to the first scheduled spawn. -/
def nearGem : PlayerMotionState ℚ := { playerId := 1, positionX := 54, positionY := 82 }

/-- Player 1 collects the first scheduled spawn and dies with it. -/
def gemDropped : InventoryLootSimulation ℚ :=
  let gem : TreasureDefinition := { id := Bytes.ofString "gem", value := 5, weight := 2 }
  let start : InventoryLootSimulation ℚ := create [gem] {}
  let spawned := (start.resolveTick 90 [] [] []).2
  let asked := (spawned.enqueuePickup { playerId := 1, pickupSeq := 1, spawnId := 1 }).2
  let taken := (asked.resolveTick 91 [nearGem] [] []).2
  (taken.resolveTick 92 [] [] [{ victimId := 1 }]).2

/-- The dropped gem lies in the world under a new id, and its first id is consumed. -/
theorem treasure_conserved_gemDropped :
    ∃ created, gemDropped.Accounted created ∧ created.map (fun spawn => spawn.spawnId) = [1, 2] ∧
      gemDropped.heldItems = [] ∧ gemDropped.consumedSpawnIds = {1} := by
  refine ⟨_, treasure_conserved _ _ gemDropped _
    (((((Run.nil _).snoc (.resolveTick _ 90 [] [] [])).snoc
      (.enqueuePickup _ { playerId := 1, pickupSeq := 1, spawnId := 1 })).snoc
      (.resolveTick _ 91 [nearGem] [] [])).snoc
      (.resolveTick _ 92 [] [] [{ victimId := 1 }])) ?_, ?_, ?_, ?_⟩
  · decide +kernel
  · decide +kernel
  · decide +kernel
  · decide +kernel

end InventoryLootSimulation

end DevyFps.Server
