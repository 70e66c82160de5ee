import DevyFps.Server.TreasureMoves
import Mathlib.Algebra.Order.BigOperators.Group.List

/-! What a player can hold: the totals of an inventory are cached and always the sums of its
items, and the limits on items and weight hold after every call. -/

namespace DevyFps.Server

open Foundations Game

variable {F : Type} [SingleFloat F]

/-- What a list of items is worth. -/
def valueOf (items : List InventoryItem) : Int := (items.map fun item => item.treasure.value).sum

def weightOf (items : List InventoryItem) : Int := (items.map fun item => item.treasure.weight).sum

theorem valueOf_append (items later : List InventoryItem) :
    valueOf (items ++ later) = valueOf items + valueOf later := by
  simp [valueOf]

theorem weightOf_append (items later : List InventoryItem) :
    weightOf (items ++ later) = weightOf items + weightOf later := by
  simp [weightOf]

namespace InventoryLootSimulation

/-- An inventory whose totals are the sums of its items, within the limits. -/
structure Fits (config : InventoryLootConfig F) (player : PlayerInventoryState F) : Prop where
  items_le : player.items.length ≤ config.maxItemsPerPlayer
  value_eq : player.totalValue = valueOf player.items
  weight_eq : player.totalWeight = weightOf player.items
  weight_le : player.totalWeight ≤ config.maxWeightPerPlayer
  worth : ∀ item ∈ player.items, 0 ≤ item.treasure.value ∧ 0 ≤ item.treasure.weight

/-- All inventories fit, and nothing in the world has a negative value or weight. -/
structure Lawful (s : InventoryLootSimulation F) : Prop where
  players : ∀ id player, s.playersById.find id = some player →
    player.playerId = id ∧ Fits s.config player
  spawns : ∀ id spawn, s.activeSpawnsById.find id = some spawn →
    0 ≤ spawn.value ∧ 0 ≤ spawn.weight
  definitions : ∀ definition ∈ s.treasureDefinitions,
    0 ≤ definition.value ∧ 0 ≤ definition.weight
  capacity : 0 ≤ s.config.maxWeightPerPlayer

variable {s t : InventoryLootSimulation F}

/-- The limits concern the holdings only. -/
theorem Fits.of_same {config : InventoryLootConfig F} {player player' : PlayerInventoryState F}
    (h : Fits config player) (hSame : SameHoldings player player') : Fits config player' where
  items_le := by rw [hSame.items]; exact h.items_le
  value_eq := by rw [hSame.items, hSame.totalValue]; exact h.value_eq
  weight_eq := by rw [hSame.items, hSame.totalWeight]; exact h.weight_eq
  weight_le := by rw [hSame.totalWeight]; exact h.weight_le
  worth := by rw [hSame.items]; exact h.worth

/-- Empty hands are within every limit. -/
theorem Empty.fits {config : InventoryLootConfig F} {id : Nat} {player : PlayerInventoryState F}
    (h : Empty id player) (hCapacity : 0 ≤ config.maxWeightPerPlayer) : Fits config player where
  items_le := by rw [h.items]; exact Nat.zero_le _
  value_eq := by rw [h.items, h.totalValue]; rfl
  weight_eq := by rw [h.items, h.totalWeight]; rfl
  weight_le := by rw [h.totalWeight]; exact hCapacity
  worth := by rw [h.items]; exact fun item hItem => absurd hItem List.not_mem_nil

/-- What keeps the holdings keeps them lawful. -/
theorem KeepsHoldings.lawful (h : KeepsHoldings s t) (hLawful : s.Lawful) : t.Lawful where
  players id player' hFind := by
    rcases h.players id player' hFind with hEmpty | ⟨player, hPlayer, hSame⟩
    · refine ⟨hEmpty.playerId, hEmpty.fits ?_⟩
      rw [h.config]
      exact hLawful.capacity
    · obtain ⟨hId, hFits⟩ := hLawful.players id player hPlayer
      rw [h.config]
      exact ⟨hSame.playerId.trans hId, hFits.of_same hSame⟩
  spawns := by rw [h.spawns]; exact hLawful.spawns
  definitions := by rw [h.definitions]; exact hLawful.definitions
  capacity := by rw [h.config]; exact hLawful.capacity

/-- Nothing that is spawned or held has a negative worth. -/
theorem Lawful.worth (h : s.Lawful) {value weight : Int} (hSource : s.Sourced value weight) :
    0 ≤ value ∧ 0 ≤ weight := by
  rcases hSource with ⟨definition, hMem, rfl, rfl⟩ | ⟨id, player, item, hPlayer, hItem, rfl, rfl⟩
  · exact h.definitions definition hMem
  · exact (h.players id player hPlayer).2.worth item hItem

/-- A collected spawn adds its value and weight to both sides. -/
theorem Lawful.fits_collect (h : s.Lawful) {playerId spawnId : Nat}
    {player : PlayerInventoryState F} {spawn : TreasureSpawnInstance F}
    (hPlayer : s.playersById.find playerId = some player)
    (hSpawn : s.activeSpawnsById.find spawnId = some spawn)
    (hItems : player.items.length + 1 ≤ s.config.maxItemsPerPlayer)
    (hWeight : player.totalWeight + spawn.weight ≤ s.config.maxWeightPerPlayer) :
    Fits s.config (s.collect playerId player spawnId spawn).1 := by
  obtain ⟨hId, hFits⟩ := h.players playerId player hPlayer
  have hWorth := h.spawns spawnId spawn hSpawn
  refine ⟨?_, ?_, ?_, hWeight, ?_⟩
  · change (player.items ++ [_]).length ≤ _
    rw [List.length_append]
    exact hItems
  · change player.totalValue + spawn.value = valueOf (player.items ++ [_])
    rw [valueOf_append, hFits.value_eq]
    simp [valueOf]
  · change player.totalWeight + spawn.weight = weightOf (player.items ++ [_])
    rw [weightOf_append, hFits.weight_eq]
    simp [weightOf]
  · intro item hItem
    rcases List.mem_append.mp hItem with hOld | hNew
    · exact hFits.worth item hOld
    · rw [List.mem_singleton.mp hNew]
      exact hWorth

/-- Every move of treasure keeps the inventories lawful, one case for each. -/
theorem TreasureMove.lawful (h : TreasureMove s t) (hLawful : s.Lawful) : t.Lawful := by
  cases h with
  | keep h => exact h.lawful hLawful
  | place spawn hConfig hDefinitions hPlayers hSpawns hSource =>
      constructor
      · rw [hPlayers, hConfig]
        exact hLawful.players
      · intro id found hFound
        rw [hSpawns, UnorderedMap.find_set] at hFound
        split at hFound
        · injection hFound with hFound
          exact hFound ▸ hLawful.worth hSource
        · exact hLawful.spawns id found hFound
      · rw [hDefinitions]
        exact hLawful.definitions
      · rw [hConfig]
        exact hLawful.capacity
  | clear playerId =>
      refine ⟨?_, hLawful.spawns, hLawful.definitions, hLawful.capacity⟩
      intro id player hFind
      unfold InventoryLootSimulation.clearItems at hFind
      dsimp only at hFind
      rw [UnorderedMap.find_modify] at hFind
      split at hFind
      · rename_i hId
        obtain ⟨before, hBefore, hCleared⟩ := Option.map_eq_some_iff.mp hFind
        have hEmpty : Empty id player := by
          rw [← hCleared, hId]
          exact ⟨(hLawful.players playerId before hBefore).1, rfl, rfl, rfl⟩
        exact ⟨hEmpty.playerId, hEmpty.fits hLawful.capacity⟩
      · exact hLawful.players id player hFind
  | @collect playerId spawnId player spawn hPlayer hSpawn hItems hWeight =>
      refine ⟨?_, ?_, hLawful.definitions, hLawful.capacity⟩
      · intro id found hFound
        rw [find_collect] at hFound
        split at hFound
        · rename_i hSame
          injection hFound with hFound
          rw [← hFound, hSame]
          exact ⟨(hLawful.players playerId player hPlayer).1,
            hLawful.fits_collect hPlayer hSpawn hItems hWeight⟩
        · exact hLawful.players id found hFound
      · intro id found hFound
        change (s.activeSpawnsById.erase spawnId).find id = some found at hFound
        rw [UnorderedMap.find_erase] at hFound
        split at hFound
        · cases hFound
        · exact hLawful.spawns id found hFound
  | reset =>
      refine ⟨?_, ?_, hLawful.definitions, hLawful.capacity⟩
      · intro id player hFind
        unfold InventoryLootSimulation.reset at hFind
        dsimp only at hFind
        rw [UnorderedMap.find_mapValues] at hFind
        obtain ⟨before, hBefore, hReset⟩ := Option.map_eq_some_iff.mp hFind
        have hEmpty : Empty id player := by
          rw [← hReset]
          exact ⟨(hLawful.players id before hBefore).1, rfl, rfl, rfl⟩
        exact ⟨hEmpty.playerId, hEmpty.fits hLawful.capacity⟩
      · intro id spawn hFind
        simp [InventoryLootSimulation.reset] at hFind

/-- So do all moves of a run. -/
theorem Lawful.of_moves (h : s.Lawful) (hMoves : TreasureMoves s t) : t.Lawful :=
  invariant_of_moves (fun _ _ hMove => hMove.lawful) hMoves h

theorem Lawful.lootedWith (h : s.Lawful) (call : LootTickCall F) : (s.lootedWith call).Lawful :=
  h.of_moves (s.moves_lootedWith call)

theorem Lawful.drainPickups (h : s.Lawful) : s.drainPickups.2.Lawful :=
  s.keepsHoldings_drainPickups.lawful h

/-- A tick keeps the inventories lawful. -/
theorem Lawful.tickWith (h : s.Lawful) (call : LootTickCall F) : (s.tickWith call).2.Lawful :=
  h.of_moves (s.moves_tickWith call)

/-- In every run the inventories are lawful. -/
theorem Lawful.history (h : s.Lawful) (actions : List (LootAction F)) :
    (s.history actions).Lawful :=
  h.of_moves (s.moves_history actions)

/-- At the start nobody holds anything. -/
theorem lawful_create (definitions : List TreasureDefinition) (config : InventoryLootConfig F) :
    (create definitions config).Lawful where
  players id player hFind := by simp [create] at hFind
  spawns id spawn hFind := by simp [create] at hFind
  definitions definition hDefinition := by
    have hKept := (List.mem_filter.mp hDefinition).2
    simp only [Bool.not_eq_true', Bool.or_eq_false_iff, decide_eq_false_iff_not, not_lt] at hKept
    exact ⟨hKept.1.2, hKept.2⟩
  capacity := by
    change 0 ≤ if config.maxWeightPerPlayer ≤ 0 then (40 : Int) else config.maxWeightPerPlayer
    split
    · decide
    · omega

/-- What a player holds; an unknown player holds nothing. -/
def itemsOf (s : InventoryLootSimulation F) (playerId : Nat) : List InventoryItem :=
  ((s.playersById.find playerId).map PlayerInventoryState.items).getD []

/-- The amounts told about a player are those of its items. -/
structure Reports (s : InventoryLootSimulation F) (playerId : Nat) (totalValue totalWeight : Int)
    (itemCount : Nat) : Prop where
  value : totalValue = valueOf (s.itemsOf playerId)
  weight : totalWeight = weightOf (s.itemsOf playerId)
  count : itemCount = (s.itemsOf playerId).length % 2 ^ 32

/-- What is reported of a player are the sums of its items. -/
theorem Fits.reports {config : InventoryLootConfig F} {playerId : Nat}
    {player : PlayerInventoryState F} (h : Fits config player)
    (hFind : s.playersById.find playerId = some player) :
    s.Reports playerId player.totalValue player.totalWeight (itemCount player) := by
  have hItems : s.itemsOf playerId = player.items := by
    unfold itemsOf
    rw [hFind]
    rfl
  refine ⟨?_, ?_, ?_⟩
  · rw [hItems]
    exact h.value_eq
  · rw [hItems]
    exact h.weight_eq
  · rw [hItems]
    rfl

/-- Every answer tells what the player holds once the pickup is resolved. -/
theorem Lawful.reports_resolvePickup (h : s.Lawful) (pickup : TreasurePickupCommand) :
    (s.resolvePickup pickup).2.2.Reports (s.resolvePickup pickup).1.playerId
      (s.resolvePickup pickup).1.totalValue (s.resolvePickup pickup).1.totalWeight
      (s.resolvePickup pickup).1.itemCount := by
  cases hFind : s.playersById.find pickup.playerId with
  | none =>
      have hEq := resolvePickup.eq_1 s pickup
      rw [hFind] at hEq
      rw [hEq]
      have hNothing : s.itemsOf pickup.playerId = [] := by
        unfold itemsOf
        rw [hFind]
        rfl
      refine ⟨?_, ?_, ?_⟩
      · change (0 : Int) = valueOf (s.itemsOf pickup.playerId)
        rw [hNothing]
        rfl
      · change (0 : Int) = weightOf (s.itemsOf pickup.playerId)
        rw [hNothing]
        rfl
      · change 0 % 2 ^ 32 = (s.itemsOf pickup.playerId).length % 2 ^ 32
        rw [hNothing]
        rfl
  | some before =>
      have hNoted := (keepsHoldings_noted hFind).lawful h
      have hPlayer := s.find_noted_self pickup before
      have hEq := resolvePickup.eq_1 s pickup
      rw [hFind] at hEq
      dsimp only at hEq
      cases hJudged : (s.noted pickup before).judgePickup (notePickup before pickup.pickupSeq)
        pickup.spawnId with
      | error status =>
          have hFits := (hNoted.players _ _ hPlayer).2
          unfold noted notePickup at hJudged
          rw [hJudged] at hEq
          rw [hEq]
          exact hFits.reports hPlayer
      | ok spawn =>
          obtain ⟨hItems, hWeight⟩ := judgePickup_fits hJudged
          have hFits := hNoted.fits_collect hPlayer (judgePickup_ok hJudged).1 hItems hWeight
          have hRicher := find_collect (s.noted pickup before) pickup.playerId
            (notePickup before pickup.pickupSeq) pickup.spawnId spawn pickup.playerId
          rw [if_pos rfl] at hRicher
          unfold noted notePickup at hJudged
          rw [hJudged] at hEq
          rw [hEq]
          exact hFits.reports hRicher

/-- The answers to a list of pickups, each with the state once its pickup is resolved. -/
theorem resolvePickups_split (s : InventoryLootSimulation F) (before : List TreasurePickupCommand)
    (pickup : TreasurePickupCommand) (rest : List TreasurePickupCommand) :
    (s.resolvePickups (before ++ pickup :: rest)).1[before.length]? =
        some ((s.resolvePickups before).2.2.resolvePickup pickup).1 ∧
      (s.resolvePickups (before ++ [pickup])).2.2 =
        ((s.resolvePickups before).2.2.resolvePickup pickup).2.2 := by
  induction before generalizing s with
  | nil => exact ⟨rfl, rfl⟩
  | cons head before ih =>
      obtain ⟨hAnswer, hState⟩ := ih (s.resolvePickup head).2.2
      exact ⟨hAnswer, hState⟩

/-- The delta of a changed player tells what it holds after the tick. -/
theorem Lawful.reports_summaryFor (h : s.Lawful) {playerId : Nat} {delta : InventorySummary}
    (hDelta : s.summaryFor playerId = some delta) :
    s.Reports delta.playerId delta.totalValue delta.totalWeight delta.itemCount := by
  obtain ⟨player, hFind, rfl⟩ := Option.map_eq_some_iff.mp hDelta
  obtain ⟨hId, hFits⟩ := h.players playerId player hFind
  have hReports := hFits.reports hFind
  rw [← hId] at hReports
  exact hReports

/-- Each delta of a tick is a summary of the state after it. -/
theorem inventoryDeltas_resolveTick (s : InventoryLootSimulation F) (call : LootTickCall F)
    {delta : InventorySummary} (hDelta : delta ∈ (s.tickWith call).1.inventoryDeltas) :
    ∃ playerId, (s.tickWith call).2.summaryFor playerId = some delta := by
  unfold tickWith resolveTick at hDelta ⊢
  generalize (s.observePlayers call.movementStates call.combatStates).spawnAndDrop call.tick
    call.deaths = loot at hDelta ⊢
  obtain ⟨spawned, robbed, looted⟩ := loot
  obtain ⟨playerId, -, hSummary⟩ := List.mem_filterMap.mp hDelta
  exact ⟨playerId, hSummary⟩

/-- For every list of definitions, config and run: every inventory is within both limits, its
totals are the sums of its items and not negative, and so are those of every answer, once its
pickup is resolved, and of every delta at the end of its tick. -/
theorem inventory_limits (definitions : List TreasureDefinition) (config : InventoryLootConfig F)
    (actions : List (LootAction F)) :
    let s := (create definitions config).history actions
    (∀ playerId player, s.playersById.find playerId = some player →
      player.items.length ≤ (sanitizeConfig config).maxItemsPerPlayer ∧
      player.totalWeight = weightOf player.items ∧
      player.totalWeight ≤ (sanitizeConfig config).maxWeightPerPlayer ∧
      player.totalValue = valueOf player.items ∧ 0 ≤ player.totalWeight ∧ 0 ≤ player.totalValue) ∧
    ∀ call : LootTickCall F,
      (∀ before pickup rest, (s.lootedWith call).drainPickups.1 = before ++ pickup :: rest →
        ∃ result, (s.tickWith call).1.pickupResults[before.length]? = some result ∧
          result.playerId = pickup.playerId ∧
          ((s.lootedWith call).drainPickups.2.resolvePickups (before ++ [pickup])).2.2.Reports
            result.playerId result.totalValue result.totalWeight result.itemCount) ∧
      ∀ delta ∈ (s.tickWith call).1.inventoryDeltas, (s.tickWith call).2.Reports delta.playerId
        delta.totalValue delta.totalWeight delta.itemCount := by
  intro s
  have hLawful : s.Lawful := (lawful_create definitions config).history actions
  have hConfig : s.config = sanitizeConfig config := config_history _ actions
  refine ⟨fun playerId player hFind => ?_, fun call => ⟨fun before pickup rest hPickups => ?_,
    fun delta hDelta => ?_⟩⟩
  · have hFits := (hLawful.players playerId player hFind).2
    rw [hConfig] at hFits
    have hWeight : 0 ≤ weightOf player.items := List.sum_nonneg fun weight hWeight => by
      obtain ⟨item, hItem, rfl⟩ := List.mem_map.mp hWeight
      exact (hFits.worth item hItem).2
    have hValue : 0 ≤ valueOf player.items := List.sum_nonneg fun value hValue => by
      obtain ⟨item, hItem, rfl⟩ := List.mem_map.mp hValue
      exact (hFits.worth item hItem).1
    exact ⟨hFits.items_le, hFits.weight_eq, hFits.weight_le, hFits.value_eq,
      hFits.weight_eq ▸ hWeight, hFits.value_eq ▸ hValue⟩
  · have hDrained := (hLawful.lootedWith call).drainPickups
    obtain ⟨hAnswer, hState⟩ := resolvePickups_split (s.lootedWith call).drainPickups.2 before
      pickup rest
    rw [pickupResults_tickWith, hPickups, hAnswer, hState]
    exact ⟨_, rfl, (asked_resolvePickup _ pickup).1,
      (hDrained.of_moves (moves_resolvePickups _ before)).reports_resolvePickup pickup⟩
  · obtain ⟨playerId, hSummary⟩ := s.inventoryDeltas_resolveTick call hDelta
    exact (hLawful.tickWith call).reports_summaryFor hSummary

end InventoryLootSimulation

end DevyFps.Server
