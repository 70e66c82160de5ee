import DevyFps.Foundations.IntRange
import DevyFps.Server.InventoryLimits

/-! The additions of the pickup checks. They are made on `int` before the limits are known to
hold, so what keeps them in range is what the definitions and the limits allow together. -/

namespace DevyFps.Server

open Foundations Game

variable {F : Type} [SingleFloat F]

def totalValue (treasures : List TreasureDefinition) : Int :=
  (treasures.map TreasureDefinition.value).sum

def totalWeight (treasures : List TreasureDefinition) : Int :=
  (treasures.map TreasureDefinition.weight).sum

/-- Whoever carries some of the treasures within both limits, each as often as it likes, can be
offered one more: the weights fit an `int`, and so do the values if it may be taken. -/
def Bearable (definitions : List TreasureDefinition) (maxItems : Nat) (maxWeight : Int) : Prop :=
  ∀ carried : List TreasureDefinition, ∀ offered ∈ definitions,
    (∀ treasure ∈ carried, treasure ∈ definitions) → carried.length + 1 ≤ maxItems →
    totalWeight carried ≤ maxWeight →
    FitsInt (totalWeight carried + offered.weight) ∧
      (totalWeight carried + offered.weight ≤ maxWeight →
        FitsInt (totalValue carried + offered.value))

namespace InventoryLootSimulation

/-- The sums that are formed for one pickup: of the weights for the limit, and once it is
granted of the values and of the weights again. -/
def sumsFor (s : InventoryLootSimulation F) (pickup : TreasurePickupCommand) : List Int :=
  match s.playersById.find pickup.playerId with
  | none => []
  | some before =>
      let player := notePickup before pickup.pickupSeq
      match s.activeSpawnsById.find pickup.spawnId,
        (s.noted pickup before).judgePickup player pickup.spawnId with
      | some spawn, .ok _ =>
          [player.totalWeight + spawn.weight, player.totalValue + spawn.value,
            player.totalWeight + spawn.weight]
      | some spawn, .error .weightLimitExceeded => [player.totalWeight + spawn.weight]
      | _, _ => []

/-- The sums that are formed for one pickup after the other. -/
def sumsAlong (s : InventoryLootSimulation F) : List TreasurePickupCommand → List Int
  | [] => []
  | pickup :: rest => s.sumsFor pickup ++ (s.resolvePickup pickup).2.2.sumsAlong rest

/-- All sums of the checks in one tick. -/
def sumsIn (s : InventoryLootSimulation F) (call : LootTickCall F) : List Int :=
  (s.lootedWith call).drainPickups.2.sumsAlong (s.lootedWith call).drainPickups.1

/-- All treasure in the world and in the inventories comes from the definitions. -/
structure Supplied (s : InventoryLootSimulation F) : Prop where
  spawns : ∀ id spawn, s.activeSpawnsById.find id = some spawn →
    Defined s.treasureDefinitions spawn.value spawn.weight
  items : ∀ id player, s.playersById.find id = some player → ∀ item ∈ player.items,
    Defined s.treasureDefinitions item.treasure.value item.treasure.weight

variable {s t : InventoryLootSimulation F}

theorem KeepsHoldings.supplied (h : KeepsHoldings s t) (hSupplied : s.Supplied) : t.Supplied where
  spawns := by
    rw [h.spawns, h.definitions]
    exact hSupplied.spawns
  items id player hFind item hItem := by
    rw [h.definitions]
    rcases h.players id player hFind with hEmpty | ⟨before, hBefore, hSame⟩
    · rw [hEmpty.items] at hItem
      exact absurd hItem List.not_mem_nil
    · rw [hSame.items] at hItem
      exact hSupplied.items id before hBefore item hItem

theorem Supplied.sourced (h : s.Supplied) {value weight : Int} (hSource : s.Sourced value weight) :
    Defined s.treasureDefinitions value weight := by
  rcases hSource with hDefined | ⟨id, player, item, hPlayer, hItem, rfl, rfl⟩
  · exact hDefined
  · exact h.items id player hPlayer item hItem

theorem TreasureMove.supplied (h : TreasureMove s t) (hSupplied : s.Supplied) : t.Supplied := by
  cases h with
  | keep h => exact h.supplied hSupplied
  | place spawn _ hDefinitions hPlayers hSpawns hSource =>
      constructor
      · intro id found hFound
        rw [hDefinitions]
        rw [hSpawns, UnorderedMap.find_set] at hFound
        split at hFound
        · injection hFound with hFound
          exact hFound ▸ hSupplied.sourced hSource
        · exact hSupplied.spawns id found hFound
      · rw [hPlayers, hDefinitions]
        exact hSupplied.items
  | clear playerId =>
      refine ⟨hSupplied.spawns, ?_⟩
      intro id player hFind item hItem
      unfold InventoryLootSimulation.clearItems at hFind
      dsimp only at hFind
      rw [UnorderedMap.find_modify] at hFind
      split at hFind
      · obtain ⟨before, -, rfl⟩ := Option.map_eq_some_iff.mp hFind
        exact absurd hItem List.not_mem_nil
      · exact hSupplied.items id player hFind item hItem
  | @collect playerId spawnId player spawn hPlayer hSpawn =>
      constructor
      · intro id found hFound
        change (s.activeSpawnsById.erase spawnId).find id = some found at hFound
        rw [UnorderedMap.find_erase] at hFound
        split at hFound
        · cases hFound
        · exact hSupplied.spawns id found hFound
      · intro id found hFound item hItem
        rw [find_collect] at hFound
        split at hFound
        · injection hFound with hFound
          rw [← hFound] at hItem
          rcases List.mem_append.mp hItem with hOld | hNew
          · exact hSupplied.items playerId player hPlayer item hOld
          · rw [List.mem_singleton.mp hNew]
            exact hSupplied.spawns spawnId spawn hSpawn
        · exact hSupplied.items id found hFound item hItem
  | reset =>
      constructor
      · intro id spawn hFind
        simp [InventoryLootSimulation.reset] at hFind
      · intro id player hFind item hItem
        unfold InventoryLootSimulation.reset at hFind
        dsimp only at hFind
        rw [UnorderedMap.find_mapValues] at hFind
        obtain ⟨before, -, rfl⟩ := Option.map_eq_some_iff.mp hFind
        exact absurd hItem List.not_mem_nil

theorem Supplied.of_moves (h : s.Supplied) (hMoves : TreasureMoves s t) : t.Supplied :=
  invariant_of_moves (fun _ _ hMove => hMove.supplied) hMoves h

theorem supplied_create (definitions : List TreasureDefinition) (config : InventoryLootConfig F) :
    (create definitions config).Supplied where
  spawns id spawn hFind := by simp [create] at hFind
  items id player hFind := by simp [create] at hFind

/-! The sums. -/

/-- An inventory as a list of definitions. -/
theorem exists_carried {definitions : List TreasureDefinition} (items : List InventoryItem)
    (h : ∀ item ∈ items, Defined definitions item.treasure.value item.treasure.weight) :
    ∃ carried : List TreasureDefinition, (∀ treasure ∈ carried, treasure ∈ definitions) ∧
      carried.length = items.length ∧ totalWeight carried = weightOf items ∧
      totalValue carried = valueOf items := by
  induction items with
  | nil => exact ⟨[], fun _ hMem => absurd hMem List.not_mem_nil, rfl, rfl, rfl⟩
  | cons item rest ih =>
      obtain ⟨definition, hDefinition, hValue, hWeight⟩ := h item List.mem_cons_self
      obtain ⟨carried, hFrom, hLength, hWeights, hValues⟩ :=
        ih fun other hOther => h other (List.mem_cons_of_mem _ hOther)
      refine ⟨definition :: carried, ?_, by rw [List.length_cons, List.length_cons, hLength], ?_, ?_⟩
      · intro treasure hMem
        rcases List.mem_cons.mp hMem with rfl | hRest
        · exact hDefinition
        · exact hFrom treasure hRest
      · unfold totalWeight weightOf at hWeights ⊢
        rw [List.map_cons, List.map_cons, List.sum_cons, List.sum_cons, hWeights, hWeight]
      · unfold totalValue valueOf at hValues ⊢
        rw [List.map_cons, List.map_cons, List.sum_cons, List.sum_cons, hValues, hValue]

/-- The weights are added once there is room for one more item. -/
theorem room_of_weighed {player : PlayerInventoryState F} {spawnId : Nat}
    (h : s.judgePickup player spawnId = .error .weightLimitExceeded) :
    player.items.length + 1 ≤ s.config.maxItemsPerPlayer := by
  unfold judgePickup at h
  split at h
  · cases h
  · split at h
    · cases h
    · cases hFind : s.activeSpawnsById.find spawnId with
      | none =>
          rw [hFind] at h
          cases h
      | some spawn =>
          simp only [hFind] at h
          split_ifs at h with hReach hItems hWeight
          · cases h
          · cases h
          · exact not_lt.mp hItems

/-- What the condition says of one inventory and one spawn. -/
theorem sums_fit (hLawful : s.Lawful) (hSupplied : s.Supplied)
    (hBearable : Bearable s.treasureDefinitions s.config.maxItemsPerPlayer
      s.config.maxWeightPerPlayer) {playerId spawnId : Nat} {player : PlayerInventoryState F}
    {spawn : TreasureSpawnInstance F} (hPlayer : s.playersById.find playerId = some player)
    (hSpawn : s.activeSpawnsById.find spawnId = some spawn)
    (hRoom : player.items.length + 1 ≤ s.config.maxItemsPerPlayer) :
    FitsInt (player.totalWeight + spawn.weight) ∧
      (player.totalWeight + spawn.weight ≤ s.config.maxWeightPerPlayer →
        FitsInt (player.totalValue + spawn.value)) := by
  have hFits := (hLawful.players playerId player hPlayer).2
  obtain ⟨carried, hFrom, hLength, hWeights, hValues⟩ :=
    exists_carried player.items (hSupplied.items playerId player hPlayer)
  obtain ⟨offered, hOffered, hValue, hWeight⟩ := hSupplied.spawns spawnId spawn hSpawn
  have hCarried := hBearable carried offered hOffered hFrom (hLength ▸ hRoom)
  rw [hWeights, hValues, ← hFits.weight_eq, ← hFits.value_eq, hValue, hWeight] at hCarried
  exact hCarried hFits.weight_le

theorem sumsFor_fit (hLawful : s.Lawful) (hSupplied : s.Supplied)
    (hBearable : Bearable s.treasureDefinitions s.config.maxItemsPerPlayer
      s.config.maxWeightPerPlayer) (pickup : TreasurePickupCommand) :
    ∀ sum ∈ s.sumsFor pickup, FitsInt sum := by
  intro sum hSum
  unfold sumsFor at hSum
  cases hFind : s.playersById.find pickup.playerId with
  | none =>
      rw [hFind] at hSum
      cases hSum
  | some before =>
      rw [hFind] at hSum
      dsimp only at hSum
      split at hSum
      · rename_i spawn granted hSpawn hJudged
        obtain ⟨hRoom, hWeight⟩ := judgePickup_fits hJudged
        have hGranted := (judgePickup_ok hJudged).1
        rw [show (s.noted pickup before).activeSpawnsById = s.activeSpawnsById from rfl, hSpawn]
          at hGranted
        cases hGranted
        obtain ⟨hWeights, hValues⟩ := sums_fit hLawful hSupplied hBearable hFind hSpawn hRoom
        simp only [List.mem_cons, List.not_mem_nil, or_false] at hSum
        rcases hSum with rfl | rfl | rfl
        · exact hWeights
        · exact hValues hWeight
        · exact hWeights
      · rename_i spawn hSpawn hJudged
        rw [List.mem_singleton.mp hSum]
        exact (sums_fit hLawful hSupplied hBearable hFind hSpawn (room_of_weighed hJudged)).1
      · cases hSum

/-- With the condition no sum of a list of pickups leaves the range. -/
theorem sumsAlong_fit (pickups : List TreasurePickupCommand) (hLawful : s.Lawful)
    (hSupplied : s.Supplied) (hBearable : Bearable s.treasureDefinitions
      s.config.maxItemsPerPlayer s.config.maxWeightPerPlayer) :
    ∀ sum ∈ s.sumsAlong pickups, FitsInt sum := by
  induction pickups generalizing s with
  | nil => exact fun sum hSum => absurd hSum List.not_mem_nil
  | cons pickup rest ih =>
      intro sum hSum
      rcases List.mem_append.mp hSum with hNow | hLater
      · exact sumsFor_fit hLawful hSupplied hBearable pickup sum hNow
      · have hMoves := s.moves_resolvePickup pickup
        refine ih (hLawful.of_moves hMoves) (hSupplied.of_moves hMoves) ?_ sum hLater
        rw [(settings_of_moves hMoves).1, (settings_of_moves hMoves).2]
        exact hBearable

/-- Where no bearable load and no further treasure add up to more than an `int`, every sum of
every tick of every run fits, and so the limit is checked on the true sum. -/
theorem loot_sums_fit (definitions : List TreasureDefinition) (config : InventoryLootConfig F)
    (hBearable : Bearable (create definitions config).treasureDefinitions
      (sanitizeConfig config).maxItemsPerPlayer (sanitizeConfig config).maxWeightPerPlayer)
    (actions : List (LootAction F)) (call : LootTickCall F) :
    ∀ sum ∈ ((create definitions config).history actions).sumsIn call, FitsInt sum := by
  have hHistory := moves_history (create definitions config) actions
  have hMoves : TreasureMoves (create definitions config)
      (((create definitions config).history actions).lootedWith call).drainPickups.2 :=
    (hHistory.trans (moves_lootedWith _ call)).trans (keepsHoldings_drainPickups _).moves
  apply sumsAlong_fit _ ((lawful_create definitions config).of_moves hMoves)
    ((supplied_create definitions config).of_moves hMoves)
  rw [(settings_of_moves hMoves).1, (settings_of_moves hMoves).2]
  exact hBearable

/-- Light and cheap treasure with the default limits: sixteen items and a weight of 40. -/
def lightDefinitions : List TreasureDefinition :=
  [{ id := Bytes.ofString "coin", value := 5, weight := 1 },
    { id := Bytes.ofString "idol", value := 90, weight := 12 }]

/-- A load of at most sixteen items that are worth at most 90 each. -/
theorem bearable_lightDefinitions : Bearable lightDefinitions 16 40 := by
  have hWorth : ∀ carried : List TreasureDefinition,
      (∀ treasure ∈ carried, treasure ∈ lightDefinitions) →
        (0 ≤ totalWeight carried ∧ totalWeight carried ≤ 12 * carried.length) ∧
          0 ≤ totalValue carried ∧ totalValue carried ≤ 90 * carried.length := by
    intro carried hFrom
    induction carried with
    | nil => decide
    | cons treasure rest ih =>
        obtain ⟨hWeights, hValues⟩ := ih fun other hOther => hFrom other (List.mem_cons_of_mem _ hOther)
        have hOne : treasure.value = 5 ∧ treasure.weight = 1 ∨
            treasure.value = 90 ∧ treasure.weight = 12 := by
          have hMem := hFrom treasure List.mem_cons_self
          simp only [lightDefinitions, List.mem_cons, List.not_mem_nil, or_false] at hMem
          rcases hMem with rfl | rfl
          · exact Or.inl ⟨rfl, rfl⟩
          · exact Or.inr ⟨rfl, rfl⟩
        unfold totalWeight totalValue at *
        simp only [List.map_cons, List.sum_cons, List.length_cons] at *
        omega
  intro carried offered hOffered hFrom hRoom _
  have hAll := hWorth (offered :: carried) fun treasure hMem => by
    rcases List.mem_cons.mp hMem with rfl | hRest
    · exact hOffered
    · exact hFrom treasure hRest
  unfold totalWeight totalValue FitsInt at *
  simp only [List.map_cons, List.sum_cons, List.length_cons] at *
  omega

/-- A player who stands where the first two spawns of the schedule appear. -/
def standAt (playerId : Nat) (x y : ℚ) : PlayerMotionState ℚ :=
  { playerId := playerId, positionX := x, positionY := y }

/-- With light treasure the sums of the first pickup are its weight, its value and its weight. -/
theorem loot_sums_fit_light :
    let s : InventoryLootSimulation ℚ := (create lightDefinitions {}).history
      [.resolveTick { tick := 90 }, .enqueuePickup { playerId := 1, pickupSeq := 1, spawnId := 1 }]
    let call : LootTickCall ℚ := { tick := 91, movementStates := [standAt 1 54 82] }
    s.sumsIn call = [1, 5, 1] ∧ ∀ sum ∈ s.sumsIn call, FitsInt sum := by
  refine ⟨by decide +kernel, ?_⟩
  exact loot_sums_fit lightDefinitions {} bearable_lightDefinitions _ _

/-- The feather can be carried, and the anvil is the heaviest treasure that a file can define. -/
def anvilDefinitions : List TreasureDefinition :=
  [{ id := Bytes.ofString "feather", value := 1, weight := 1 },
    { id := Bytes.ofString "anvil", value := 1, weight := 2 ^ 31 - 1 }]

/-- Player 1 holds the feather and asks for the anvil, which lies at its feet. -/
def anvilActions : List (LootAction ℚ) :=
  [.resolveTick { tick := 90 }, .enqueuePickup { playerId := 1, pickupSeq := 1, spawnId := 1 },
    .resolveTick { tick := 91, movementStates := [standAt 1 54 82] },
    .resolveTick { tick := 180 }, .enqueuePickup { playerId := 1, pickupSeq := 2, spawnId := 2 }]

/-- The check whether the anvil is too heavy adds its weight to that of the feather. -/
theorem loot_sum_overflows :
    (∀ definition ∈ anvilDefinitions, FitsInt definition.value ∧ FitsInt definition.weight) ∧
      ¬ ∀ sum ∈ ((create anvilDefinitions {}).history anvilActions).sumsIn
          { tick := 181, movementStates := [standAt 1 91 135] }, FitsInt sum := by
  refine ⟨by decide, ?_⟩
  decide +kernel

end InventoryLootSimulation

end DevyFps.Server
