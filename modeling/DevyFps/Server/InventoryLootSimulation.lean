import DevyFps.Server.CombatSimulation
import DevyFps.Shared.Game.Treasure

/-! Treasure: spawns lie in the world until a player in reach picks them up, and a
death puts what the victim held back into the world under new spawn ids. -/

namespace DevyFps.Server

open Foundations FloatFormat Game

inductive LootDropMode where
  | none
  | all
  deriving DecidableEq, Repr

structure InventoryLootConfig (F : Type) [SingleFloat F] where
  spawnIntervalTicks : Nat := 90
  maxActiveSpawns : Nat := 64
  pickupQueueCapacity : Nat := 2048
  pickupRadiusUnits : F := ofRat 2.5
  maxItemsPerPlayer : Nat := 16
  maxWeightPerPlayer : Int := 40
  lootDropMode : LootDropMode := .all
  worldSizeXUnits : Int := 2048
  worldSizeYUnits : Int := 2048
  deathDropSpreadUnits : F := ofRat 0.75

structure TreasurePickupCommand where
  playerId : Nat := 0
  pickupSeq : Nat := 0
  spawnId : Nat := 0
  receivedAt : TimePoint := 0
  deriving DecidableEq, Repr

inductive TreasurePickupEnqueueStatus where
  | accepted
  | outOfOrder
  | queueFull
  deriving DecidableEq, Repr

inductive TreasurePickupResolveStatus where
  | collected
  | playerMissing
  | playerDead
  | unknownSpawn
  | duplicatePickup
  | outOfRange
  | inventoryCapacityExceeded
  | weightLimitExceeded
  deriving DecidableEq, Repr

inductive TreasureSpawnSource where
  | scheduled
  | deathDrop
  deriving DecidableEq, Repr

structure TreasureSpawnInstance (F : Type) [SingleFloat F] where
  spawnId : Nat := 0
  treasureId : Bytes := []
  value : Int := 0
  weight : Int := 0
  positionX : F := ofRat 0
  positionY : F := ofRat 0
  source : TreasureSpawnSource := .scheduled
  spawnedTick : Nat := 0

structure InventorySummary where
  playerId : Nat := 0
  totalValue : Int := 0
  totalWeight : Int := 0
  itemCount : Nat := 0
  lastPickupSeq : Nat := 0
  deriving DecidableEq, Repr

structure TreasurePickupResolution where
  playerId : Nat := 0
  pickupSeq : Nat := 0
  spawnId : Nat := 0
  status : TreasurePickupResolveStatus := .unknownSpawn
  treasureId : Bytes := []
  totalValue : Int := 0
  totalWeight : Int := 0
  itemCount : Nat := 0
  deriving DecidableEq, Repr

structure InventoryLootTickResult (F : Type) [SingleFloat F] where
  spawned : List (TreasureSpawnInstance F) := []
  pickupResults : List TreasurePickupResolution := []
  inventoryDeltas : List InventorySummary := []

structure InventoryItem where
  sourceSpawnId : Nat := 0
  treasure : TreasureDefinition
  deriving DecidableEq, Repr

structure PlayerInventoryState (F : Type) [SingleFloat F] where
  playerId : Nat := 0
  positionX : F := ofRat 0
  positionY : F := ofRat 0
  alive : Bool := true
  totalValue : Int := 0
  totalWeight : Int := 0
  lastPickupSeq : Nat := 0
  lastEnqueuedPickupSeq : Nat := 0
  items : List InventoryItem := []

structure InventoryLootSimulation (F : Type) [SingleFloat F] where
  treasureDefinitions : List TreasureDefinition
  config : InventoryLootConfig F
  playersById : UnorderedMap Nat (PlayerInventoryState F)
  pickupQueueByPlayer : CommandQueues TreasurePickupCommand
  activeSpawnsById : UnorderedMap Nat (TreasureSpawnInstance F)
  consumedSpawnIds : Finset Nat
  nextSpawnId : Nat
  nextSpawnDefinitionIndex : Nat
  queuedPickupCount : Nat

namespace InventoryLootSimulation

variable {F : Type} [SingleFloat F]

def kDistanceEpsilon : F := ofRat 0.000001

def clampPosition (value : F) (bound : Int) : F :=
  if !isFinite value then ofRat 0
  else
    let maxValue : F := ofInt (max 1 bound) - ofRat 0.001
    if le maxValue (ofRat 0) then ofRat 0 else clamp value (ofRat 0) maxValue

/-- The products are taken in `uint64_t`. -/
def deterministicSpawnPosition (seed : Nat) (worldSizeX worldSizeY : Int) : F × F :=
  let width := (max 1 worldSizeX).toNat
  let height := (max 1 worldSizeY).toNat
  (ofInt ((seed * 37 + 17) % 2 ^ 64 % width : Nat) + ofRat 0.5,
    ofInt ((seed * 53 + 29) % 2 ^ 64 % height : Nat) + ofRat 0.5)

def sanitizeConfig (config : InventoryLootConfig F) : InventoryLootConfig F where
  spawnIntervalTicks := if config.spawnIntervalTicks = 0 then 90 else config.spawnIntervalTicks
  maxActiveSpawns := if config.maxActiveSpawns = 0 then 64 else config.maxActiveSpawns
  pickupQueueCapacity :=
    if config.pickupQueueCapacity = 0 then 2048 else config.pickupQueueCapacity
  pickupRadiusUnits := sanitizePositive config.pickupRadiusUnits (ofRat 2.5)
  maxItemsPerPlayer := if config.maxItemsPerPlayer = 0 then 16 else config.maxItemsPerPlayer
  maxWeightPerPlayer := if config.maxWeightPerPlayer ≤ 0 then 40 else config.maxWeightPerPlayer
  lootDropMode := config.lootDropMode
  worldSizeXUnits := if config.worldSizeXUnits ≤ 0 then 2048 else config.worldSizeXUnits
  worldSizeYUnits := if config.worldSizeYUnits ≤ 0 then 2048 else config.worldSizeYUnits
  deathDropSpreadUnits := sanitizeNonNegative config.deathDropSpreadUnits (ofRat 0.75)

/-- The constructor drops definitions without an id or with a negative amount. -/
def create (treasureDefinitions : List TreasureDefinition) (config : InventoryLootConfig F) :
    InventoryLootSimulation F where
  treasureDefinitions := treasureDefinitions.filter fun definition =>
    !(definition.id.isEmpty || definition.value < 0 || definition.weight < 0)
  config := sanitizeConfig config
  playersById := ∅
  pickupQueueByPlayer := ∅
  activeSpawnsById := ∅
  consumedSpawnIds := ∅
  nextSpawnId := 1
  nextSpawnDefinitionIndex := 0
  queuedPickupCount := 0

/-- The players stay known, with their positions and lives. -/
def reset (s : InventoryLootSimulation F) : InventoryLootSimulation F :=
  { s with
    pickupQueueByPlayer := ∅
    activeSpawnsById := ∅
    consumedSpawnIds := ∅
    nextSpawnId := 1
    nextSpawnDefinitionIndex := 0
    queuedPickupCount := 0
    playersById := s.playersById.mapValues fun _ state =>
      { state with
        totalValue := 0
        totalWeight := 0
        lastPickupSeq := 0
        lastEnqueuedPickupSeq := 0
        items := [] } }

def ensurePlayer (s : InventoryLootSimulation F) (playerId : Nat) : InventoryLootSimulation F :=
  { s with playersById := s.playersById.tryEmplace playerId { playerId := playerId } }

/-- A leaving player keeps the record, its items and its sequence numbers. -/
def removePlayer (s : InventoryLootSimulation F) (playerId : Nat) : InventoryLootSimulation F :=
  let unqueued :=
    match s.pickupQueueByPlayer.find playerId with
    | some queue =>
        { s with
          queuedPickupCount :=
            if queue.length ≤ s.queuedPickupCount then s.queuedPickupCount - queue.length else 0
          pickupQueueByPlayer := s.pickupQueueByPlayer.erase playerId }
    | none => s
  { unqueued with
    playersById := unqueued.playersById.modify playerId fun player =>
      { player with alive := false, positionX := ofRat 0, positionY := ofRat 0 } }

/-- Whether a sequence number fails to pass the last pickup waiting in a queue. -/
def behindQueue (queue : Option (List TreasurePickupCommand)) (pickupSeq : Nat) : Bool :=
  match queue.bind List.getLast? with
  | some back => pickupSeq ≤ back.pickupSeq
  | none => false

def enqueuePickup (s : InventoryLootSimulation F) (command : TreasurePickupCommand) :
    TreasurePickupEnqueueStatus × InventoryLootSimulation F :=
  let ensured := s.ensurePlayer command.playerId
  match ensured.playersById.find command.playerId with
  | none => (.outOfOrder, ensured)
  | some state =>
      if command.pickupSeq ≤ state.lastEnqueuedPickupSeq then (.outOfOrder, ensured)
      else if ensured.config.pickupQueueCapacity ≤ ensured.queuedPickupCount then
        (.queueFull, ensured)
      else if behindQueue (ensured.pickupQueueByPlayer.find command.playerId) command.pickupSeq then
        (.outOfOrder, ensured)
      else
        (.accepted,
          { ensured with
            pickupQueueByPlayer := ensured.pickupQueueByPlayer.push command.playerId command
            playersById := ensured.playersById.set command.playerId
              ({ state with lastEnqueuedPickupSeq := command.pickupSeq })
            queuedPickupCount := ensured.queuedPickupCount + 1 })

/-- The next spawn id, which is a `uint64_t`, and the counter after it. -/
def takeSpawnId (s : InventoryLootSimulation F) : Nat × InventoryLootSimulation F :=
  (s.nextSpawnId, { s with nextSpawnId := (s.nextSpawnId + 1) % 2 ^ 64 })

def createScheduledSpawn (s : InventoryLootSimulation F) (tick : Nat) :
    TreasureSpawnInstance F × InventoryLootSimulation F :=
  let (spawnId, counted) := s.takeSpawnId
  let definition := s.treasureDefinitions.getD
    (s.nextSpawnDefinitionIndex % s.treasureDefinitions.length) { id := [] }
  let (spawnX, spawnY) : F × F :=
    deterministicSpawnPosition spawnId s.config.worldSizeXUnits s.config.worldSizeYUnits
  ({ spawnId
     treasureId := definition.id
     value := definition.value
     weight := definition.weight
     positionX := clampPosition spawnX s.config.worldSizeXUnits
     positionY := clampPosition spawnY s.config.worldSizeYUnits
     source := .scheduled
     spawnedTick := tick },
    { counted with nextSpawnDefinitionIndex := (s.nextSpawnDefinitionIndex + 1) % 2 ^ 64 })

def createDeathDropSpawn (s : InventoryLootSimulation F) (tick : Nat)
    (treasure : TreasureDefinition) (originX originY : F) (itemIndex : Nat) :
    TreasureSpawnInstance F × InventoryLootSimulation F :=
  let (spawnId, counted) := s.takeSpawnId
  let offsetXBucket : Int := (itemIndex % 3 : Nat) - 1
  let offsetYBucket : Int := (itemIndex / 3 % 3 : Nat) - 1
  let offsetX := ofInt offsetXBucket * s.config.deathDropSpreadUnits
  let offsetY := ofInt offsetYBucket * s.config.deathDropSpreadUnits
  ({ spawnId
     treasureId := treasure.id
     value := treasure.value
     weight := treasure.weight
     positionX := clampPosition (originX + offsetX) s.config.worldSizeXUnits
     positionY := clampPosition (originY + offsetY) s.config.worldSizeYUnits
     source := .deathDrop
     spawnedTick := tick }, counted)

/-- `active_spawns_by_id_[spawn.spawn_id] = spawn`. -/
def place (s : InventoryLootSimulation F) (spawn : TreasureSpawnInstance F) :
    InventoryLootSimulation F :=
  { s with activeSpawnsById := s.activeSpawnsById.set spawn.spawnId spawn }

def updatePosition (s : InventoryLootSimulation F) (state : PlayerMotionState F) :
    InventoryLootSimulation F :=
  let ensured := s.ensurePlayer state.playerId
  { ensured with
    playersById := ensured.playersById.modify state.playerId fun player =>
      { player with positionX := state.positionX, positionY := state.positionY } }

def updateAlive (s : InventoryLootSimulation F) (state : PlayerCombatState) :
    InventoryLootSimulation F :=
  let ensured := s.ensurePlayer state.playerId
  { ensured with
    playersById := ensured.playersById.modify state.playerId fun player =>
      { player with alive := state.alive } }

/-- Take over the positions and lives that the other simulations report. -/
def observePlayers (s : InventoryLootSimulation F) (movementStates : List (PlayerMotionState F))
    (combatStates : List PlayerCombatState) : InventoryLootSimulation F :=
  combatStates.foldl updateAlive (movementStates.foldl updatePosition s)

/-- The scheduled spawn of a tick, if one is due and there is room for it. -/
def spawnScheduled (s : InventoryLootSimulation F) (tick : Nat) :
    List (TreasureSpawnInstance F) × InventoryLootSimulation F :=
  if !s.treasureDefinitions.isEmpty && 0 < s.config.spawnIntervalTicks &&
      tick % s.config.spawnIntervalTicks == 0 && s.activeSpawnsById.size < s.config.maxActiveSpawns
  then
    let (spawn, counted) := s.createScheduledSpawn tick
    ([spawn], counted.place spawn)
  else ([], s)

/-- Drop the items of a list, the first of which has the given index. -/
def dropItems (s : InventoryLootSimulation F) (tick : Nat) (originX originY : F) :
    Nat → List InventoryItem → List (TreasureSpawnInstance F) × InventoryLootSimulation F
  | _, [] => ([], s)
  | itemIndex, item :: rest =>
      let (spawn, counted) := s.createDeathDropSpawn tick item.treasure originX originY itemIndex
      let (later, finish) := (counted.place spawn).dropItems tick originX originY (itemIndex + 1) rest
      (spawn :: later, finish)

def clearItems (s : InventoryLootSimulation F) (playerId : Nat) : InventoryLootSimulation F :=
  { s with
    playersById := s.playersById.modify playerId fun player =>
      { player with items := [], totalValue := 0, totalWeight := 0 } }

/-- The body of the loop over the deaths of a tick: what was dropped and whether the
victim's inventory changed. -/
def dropLoot (s : InventoryLootSimulation F) (tick : Nat) (victimId : Nat) :
    List (TreasureSpawnInstance F) × List Nat × InventoryLootSimulation F :=
  match s.playersById.find victimId with
  | none => ([], [], s)
  | some player =>
      if player.items.isEmpty then ([], [], s)
      else
        let (spawned, dropped) := s.dropItems tick player.positionX player.positionY 0 player.items
        (spawned, [victimId], dropped.clearItems victimId)

def dropAllLoot (s : InventoryLootSimulation F) (tick : Nat) :
    List DeathResolution → List (TreasureSpawnInstance F) × List Nat × InventoryLootSimulation F
  | [] => ([], [], s)
  | death :: rest =>
      let (spawned, changed, next) := s.dropLoot tick death.victimId
      let (later, changedLater, finish) := next.dropAllLoot tick rest
      (spawned ++ later, changed ++ changedLater, finish)

def isSortedPlayerId : List DeathResolution → Bool
  | first :: second :: rest =>
      !(second.victimId < first.victimId) && isSortedPlayerId (second :: rest)
  | _ => true

/-- `drain_pickups_deterministic`. -/
def drainPickups (s : InventoryLootSimulation F) :
    List TreasurePickupCommand × InventoryLootSimulation F :=
  let (drained, left) := s.pickupQueueByPlayer.drain
  (drained, { s with
    pickupQueueByPlayer := left
    queuedPickupCount := s.queuedPickupCount - drained.length })

def itemCount (player : PlayerInventoryState F) : Nat := player.items.length % 2 ^ 32

/-- Whether a spawn lies beyond the pickup radius of a player. -/
def outOfReach (s : InventoryLootSimulation F) (player : PlayerInventoryState F)
    (spawn : TreasureSpawnInstance F) : Bool :=
  let deltaX := spawn.positionX - player.positionX
  let deltaY := spawn.positionY - player.positionY
  let distanceSq := deltaX * deltaX + deltaY * deltaY
  let radiusSq := s.config.pickupRadiusUnits * s.config.pickupRadiusUnits
  !isFinite distanceSq || lt (radiusSq + kDistanceEpsilon) distanceSq

/-- The checks on a pickup in the order in which they are made, or the spawn that
passes them all. -/
def judgePickup (s : InventoryLootSimulation F) (player : PlayerInventoryState F)
    (spawnId : Nat) : Except TreasurePickupResolveStatus (TreasureSpawnInstance F) :=
  if !player.alive then .error .playerDead
  else if spawnId ∈ s.consumedSpawnIds then .error .duplicatePickup
  else
    match s.activeSpawnsById.find spawnId with
    | none => .error .unknownSpawn
    | some spawn =>
        if s.outOfReach player spawn then .error .outOfRange
        else if s.config.maxItemsPerPlayer < player.items.length + 1 then
          .error .inventoryCapacityExceeded
        else if s.config.maxWeightPerPlayer < player.totalWeight + spawn.weight then
          .error .weightLimitExceeded
        else .ok spawn

/-- Move a spawn from the world into an inventory. -/
def collect (s : InventoryLootSimulation F) (playerId : Nat) (player : PlayerInventoryState F)
    (spawnId : Nat) (spawn : TreasureSpawnInstance F) :
    PlayerInventoryState F × InventoryLootSimulation F :=
  let treasure : TreasureDefinition :=
    { id := spawn.treasureId, value := spawn.value, weight := spawn.weight, rarity := [] }
  let richer :=
    { player with
      items := player.items ++ [{ sourceSpawnId := spawn.spawnId, treasure }]
      totalValue := player.totalValue + spawn.value
      totalWeight := player.totalWeight + spawn.weight }
  (richer, { s with
    playersById := s.playersById.set playerId richer
    consumedSpawnIds := insert spawn.spawnId s.consumedSpawnIds
    activeSpawnsById := s.activeSpawnsById.erase spawnId })

/-- The body of the loop over the drained pickups. -/
def resolvePickup (s : InventoryLootSimulation F) (pickup : TreasurePickupCommand) :
    TreasurePickupResolution × List Nat × InventoryLootSimulation F :=
  let resolution (status : TreasurePickupResolveStatus) (treasureId : Bytes)
      (player : PlayerInventoryState F) : TreasurePickupResolution :=
    { playerId := pickup.playerId, pickupSeq := pickup.pickupSeq, spawnId := pickup.spawnId,
      status, treasureId, totalValue := player.totalValue, totalWeight := player.totalWeight,
      itemCount := itemCount player }
  match s.playersById.find pickup.playerId with
  | none => (resolution .playerMissing [] {}, [], s)
  | some before =>
      let player := { before with lastPickupSeq := max before.lastPickupSeq pickup.pickupSeq }
      let noted := { s with playersById := s.playersById.set pickup.playerId player }
      match noted.judgePickup player pickup.spawnId with
      | .error status => (resolution status [] player, [], noted)
      | .ok spawn =>
          let (richer, taken) := noted.collect pickup.playerId player pickup.spawnId spawn
          (resolution .collected spawn.treasureId richer, [player.playerId], taken)

def resolvePickups (s : InventoryLootSimulation F) :
    List TreasurePickupCommand →
      List TreasurePickupResolution × List Nat × InventoryLootSimulation F
  | [] => ([], [], s)
  | pickup :: rest =>
      let (resolution, changed, next) := s.resolvePickup pickup
      let (later, changedLater, finish) := next.resolvePickups rest
      (resolution :: later, changed ++ changedLater, finish)

def toSummary (player : PlayerInventoryState F) : InventorySummary where
  playerId := player.playerId
  totalValue := player.totalValue
  totalWeight := player.totalWeight
  itemCount := itemCount player
  lastPickupSeq := player.lastPickupSeq

def summaryFor (s : InventoryLootSimulation F) (playerId : Nat) : Option InventorySummary :=
  (s.playersById.find playerId).map toSummary

/-- The deaths of a tick in the order in which their loot is dropped. -/
def lootDeaths (s : InventoryLootSimulation F) (deaths : List DeathResolution) :
    List DeathResolution :=
  if s.config.lootDropMode ≠ .all then []
  else if isSortedPlayerId deaths then deaths
  else sortBy deathLess deaths

/-- The first half of a tick: what was spawned, and whose inventory was emptied. -/
def spawnAndDrop (s : InventoryLootSimulation F) (tick : Nat) (deaths : List DeathResolution) :
    List (TreasureSpawnInstance F) × List Nat × InventoryLootSimulation F :=
  let (scheduled, spawned) := s.spawnScheduled tick
  let (dropped, robbed, looted) := spawned.dropAllLoot tick (spawned.lootDeaths deaths)
  (scheduled ++ dropped, robbed, looted)

/-- The second half of a tick. -/
def resolveQueuedPickups (s : InventoryLootSimulation F) :
    List TreasurePickupResolution × List Nat × InventoryLootSimulation F :=
  let (pickups, drained) := s.drainPickups
  drained.resolvePickups pickups

def resolveTick (s : InventoryLootSimulation F) (tick : Nat)
    (movementStates : List (PlayerMotionState F)) (combatStates : List PlayerCombatState)
    (deaths : List DeathResolution) : InventoryLootTickResult F × InventoryLootSimulation F :=
  let (spawned, robbed, looted) :=
    (s.observePlayers movementStates combatStates).spawnAndDrop tick deaths
  let (pickupResults, enriched, finish) := looted.resolveQueuedPickups
  let changedPlayers := sortBy (fun a b => decide (a < b)) (robbed ++ enriched).dedup
  ({ spawned
     pickupResults
     inventoryDeltas := changedPlayers.filterMap finish.summaryFor }, finish)

theorem spawned_resolveTick (s : InventoryLootSimulation F) (tick : Nat)
    (movementStates : List (PlayerMotionState F)) (combatStates : List PlayerCombatState)
    (deaths : List DeathResolution) :
    (s.resolveTick tick movementStates combatStates deaths).1.spawned =
      ((s.observePlayers movementStates combatStates).spawnAndDrop tick deaths).1 := by
  unfold resolveTick
  generalize (s.observePlayers movementStates combatStates).spawnAndDrop tick deaths = loot
  obtain ⟨spawned, robbed, looted⟩ := loot
  dsimp only

theorem pickupResults_resolveTick (s : InventoryLootSimulation F) (tick : Nat)
    (movementStates : List (PlayerMotionState F)) (combatStates : List PlayerCombatState)
    (deaths : List DeathResolution) :
    (s.resolveTick tick movementStates combatStates deaths).1.pickupResults =
      ((s.observePlayers movementStates combatStates).spawnAndDrop tick
        deaths).2.2.resolveQueuedPickups.1 := by
  unfold resolveTick
  generalize (s.observePlayers movementStates combatStates).spawnAndDrop tick deaths = loot
  obtain ⟨spawned, robbed, looted⟩ := loot
  dsimp only

theorem state_resolveTick (s : InventoryLootSimulation F) (tick : Nat)
    (movementStates : List (PlayerMotionState F)) (combatStates : List PlayerCombatState)
    (deaths : List DeathResolution) :
    (s.resolveTick tick movementStates combatStates deaths).2 =
      ((s.observePlayers movementStates combatStates).spawnAndDrop tick
        deaths).2.2.resolveQueuedPickups.2.2 := by
  unfold resolveTick
  generalize (s.observePlayers movementStates combatStates).spawnAndDrop tick deaths = loot
  obtain ⟨spawned, robbed, looted⟩ := loot
  dsimp only

theorem judgePickup_ok {s : InventoryLootSimulation F} {player : PlayerInventoryState F}
    {spawnId : Nat} {spawn : TreasureSpawnInstance F}
    (h : s.judgePickup player spawnId = .ok spawn) :
    s.activeSpawnsById.find spawnId = some spawn ∧ spawnId ∉ s.consumedSpawnIds := by
  unfold judgePickup at h
  split at h
  · cases h
  · split at h
    · cases h
    · rename_i hFresh
      cases hFind : s.activeSpawnsById.find spawnId with
      | none =>
          rw [hFind] at h
          cases h
      | some found =>
          simp only [hFind] at h
          split_ifs at h
          injection h with hSpawn
          exact ⟨by rw [hSpawn], hFresh⟩

/-- What a refused pickup is told. -/
theorem judgePickup_error {s : InventoryLootSimulation F} {player : PlayerInventoryState F}
    {spawnId : Nat} {status : TreasurePickupResolveStatus}
    (h : s.judgePickup player spawnId = .error status) :
    status ≠ .collected ∧ status ≠ .playerMissing := by
  unfold judgePickup at h
  split at h
  · injection h with hStatus
    rw [← hStatus]
    simp
  · split at h
    · injection h with hStatus
      rw [← hStatus]
      simp
    · cases hFind : s.activeSpawnsById.find spawnId with
      | none =>
          simp only [hFind] at h
          injection h with hStatus
          rw [← hStatus]
          simp
      | some spawn =>
          simp only [hFind] at h
          split_ifs at h
          all_goals
            injection h with hStatus
            rw [← hStatus]
            simp

/-- A spawn that was collected before is a duplicate to the living. -/
theorem judgePickup_spent {s : InventoryLootSimulation F} (player : PlayerInventoryState F)
    {spawnId : Nat} (h : spawnId ∈ s.consumedSpawnIds) :
    s.judgePickup player spawnId =
      .error (if player.alive then .duplicatePickup else .playerDead) := by
  unfold judgePickup
  cases player.alive with
  | false => rfl
  | true =>
      rw [if_pos h]
      rfl

/-- `inventory_snapshot`: a summary of every player ever known, ordered by id. -/
def inventorySnapshot (s : InventoryLootSimulation F) : List InventorySummary :=
  sortBy (fun lhs rhs => decide (lhs.playerId < rhs.playerId)) (s.playersById.values.map toSummary)

def activeSpawns (s : InventoryLootSimulation F) : List (TreasureSpawnInstance F) :=
  sortBy (fun lhs rhs => decide (lhs.spawnId < rhs.spawnId)) s.activeSpawnsById.values

end InventoryLootSimulation

end DevyFps.Server
