import DevyFps.Foundations.Recording
import DevyFps.Server.InventoryLootSimulation
import DevyFps.Server.ServerConfigValidation
import DevyFps.Shared.Game.Movement

/-! The settings of the server as `main` reads them from the configuration, after the
configuration was validated. The record of the reads is of the model: the program logs the
fallbacks only. -/

namespace DevyFps.Server

open Foundations FloatFormat Game
open Net (Document)

variable {F : Type} [SingleFloat F]

/-- A read of an integer that the document holds, or a warning that another value than the
one that was read is used. -/
inductive SettingEvent where
  | integer (written value : Int)
  | fallback (message : String)
  deriving DecidableEq, Repr

abbrev Reading (α : Type) := Recording JsonError SettingEvent α

namespace Reading

/-- `get<float>`, which takes Booleans too. -/
def getFloat : Document F → Except JsonError F
  | .numberUnsigned raw => .ok (ofInt raw.toNat)
  | .numberInteger raw => .ok (ofInt raw.toInt)
  | .numberFloat raw => .ok (SingleFloat.narrow raw)
  | .boolean flag => .ok (ofRat (if flag then 1 else 0))
  | _ => .error .typeError

/-- The integer that the document holds at a field. -/
def integerAt (root : Document F) (field : String) : Option Int :=
  (root.member field).bind Json.integer

def recordInteger (root : Document F) (field : String) (value : Int) : Reading Unit :=
  match integerAt root field with
  | some written => Recording.record (.integer written value)
  | none => pure ()

/-- `value(field, fallback)` with an `int`. -/
def readInt (root : Document F) (field : String) (fallback : Int) : Reading Int := do
  let value ← Recording.lift
    (root.valueAs (fun value => value.getInt.map Int32.toInt) field fallback)
  recordInteger root field value
  return value

/-- `value(field, fallback)` with a `double`. -/
def readDouble (root : Document F) (field : String) (fallback : SingleFloat.Double F) :
    Reading (SingleFloat.Double F) :=
  Recording.lift (root.valueAs Json.getDouble field fallback)

/-- `value(field, fallback)` with a `float`. -/
def readFloat (root : Document F) (field : String) (fallback : F) : Reading F :=
  Recording.lift (root.valueAs getFloat field fallback)

def readBool (root : Document F) (field : String) (fallback : Bool) : Reading Bool :=
  Recording.lift (root.valueAs Json.getBool field fallback)

def readString (root : Document F) (field : String) (fallback : String) : Reading String :=
  Recording.lift (root.valueAs Json.getString field fallback)

/-- `if (parent.contains(field) && parent[field].is_object())`. -/
def readObject {α : Type} (parent : Document F) (field : String) (absent : α)
    (read : Document F → Reading α) : Reading α :=
  if parent.contains field then do
    let inner ← Recording.lift (parent.index field)
    if inner.isObject then read inner else return absent
  else return absent

/-- A value that is replaced, with a warning, where it is a bad one. -/
def replaceIf {α : Type} (bad : Bool) (message : String) (replacement value : α) : Reading α :=
  if bad then do
    Recording.record (.fallback message)
    return replacement
  else return value

end Reading

open Reading

structure NetworkSettings where
  maxPlayers : Int := 64
  port : Int := 7777
  portAutoDiscovery : Bool := false
  runtimePortFile : String := ""
  heartbeatTimeoutMs : Int := 10000

def readConnection (connection : Document F) (network : NetworkSettings) :
    Reading NetworkSettings := do
  let portAutoDiscovery ← readBool connection "port_auto_discovery" network.portAutoDiscovery
  let runtimePortFile ← readString connection "runtime_port_file" network.runtimePortFile
  return { network with portAutoDiscovery, runtimePortFile }

def readNetwork (config : Document F) : Reading NetworkSettings := do
  let maxPlayers ← readInt config "max_players" 64
  let port ← readInt config "port" 7777
  let defaults : NetworkSettings := { maxPlayers, port }
  let network ← readObject config "connection" defaults fun connection =>
    readConnection connection defaults
  let runtimePortFile :=
    if network.portAutoDiscovery && network.runtimePortFile.isEmpty then
      "runtime/active-server.json"
    else network.runtimePortFile
  let maxPlayers ← replaceIf (maxPlayers ≤ 0) "Invalid max_players; using 64." 64 maxPlayers
  let heartbeatTimeoutMs ← readObject config "session" 10000 fun session =>
    readInt session "heartbeat_timeout_ms" 10000
  let heartbeatTimeoutMs ← replaceIf (heartbeatTimeoutMs ≤ 0)
    "Invalid heartbeat timeout; using 10000 ms." 10000 heartbeatTimeoutMs
  return { network with maxPlayers, runtimePortFile, heartbeatTimeoutMs }

structure ProfilingSettings (F : Type) [SingleFloat F] where
  enabled : Bool := true
  reportIntervalTicks : Int := 300
  historySizeTicks : Int := 600
  tickLagToleranceMs : SingleFloat.Double F := ofRat 0.5
  alertMaxTickLagRate : SingleFloat.Double F := ofRat 1
  alertMaxPacketDropRate : SingleFloat.Double F := ofRat 1
  alertMaxParseErrorRate : SingleFloat.Double F := ofRat 1
  alertMinActivePlayers : Int := 0

structure RuntimeSettings (F : Type) [SingleFloat F] where
  tickRateHz : Int := 30
  snapshotIntervalTicks : Int := 2
  inputQueueCapacity : Int := 2048
  movementTuning : MovementTuning F := {}
  profiling : ProfilingSettings F := {}
  matchStateBroadcastOnSnapshot : Bool := false
  snapshotIncludeMatchScoreboard : Bool := false

def readMovement (movement : Document F) (tuning : MovementTuning F) :
    Reading (MovementTuning F) := do
  let accelGround ← readFloat movement "accel_ground" tuning.accelGroundUnitsPerSecond2
  let accelAir ← readFloat movement "accel_air" tuning.accelAirUnitsPerSecond2
  let frictionGround ←
    readFloat movement "friction_ground" tuning.frictionGroundUnitsPerSecond2
  let maxSpeedWalk ← readFloat movement "max_speed_walk" tuning.maxSpeedWalkUnitsPerSecond
  let sprintMultiplier ← readFloat movement "sprint_multiplier" tuning.sprintSpeedMultiplier
  let crouchMultiplier ← readFloat movement "crouch_multiplier" tuning.crouchSpeedMultiplier
  let jumpVelocity ← readFloat movement "jump_velocity" tuning.jumpVelocityUnitsPerSecond
  let gravity ← readFloat movement "gravity" tuning.gravityUnitsPerSecond2
  return {
    accelGroundUnitsPerSecond2 := accelGround
    accelAirUnitsPerSecond2 := accelAir
    frictionGroundUnitsPerSecond2 := frictionGround
    maxSpeedWalkUnitsPerSecond := maxSpeedWalk
    sprintSpeedMultiplier := sprintMultiplier
    crouchSpeedMultiplier := crouchMultiplier
    jumpVelocityUnitsPerSecond := jumpVelocity
    gravityUnitsPerSecond2 := gravity }

def readAlerts (alerts : Document F) (profiling : ProfilingSettings F) :
    Reading (ProfilingSettings F) := do
  let alertMaxTickLagRate ← readDouble alerts "max_tick_lag_rate" profiling.alertMaxTickLagRate
  let alertMaxPacketDropRate ←
    readDouble alerts "max_packet_drop_rate" profiling.alertMaxPacketDropRate
  let alertMaxParseErrorRate ←
    readDouble alerts "max_parse_error_rate" profiling.alertMaxParseErrorRate
  let alertMinActivePlayers ←
    readInt alerts "min_active_players" profiling.alertMinActivePlayers
  return { profiling with
    alertMaxTickLagRate, alertMaxPacketDropRate, alertMaxParseErrorRate, alertMinActivePlayers }

def readProfiling (profiling : Document F) (defaults : ProfilingSettings F) :
    Reading (ProfilingSettings F) := do
  let enabled ← readBool profiling "enabled" defaults.enabled
  let reportIntervalTicks ←
    readInt profiling "report_interval_ticks" defaults.reportIntervalTicks
  let historySizeTicks ← readInt profiling "history_size_ticks" defaults.historySizeTicks
  let tickLagToleranceMs ←
    readDouble profiling "tick_lag_tolerance_ms" defaults.tickLagToleranceMs
  let settings : ProfilingSettings F :=
    { defaults with enabled, reportIntervalTicks, historySizeTicks, tickLagToleranceMs }
  readObject profiling "alerts" settings fun alerts => readAlerts alerts settings

/-- The older setting of the walking speed, which counts where it is a positive number. -/
def legacyMovementTuning (legacyMovementSpeed : SingleFloat.Double F) : MovementTuning F :=
  if isFinite legacyMovementSpeed && lt (ofRat 0) legacyMovementSpeed then
    { maxSpeedWalkUnitsPerSecond := SingleFloat.narrow legacyMovementSpeed }
  else {}

def readRuntimeFields (runtime : Document F) : Reading (RuntimeSettings F) := do
  let tickRateHz ← readInt runtime "tick_rate_hz" 30
  let snapshotIntervalTicks ← readInt runtime "snapshot_interval_ticks" 2
  let inputQueueCapacity ← readInt runtime "input_queue_capacity" 2048
  let legacyMovementSpeed ← readDouble runtime "movement_speed_units_per_second"
    (SingleFloat.widen ({} : MovementTuning F).maxSpeedWalkUnitsPerSecond)
  let tuning := legacyMovementTuning legacyMovementSpeed
  let movementTuning ← readObject runtime "movement" tuning fun movement =>
    readMovement movement tuning
  let matchStateBroadcastOnSnapshot ←
    readBool runtime "match_state_broadcast_on_snapshot" false
  let snapshotIncludeMatchScoreboard ←
    readBool runtime "snapshot_include_match_scoreboard" false
  let profiling ← readObject runtime "profiling" {} fun profiling => readProfiling profiling {}
  return {
    tickRateHz, snapshotIntervalTicks, inputQueueCapacity, movementTuning, profiling
    matchStateBroadcastOnSnapshot, snapshotIncludeMatchScoreboard }

/-- An alert rate outside of [0, 1] is clamped. -/
def clampRate (name : String) (rate : SingleFloat.Double F) : Reading (SingleFloat.Double F) :=
  replaceIf (!isFinite rate || lt rate (ofRat 0) || lt (ofRat 1) rate)
    ("Invalid runtime profiling alert " ++ name ++ "; clamping to [0,1].")
    (clamp rate (ofRat 0) (ofRat 1)) rate

def checkProfiling (profiling : ProfilingSettings F) : Reading (ProfilingSettings F) := do
  let reportIntervalTicks ← replaceIf (profiling.reportIntervalTicks ≤ 0)
    "Invalid runtime profiling report interval; using 300 ticks." 300
    profiling.reportIntervalTicks
  let historySizeTicks ← replaceIf (profiling.historySizeTicks ≤ 0)
    "Invalid runtime profiling history size; using report interval ticks." reportIntervalTicks
    profiling.historySizeTicks
  let historySizeTicks ← replaceIf (historySizeTicks < reportIntervalTicks)
    "Runtime profiling history is smaller than report interval; clamping." reportIntervalTicks
    historySizeTicks
  let tickLagToleranceMs ← replaceIf
    (!isFinite profiling.tickLagToleranceMs || lt profiling.tickLagToleranceMs (ofRat 0))
    "Invalid runtime profiling tick lag tolerance; using 0.5 ms." (ofRat 0.5)
    profiling.tickLagToleranceMs
  let alertMaxTickLagRate ←
    clampRate (F := F) "max_tick_lag_rate" profiling.alertMaxTickLagRate
  let alertMaxPacketDropRate ←
    clampRate (F := F) "max_packet_drop_rate" profiling.alertMaxPacketDropRate
  let alertMaxParseErrorRate ←
    clampRate (F := F) "max_parse_error_rate" profiling.alertMaxParseErrorRate
  let alertMinActivePlayers ← replaceIf (profiling.alertMinActivePlayers < 0)
    "Invalid runtime profiling alert min_active_players; using zero (disabled)." 0
    profiling.alertMinActivePlayers
  return { profiling with
    reportIntervalTicks, historySizeTicks, tickLagToleranceMs, alertMaxTickLagRate
    alertMaxPacketDropRate, alertMaxParseErrorRate, alertMinActivePlayers }

def readRuntime (config : Document F) : Reading (RuntimeSettings F) := do
  let runtime ← readObject config "runtime" {} readRuntimeFields
  let tickRateHz ←
    replaceIf (runtime.tickRateHz ≤ 0) "Invalid tick rate; using 30 Hz." 30 runtime.tickRateHz
  let snapshotIntervalTicks ← replaceIf (runtime.snapshotIntervalTicks ≤ 0)
    "Invalid snapshot interval; using 2 ticks." 2 runtime.snapshotIntervalTicks
  let inputQueueCapacity ← replaceIf (runtime.inputQueueCapacity ≤ 0)
    "Invalid input queue capacity; using 2048." 2048 runtime.inputQueueCapacity
  let profiling ← checkProfiling runtime.profiling
  return { runtime with
    tickRateHz, snapshotIntervalTicks, inputQueueCapacity, profiling
    movementTuning := sanitizeMovementTuning runtime.movementTuning }

structure CombatSettings (F : Type) [SingleFloat F] where
  startingHealth : Int := 100
  hitscanRangeUnits : SingleFloat.Double F := ofRat 128
  projectileRangeUnits : SingleFloat.Double F := ofRat 96
  projectileSpeedUnitsPerSecond : SingleFloat.Double F := ofRat 40
  hitRadiusUnits : SingleFloat.Double F := ofRat 0.75

def readCombatFields (combat : Document F) : Reading (CombatSettings F) := do
  let defaults : CombatSettings F := {}
  let startingHealth ← readInt combat "starting_health" defaults.startingHealth
  let hitscanRangeUnits ← readDouble combat "hitscan_range_units" defaults.hitscanRangeUnits
  let projectileRangeUnits ←
    readDouble combat "projectile_range_units" defaults.projectileRangeUnits
  let projectileSpeedUnitsPerSecond ← readDouble combat "projectile_speed_units_per_second"
    defaults.projectileSpeedUnitsPerSecond
  let hitRadiusUnits ← readDouble combat "hit_radius_units" defaults.hitRadiusUnits
  return {
    startingHealth, hitscanRangeUnits, projectileRangeUnits, projectileSpeedUnitsPerSecond
    hitRadiusUnits }

/-- A number that is not finite or not above zero is replaced. -/
def replaceUnlessPositive (message : String) (replacement value : SingleFloat.Double F) :
    Reading (SingleFloat.Double F) :=
  replaceIf (!isFinite value || le value (ofRat 0)) message replacement value

def readCombat (config : Document F) : Reading (CombatSettings F) := do
  let combat ← readObject config "combat" {} readCombatFields
  let startingHealth ← replaceIf (combat.startingHealth ≤ 0)
    "Invalid combat.starting_health; using 100." 100 combat.startingHealth
  let hitscanRangeUnits ← replaceUnlessPositive (F := F)
    "Invalid combat.hitscan_range_units; using 128.0." (ofRat 128) combat.hitscanRangeUnits
  let projectileRangeUnits ← replaceUnlessPositive (F := F)
    "Invalid combat.projectile_range_units; using 96.0." (ofRat 96) combat.projectileRangeUnits
  let projectileSpeedUnitsPerSecond ← replaceUnlessPositive (F := F)
    "Invalid combat.projectile_speed_units_per_second; using 40.0." (ofRat 40)
    combat.projectileSpeedUnitsPerSecond
  let hitRadiusUnits ← replaceUnlessPositive (F := F)
    "Invalid combat.hit_radius_units; using 0.75." (ofRat 0.75) combat.hitRadiusUnits
  return {
    startingHealth, hitscanRangeUnits, projectileRangeUnits, projectileSpeedUnitsPerSecond
    hitRadiusUnits }

structure InventorySettings (F : Type) [SingleFloat F] where
  spawnIntervalTicks : Int := 90
  maxActiveSpawns : Int := 64
  pickupQueueCapacity : Int := 2048
  pickupRadiusUnits : SingleFloat.Double F := ofRat 2.5
  maxItemsPerPlayer : Int := 16
  maxWeightPerPlayer : Int := 40
  deathDropSpreadUnits : SingleFloat.Double F := ofRat 0.75

def readInventoryFields (inventory : Document F) : Reading (InventorySettings F) := do
  let defaults : InventorySettings F := {}
  let spawnIntervalTicks ← readInt inventory "spawn_interval_ticks" defaults.spawnIntervalTicks
  let maxActiveSpawns ← readInt inventory "max_active_spawns" defaults.maxActiveSpawns
  let pickupQueueCapacity ←
    readInt inventory "pickup_queue_capacity" defaults.pickupQueueCapacity
  let pickupRadiusUnits ← readDouble inventory "pickup_radius_units" defaults.pickupRadiusUnits
  let maxItemsPerPlayer ← readInt inventory "max_items_per_player" defaults.maxItemsPerPlayer
  let maxWeightPerPlayer ←
    readInt inventory "max_weight_per_player" defaults.maxWeightPerPlayer
  let deathDropSpreadUnits ←
    readDouble inventory "death_drop_spread_units" defaults.deathDropSpreadUnits
  return {
    spawnIntervalTicks, maxActiveSpawns, pickupQueueCapacity, pickupRadiusUnits
    maxItemsPerPlayer, maxWeightPerPlayer, deathDropSpreadUnits }

def readInventory (config : Document F) : Reading (InventorySettings F) := do
  let inventory ← readObject config "inventory" {} readInventoryFields
  let spawnIntervalTicks ← replaceIf (inventory.spawnIntervalTicks ≤ 0)
    "Invalid inventory.spawn_interval_ticks; using 90." 90 inventory.spawnIntervalTicks
  let maxActiveSpawns ← replaceIf (inventory.maxActiveSpawns ≤ 0)
    "Invalid inventory.max_active_spawns; using 64." 64 inventory.maxActiveSpawns
  let pickupQueueCapacity ← replaceIf (inventory.pickupQueueCapacity ≤ 0)
    "Invalid inventory.pickup_queue_capacity; using 2048." 2048 inventory.pickupQueueCapacity
  let pickupRadiusUnits ← replaceUnlessPositive (F := F)
    "Invalid inventory.pickup_radius_units; using 2.5." (ofRat 2.5) inventory.pickupRadiusUnits
  let maxItemsPerPlayer ← replaceIf (inventory.maxItemsPerPlayer ≤ 0)
    "Invalid inventory.max_items_per_player; using 16." 16 inventory.maxItemsPerPlayer
  let maxWeightPerPlayer ← replaceIf (inventory.maxWeightPerPlayer ≤ 0)
    "Invalid inventory.max_weight_per_player; using 40." 40 inventory.maxWeightPerPlayer
  let deathDropSpreadUnits ← replaceIf
    (!isFinite inventory.deathDropSpreadUnits || lt inventory.deathDropSpreadUnits (ofRat 0))
    "Invalid inventory.death_drop_spread_units; using 0.75." (ofRat 0.75)
    inventory.deathDropSpreadUnits
  return {
    spawnIntervalTicks, maxActiveSpawns, pickupQueueCapacity, pickupRadiusUnits
    maxItemsPerPlayer, maxWeightPerPlayer, deathDropSpreadUnits }

def parseLootDropMode (value : String) : LootDropMode :=
  if Bytes.lowercase (Bytes.ofString value) = Bytes.ofString "none" then .none else .all

structure MatchSettings where
  preMatchSeconds : Int := 5
  durationSeconds : Int
  respawnsPerPlayer : Int
  respawnDelaySeconds : Int := 3
  minPlayersToStart : Int := 1

/-- `match_time_minutes * 60` as an `int`. -/
def matchDurationSeconds (matchTimeMinutes : Int) : Int :=
  Int.bmod (matchTimeMinutes * 60) (2 ^ 32)

def readMatchFields (matchSection : Document F) (defaults : MatchSettings) :
    Reading MatchSettings := do
  let preMatchSeconds ← readInt matchSection "pre_match_seconds" defaults.preMatchSeconds
  let respawnDelaySeconds ←
    readInt matchSection "respawn_delay_seconds" defaults.respawnDelaySeconds
  let minPlayersToStart ←
    readInt matchSection "min_players_to_start" defaults.minPlayersToStart
  let respawnsPerPlayer ←
    readInt matchSection "respawns_per_player" defaults.respawnsPerPlayer
  let durationSeconds ← readInt matchSection "duration_seconds" defaults.durationSeconds
  return {
    preMatchSeconds, durationSeconds, respawnsPerPlayer, respawnDelaySeconds
    minPlayersToStart }

def readMatch (config : Document F) : Reading MatchSettings := do
  let matchTimeMinutes ← readInt config "match_time_minutes" 60
  let respawnsPerPlayer ← readInt config "respawns" 2
  let defaults : MatchSettings :=
    { durationSeconds := matchDurationSeconds matchTimeMinutes, respawnsPerPlayer }
  let settings ← readObject config "match" defaults fun matchSection =>
    readMatchFields matchSection defaults
  let durationSeconds ← replaceIf (settings.durationSeconds ≤ 0)
    "Invalid match duration; using 3600 seconds." 3600 settings.durationSeconds
  let respawnsPerPlayer ← replaceIf (settings.respawnsPerPlayer < 0)
    "Invalid respawn count; using 2." 2 settings.respawnsPerPlayer
  let preMatchSeconds ← replaceIf (settings.preMatchSeconds < 0)
    "Invalid match pre-match seconds; using 5." 5 settings.preMatchSeconds
  let respawnDelaySeconds ← replaceIf (settings.respawnDelaySeconds ≤ 0)
    "Invalid match respawn delay; using 3 seconds." 3 settings.respawnDelaySeconds
  let minPlayersToStart ← replaceIf (settings.minPlayersToStart ≤ 0)
    "Invalid match min_players_to_start; using 1." 1 settings.minPlayersToStart
  return {
    preMatchSeconds, durationSeconds, respawnsPerPlayer, respawnDelaySeconds
    minPlayersToStart }

structure MapSettings (F : Type) [SingleFloat F] where
  chunksX : Int := 64
  chunksZ : Int := 64
  worldHeight : Int := 256
  drawDistanceChunks : Int := 2
  worldGenerationProfile : Voxel.WorldGenerationProfile F := {}

def readPoiDensity (expansion : Document F) (fallback : Voxel.PoiDensity) : Voxel.PoiDensity :=
  match expansion.member "poi_density" with
  | some (.string text) => (Voxel.parsePoiDensity (Bytes.ofString text)).getD fallback
  | _ => fallback

def readPlacement (placement : Document F) (expansion : Voxel.WorldExpansionProfile F) :
    Reading (Voxel.WorldExpansionProfile F) := do
  let cellSizeChunks ← readInt placement "cell_size_chunks" expansion.cellSizeChunks
  let jitterUnits ← readInt placement "jitter_units" expansion.jitterUnits
  let minPoiSpacingUnits ←
    readInt placement "min_poi_spacing_units" expansion.minPoiSpacingUnits
  return { expansion with cellSizeChunks, jitterUnits, minPoiSpacingUnits }

def readPoiTypes (poiTypes : Document F) (expansion : Voxel.WorldExpansionProfile F) :
    Reading (Voxel.WorldExpansionProfile F) := do
  let outpost ← readBool poiTypes "outpost" expansion.poiTypes.outpost
  let ruins ← readBool poiTypes "ruins" expansion.poiTypes.ruins
  let lootShrine ← readBool poiTypes "loot_shrine" expansion.poiTypes.lootShrine
  return { expansion with poiTypes := { outpost, ruins, lootShrine } }

def readWorldExpansion (worldExpansion : Document F) (defaults : Voxel.WorldExpansionProfile F) :
    Reading (Voxel.WorldExpansionProfile F) := do
  let enabled ← readBool worldExpansion "enabled" defaults.enabled
  let poiDensity := readPoiDensity worldExpansion defaults.poiDensity
  let expansion : Voxel.WorldExpansionProfile F := { defaults with enabled, poiDensity }
  let expansion ← readObject worldExpansion "placement" expansion fun placement =>
    readPlacement placement expansion
  let expansion ← readObject worldExpansion "poi_types" expansion fun poiTypes =>
    readPoiTypes poiTypes expansion
  let lootBiasMultiplier ←
    readFloat worldExpansion "loot_bias_multiplier" expansion.lootBiasMultiplier
  return { expansion with lootBiasMultiplier }

/-- The seed, where it is an integer that fits 32 bits. -/
def readWorldSeed (map : Document F) (fallback : UInt32) : Reading UInt32 := do
  let value ← Recording.lift (map.valueJson "world_seed")
  let parsed ← Recording.lift (Net.jsonToU32 value)
  let worldSeed := (parsed.map UInt32.ofNat).getD fallback
  recordInteger map "world_seed" worldSeed.toNat
  return worldSeed

def readMapFields (map : Document F) : Reading (MapSettings F) := do
  let defaults : MapSettings F := {}
  let chunksX ← readInt map "chunks_x" defaults.chunksX
  let chunksZ ← readInt map "chunks_z" defaults.chunksZ
  let worldHeight ← readInt map "world_height" defaults.worldHeight
  let drawDistanceChunks ← readInt map "draw_distance_chunks" defaults.drawDistanceChunks
  let worldSeed ← readWorldSeed map defaults.worldGenerationProfile.worldSeed
  let expansion ← readObject map "world_expansion" defaults.worldGenerationProfile.expansion
    fun worldExpansion =>
      readWorldExpansion worldExpansion defaults.worldGenerationProfile.expansion
  return {
    chunksX, chunksZ, worldHeight, drawDistanceChunks
    worldGenerationProfile := { worldSeed, expansion } }

def readMap (config : Document F) : Reading (MapSettings F) := do
  let map ← readObject config "map" {} readMapFields
  let chunksX ← replaceIf (map.chunksX ≤ 0) "Invalid map.chunks_x; using 64." 64 map.chunksX
  let chunksZ ← replaceIf (map.chunksZ ≤ 0) "Invalid map.chunks_z; using 64." 64 map.chunksZ
  let worldHeight ← replaceIf (map.worldHeight ≤ 0) "Invalid map.world_height; using 256." 256
    map.worldHeight
  let drawDistanceChunks ← replaceIf (map.drawDistanceChunks < 0)
    "Invalid map.draw_distance_chunks; using 2." 2 map.drawDistanceChunks
  return {
    chunksX, chunksZ, worldHeight, drawDistanceChunks
    worldGenerationProfile :=
    Voxel.sanitizeWorldGenerationProfile map.worldGenerationProfile }

structure ServerSettings (F : Type) [SingleFloat F] where
  network : NetworkSettings
  runtime : RuntimeSettings F
  combat : CombatSettings F
  inventory : InventorySettings F
  lootDropMode : LootDropMode
  matchSettings : MatchSettings
  map : MapSettings F

def readServerSettings (config : Document F) : Reading (ServerSettings F) := do
  let network ← readNetwork config
  let runtime ← readRuntime config
  let combat ← readCombat config
  let inventory ← readInventory config
  let lootDrop ← readString config "loot_drop" "all"
  let matchSettings ← readMatch config
  let map ← readMap config
  return {
    network, runtime, combat, inventory, lootDropMode := parseLootDropMode lootDrop
    matchSettings, map }

end DevyFps.Server
