import DevyFps.Server.CombatEvents
import DevyFps.Server.MainLoop

/-! How a tick is told: the events that wait for the next snapshot, and the packet with the
state of the match. -/

namespace DevyFps.Server

open Foundations Net

variable {F : Type} [SingleFloat F]

def MatchPhase.toString : MatchPhase → String
  | preMatch => "pre_match"
  | inMatch => "in_match"
  | postMatch => "post_match"

def TreasurePickupResolveStatus.toString : TreasurePickupResolveStatus → String
  | collected => "collected"
  | playerMissing => "player_missing"
  | playerDead => "player_dead"
  | unknownSpawn => "unknown_spawn"
  | duplicatePickup => "duplicate_pickup"
  | outOfRange => "out_of_range"
  | inventoryCapacityExceeded => "inventory_capacity_exceeded"
  | weightLimitExceeded => "weight_limit_exceeded"

def TreasureSpawnSource.toString : TreasureSpawnSource → String
  | scheduled => "scheduled"
  | deathDrop => "death_drop"

/-! The members of an object are sorted by their keys. -/

def scoreboardToJson (scoreboard : List MatchScoreEntry) : Document F :=
  .array <| scoreboard.map fun score =>
    .object
      [("alive", .boolean score.alive), ("coins", ofSigned score.coins),
        ("connected", .boolean score.connected), ("deaths", ofUnsigned score.deaths),
        ("eliminated", .boolean score.eliminated), ("kills", ofUnsigned score.kills),
        ("player_id", ofUnsigned score.playerId),
        ("respawns_remaining", ofUnsigned score.respawnsRemaining)]

/-- The member for the winner, where there is one. -/
def winnerMember (state : MatchLifecycleState) : List (String × Document F) :=
  (state.winnerPlayerId.map fun playerId => ("winner_player_id", ofUnsigned playerId)).toList

def buildMatchStatePayload (state : MatchLifecycleState) (scoreboard : List MatchScoreEntry)
    (includeScoreboard : Bool) : Document F :=
  .object
    ([("phase_started_tick", ofUnsigned state.phaseStartedTick),
        ("remaining_seconds", ofUnsigned state.remainingSeconds)] ++
      (if includeScoreboard then [("scoreboard", scoreboardToJson scoreboard)] else []) ++
      [("state", .string state.phase.toString)] ++ winnerMember state)

def buildMatchStatePacket (state : MatchLifecycleState) (scoreboard : List MatchScoreEntry) :
    Net.Packet (SingleFloat.Double F) where
  type := .matchState
  payload := buildMatchStatePayload state scoreboard true

def respawnEvent (tick playerId : Nat) : Document F :=
  .object
    [("player_id", ofUnsigned playerId), ("tick", ofUnsigned tick),
      ("type", .string "respawn_event")]

def stateEvent (tick : Nat) (state : MatchLifecycleState) : Document F :=
  .object
    ([("remaining_seconds", ofUnsigned state.remainingSeconds),
        ("state", .string state.phase.toString), ("tick", ofUnsigned tick),
        ("type", .string "match_state_changed")] ++ winnerMember state)

def spawnToSnapshotEvent (tick : Nat) (spawn : TreasureSpawnInstance F) : Document F :=
  .object
    [("position", .object
        [("x", .numberFloat (SingleFloat.widen spawn.positionX)),
          ("y", .numberFloat (SingleFloat.widen spawn.positionY))]),
      ("source", .string spawn.source.toString), ("spawn_id", ofUnsigned spawn.spawnId),
      ("tick", ofUnsigned tick), ("treasure_id", textOfBytes spawn.treasureId),
      ("type", .string "treasure_spawned"), ("value", ofSigned spawn.value),
      ("weight", ofSigned spawn.weight)]

def pickupToSnapshotEvent (tick : Nat) (pickup : TreasurePickupResolution) : Document F :=
  .object
    [("item_count", ofUnsigned pickup.itemCount), ("pickup_seq", ofUnsigned pickup.pickupSeq),
      ("player_id", ofUnsigned pickup.playerId), ("spawn_id", ofUnsigned pickup.spawnId),
      ("status", .string pickup.status.toString), ("tick", ofUnsigned tick),
      ("total_value", ofSigned pickup.totalValue), ("total_weight", ofSigned pickup.totalWeight),
      ("treasure_id", textOfBytes pickup.treasureId), ("type", .string "treasure_pickup")]

namespace ServerTick

/-- The respawns of a tick and the change of the match state, as the snapshot tells them. -/
def matchEvents (record : ServerTick F) : List (Document F) :=
  record.lifecycle.respawnedPlayers.map (respawnEvent record.frame.tick) ++
    if record.lifecycle.stateChanged then [stateEvent record.frame.tick record.lifecycle.state]
    else []

/-- The treasure that appeared in a tick, and what became of the pickups. -/
def lootEvents (record : ServerTick F) : List (Document F) :=
  record.inventory.spawned.map (spawnToSnapshotEvent record.frame.tick) ++
    record.inventory.pickupResults.map (pickupToSnapshotEvent record.frame.tick)

/-- `pending_snapshot_events` after a tick, and the messages to broadcast. -/
def appendOutputs (record : ServerTick F) (pendingSnapshotEvents : List (Document F)) :
    List (Document F) × List (Net.Packet (SingleFloat.Double F)) :=
  let told := appendCombatOutputs record.combat (pendingSnapshotEvents ++ record.matchEvents)
  (told.1 ++ record.lootEvents, told.2)

/-- The packet with the state of the match, sent where the state changed and, if configured,
with every snapshot. -/
def matchPackets (record : ServerTick F) (matchStateBroadcastOnSnapshot : Bool) :
    List (Net.Packet (SingleFloat.Double F)) :=
  if record.lifecycle.stateChanged ||
      (record.frame.snapshotDue && matchStateBroadcastOnSnapshot) then
    [buildMatchStatePacket record.lifecycle.state record.lifecycle.scoreboard]
  else []

end ServerTick

end DevyFps.Server
