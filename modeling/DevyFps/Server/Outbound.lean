import DevyFps.Foundations.Outbox
import DevyFps.Server.SnapshotAssembly
import DevyFps.Server.SnapshotEvents
import DevyFps.Shared.Voxel.ProfileJson

/-! What `main` sends to whom: the answers to join requests, what a tick is told by at once, and
the snapshots with the events that waited for them. -/

namespace DevyFps.Server

open Foundations Net
open MainLoop (LoopEvent LoopStep)

variable {F : Type} [SingleFloat F]

def JoinStatus.toString : JoinStatus → String
  | accepted => "accepted"
  | reconnected => "reconnected"
  | alreadyJoined => "already_joined"
  | rejected => "rejected"

def JoinError.toString : JoinError → String
  | none => "none"
  | invalidPlayerName => "invalid_player_name"
  | nameInUse => "name_in_use"
  | serverFull => "server_full"

def joinErrorMessage : JoinError → String
  | .invalidPlayerName => "Invalid player name."
  | .nameInUse => "Player name is already in use."
  | .serverFull => "Server is full."
  | .none => "Join rejected."

def featureFlags : List String :=
  ["handshake_v1", "heartbeat_v1", "movement_snapshot_v1", "input_ack_v1", "world_replication_v1",
    "block_interaction_v1", "weapon_fire_v1", "damage_pipeline_v1", "death_event_v1",
    "inventory_loot_v1", "match_lifecycle_v1"]

/-- A packet with the peer that it is sent to. -/
structure SentPacket (F : Type) [SingleFloat F] where
  peerToken : PeerToken
  packet : Net.Packet (SingleFloat.Double F)

/-- The settings that show in what is sent. -/
structure OutboundSettings (F : Type) [SingleFloat F] where
  maxPlayers : Nat
  combatStartingHealth : Int
  matchRespawnsPerPlayer : Nat
  worldGenerationProfile : Voxel.WorldGenerationProfile F
  matchStateBroadcastOnSnapshot : Bool := false
  snapshotIncludeMatchScoreboard : Bool := false

namespace OutboundSettings

/-! The members of an object are sorted by their keys. -/

def joinAccepted (settings : OutboundSettings F) (result : JoinResult) :
    Net.Packet (SingleFloat.Double F) where
  type := .joinAccept
  payload := .object
    [("accepted", .boolean true), ("feature_flags", .array (featureFlags.map .string)),
      ("join_status", .string result.status.toString),
      ("max_players", ofSigned settings.maxPlayers), ("message", .string "Welcome to Devy FPS"),
      ("player_id", ofUnsigned result.session.playerId),
      ("player_name", textOfBytes result.session.playerName),
      ("protocol_version", ofUnsigned kProtocolVersion.toNat),
      ("world_gen", Voxel.worldGenerationProfileToJson settings.worldGenerationProfile)]

def joinRejected (settings : OutboundSettings F) (result : JoinResult) :
    Net.Packet (SingleFloat.Double F) where
  type := .joinAccept
  payload := .object
    [("accepted", .boolean false), ("feature_flags", .array (featureFlags.map .string)),
      ("max_players", ofSigned settings.maxPlayers),
      ("message", .string (joinErrorMessage result.error)),
      ("protocol_version", ofUnsigned kProtocolVersion.toNat),
      ("reason", .string result.error.toString),
      ("world_gen", Voxel.worldGenerationProfileToJson settings.worldGenerationProfile)]

/-- The answer to a join request, once an accepted player is known to the components. -/
def joinAnswer (settings : OutboundSettings F) (result : JoinResult) (loop : MainLoop F) :
    List (Net.Packet (SingleFloat.Double F)) :=
  if result.accepted then
    [settings.joinAccepted result,
      buildMatchStatePacket (loop.matchLifecycleSimulation.state loop.tickInterval)
        loop.matchLifecycleSimulation.scoreboardSnapshot]
  else [settings.joinRejected result]

end OutboundSettings

def inventoryUpdatePacket (summary : InventorySummary) : Net.Packet (SingleFloat.Double F) where
  type := .inventoryUpdate
  payload := .object
    [("coins", ofSigned summary.totalValue), ("item_count", ofUnsigned summary.itemCount),
      ("last_pickup_seq", ofUnsigned summary.lastPickupSeq),
      ("player_id", ofUnsigned summary.playerId), ("total_weight", ofSigned summary.totalWeight)]

def spawnsToJson (spawns : List (TreasureSpawnInstance F)) : Document F :=
  .array <| spawns.map fun spawn =>
    .object
      [("position", .object [("x", ofFloat spawn.positionX), ("y", ofFloat spawn.positionY)]),
        ("source", .string spawn.source.toString), ("spawn_id", ofUnsigned spawn.spawnId),
        ("spawned_tick", ofUnsigned spawn.spawnedTick),
        ("treasure_id", textOfBytes spawn.treasureId), ("value", ofSigned spawn.value),
        ("weight", ofSigned spawn.weight)]

/-- The snapshot of a tick for one player, whose chunks are its own. -/
def snapshotPacket (tick : Nat) (players events : List (Document F))
    (treasureSpawns matchState : Document F) (update : PlayerWorldUpdate) :
    Net.Packet (SingleFloat.Double F) where
  type := .stateSnapshot
  payload := .object
    [("chunk_sync", .object
        [("added", chunkRevisionsToJson update.added),
          ("deltas", chunkRevisionsToJson update.deltas),
          ("removed", chunkRevisionsToJson update.removed)]),
      ("events", .array events), ("match_state", matchState), ("players", .array players),
      ("tick", ofUnsigned tick), ("treasure_spawns", treasureSpawns)]

namespace MainLoop

/-- The active sessions whose peer is connected. -/
def listeners (s : MainLoop F) : List SessionView :=
  s.sessionManager.activeSessions.filter fun session => session.peerToken ∈ s.peersByToken

/-- The loops that send the same packets to every connected session, one packet at a time. -/
def broadcast (s : MainLoop F) (packets : List (Net.Packet (SingleFloat.Double F))) :
    List (SentPacket F) :=
  packets.flatMap fun packet => s.listeners.map fun session => ⟨session.peerToken, packet⟩

def peersByPlayerId (s : MainLoop F) : UnorderedMap Nat PeerToken :=
  s.listeners.foldl (fun peers session => peers.set session.playerId session.peerToken) ∅

/-- The loop over the inventories that changed; each is told to its own player. -/
def inventoryPackets (s : MainLoop F) (inventoryDeltas : List InventorySummary) :
    List (SentPacket F) :=
  inventoryDeltas.filterMap fun summary =>
    (s.peersByPlayerId.find summary.playerId).map fun peerToken =>
      ⟨peerToken, inventoryUpdatePacket summary⟩

/-- What is at hand for the snapshot of a frame. -/
def snapshotSources (s : MainLoop F) (settings : OutboundSettings F) (frame : TickFrame F) :
    SnapshotSources F where
  maxPlayers := settings.maxPlayers
  combatStartingHealth := settings.combatStartingHealth
  matchRespawnsPerPlayer := settings.matchRespawnsPerPlayer
  activeSessions := s.sessionManager.activeSessions
  movementStates := (s.movedIn frame).snapshot
  combatStates := (s.respawnedIn frame).snapshot
  inventoryStates := (s.lootedIn frame).2.inventorySnapshot
  scoreboard := (s.playedIn frame).1.scoreboard

/-- The snapshot of a tick with the world update of one session. -/
def snapshotFor (s : MainLoop F) (settings : OutboundSettings F) (record : ServerTick F)
    (events : List (Document F)) (update : PlayerWorldUpdate) :
    Net.Packet (SingleFloat.Double F) :=
  snapshotPacket record.frame.tick (s.snapshotSources settings record.frame).players events
    (spawnsToJson (s.lootedIn record.frame).2.activeSpawns)
    (buildMatchStatePayload record.lifecycle.state record.lifecycle.scoreboard
      settings.snapshotIncludeMatchScoreboard)
    update

/-- The loop that sends a snapshot to every connected session, each with its world update. -/
def snapshotPackets (s : MainLoop F) (settings : OutboundSettings F) (record : ServerTick F)
    (events : List (Document F)) : List (SentPacket F) :=
  List.zipWith
    (fun session update => ⟨session.peerToken, s.snapshotFor settings record events update⟩)
    s.listeners record.updates

end MainLoop

/-- The loop with `pending_snapshot_events`. -/
structure ServerHost (F : Type) [SingleFloat F] where
  loop : MainLoop F
  pendingSnapshotEvents : List (Document F) := []

/-- An event of the loop with what was sent because of it. -/
structure HostEvent (F : Type) [SingleFloat F] where
  event : LoopEvent F
  sent : List (SentPacket F)

namespace ServerHost

def create (setup : ServerSetup F) : ServerHost F where
  loop := .create setup

/-- What is sent in a tick, in the order of `main`. -/
def tickPackets (s : ServerHost F) (settings : OutboundSettings F) (record : ServerTick F) :
    List (SentPacket F) :=
  let outputs := record.appendOutputs s.pendingSnapshotEvents
  s.loop.broadcast outputs.2 ++
    s.loop.inventoryPackets record.inventory.inventoryDeltas ++
    s.loop.broadcast (record.matchPackets settings.matchStateBroadcastOnSnapshot) ++
    if record.frame.snapshotDue then s.loop.snapshotPackets settings record outputs.1 else []

/-- What an event of the loop makes `main` send, and what waits after it. -/
def tell (s : ServerHost F) (settings : OutboundSettings F) (event : LoopEvent F)
    (loop : MainLoop F) : List (SentPacket F) × ServerHost F :=
  match event with
  | .received peerToken _ (.join result) =>
      ((settings.joinAnswer result loop).map fun packet => ⟨peerToken, packet⟩, { s with loop })
  | .ticked record =>
      (s.tickPackets settings record,
        { loop
          pendingSnapshotEvents :=
            if record.frame.snapshotDue then []
            else (record.appendOutputs s.pendingSnapshotEvents).1 })
  | _ => ([], { s with loop })

/-- One step of the loop, with the packets that it sends. -/
inductive HostStep (settings : OutboundSettings F) :
    ServerHost F → HostEvent F → ServerHost F → Prop where
  | mk (s : ServerHost F) (event : LoopEvent F) (loop : MainLoop F)
      (hStep : LoopStep s.loop event loop) :
      HostStep settings s ⟨event, (s.tell settings event loop).1⟩ (s.tell settings event loop).2

theorem loop_tell (s : ServerHost F) (settings : OutboundSettings F) (event : LoopEvent F)
    (loop : MainLoop F) : (s.tell settings event loop).2.loop = loop := by
  unfold tell
  split <;> rfl

variable {settings : OutboundSettings F} {s t : ServerHost F}

theorem HostStep.loopStep {event : HostEvent F} (h : HostStep settings s event t) :
    LoopStep s.loop event.event t.loop := by
  cases h with
  | mk event loop hStep =>
      rw [loop_tell]
      exact hStep

theorem HostStep.sent_ticked {record : ServerTick F} {sent : List (SentPacket F)}
    (h : HostStep settings s ⟨.ticked record, sent⟩ t) : sent = s.tickPackets settings record := by
  cases h
  rfl

/-- The host does what its loop does. -/
theorem run_loop {trace : List (HostEvent F)} (run : Run (HostStep settings) s trace t) :
    Run LoopStep s.loop (trace.map HostEvent.event) t.loop := by
  induction run with
  | nil => exact .nil _
  | snoc prior last ih =>
      rw [List.map_append]
      exact .snoc ih last.loopStep

/-- Whatever its loop can do, the host can. -/
theorem exists_run_of_loop (settings : OutboundSettings F) {events : List (LoopEvent F)} {loop : MainLoop F}
    (run : Run LoopStep s.loop events loop) :
    ∃ (trace : List (HostEvent F)) (t : ServerHost F), Run (HostStep settings) s trace t ∧
      trace.map HostEvent.event = events ∧ t.loop = loop := by
  generalize hStart : s.loop = start at run
  induction run with
  | nil => exact ⟨[], s, .nil s, rfl, hStart⟩
  | snoc prior last ih =>
      obtain ⟨trace, t, hRun, hEvents, rfl⟩ := ih
      refine ⟨_, _, hRun.snoc (.mk t _ _ last), ?_, loop_tell _ _ _ _⟩
      rw [List.map_append, hEvents]
      rfl

end ServerHost

end DevyFps.Server
