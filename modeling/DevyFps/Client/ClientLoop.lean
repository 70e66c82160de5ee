import DevyFps.Client.AuthoritativeHudModel
import DevyFps.Client.GuardedConsumers
import DevyFps.Client.WeaponFireEmitter
import DevyFps.Replication.WorldHandshake
import DevyFps.Shared.Net.Delivery

/-! The loop of the client's `main`, from the packets that it reads to the packets that it sends.
What it shows on the screen is left out, but for the head-up display and the event banner. -/

namespace DevyFps.Client

open Foundations FloatFormat Game Net
open Replication (ClientWorld)
open Server (ofFloat ofUnsigned)
open Voxel (ChunkCoord)

variable {F : Type} [SingleFloat F]

structure TreasureSpawnView (F : Type) [SingleFloat F] where
  spawnId : Nat
  x : F
  y : F

/-- A readable entry of the treasure spawns of a snapshot. -/
def parseTreasureSpawn (spawn : Document F) : Option (TreasureSpawnView F) := do
  let position ← spawn.member "position"
  if !position.isObject then none
  let spawnId ← readU64 (← spawn.member "spawn_id")
  let x ← readFloat (position.value "x" .null)
  let y ← readFloat (position.value "y" .null)
  return { spawnId, x, y }

def parseTreasureSpawns (snapshotPayload : Document F) : List (TreasureSpawnView F) :=
  (snapshotPayload.value "treasure_spawns" .null).elements.filterMap parseTreasureSpawn

/-- The loop over the spawns, with the best one so far and its squared distance. -/
def closestSpawn (x y : F) : Option Nat → F → List (TreasureSpawnView F) → Option Nat
  | bestSpawn, _, [] => bestSpawn
  | bestSpawn, bestDistanceSq, spawn :: rest =>
      let dx := spawn.x - x
      let dy := spawn.y - y
      let distSq := dx * dx + dy * dy
      if le distSq bestDistanceSq then closestSpawn x y (some spawn.spawnId) distSq rest
      else closestSpawn x y bestSpawn bestDistanceSq rest

def closestSpawnInRange (spawns : List (TreasureSpawnView F)) (x y maxDistance : F) : Option Nat :=
  closestSpawn x y none (maxDistance * maxDistance) spawns

/-- The settings that the loop goes by. -/
structure ClientSettings where
  worldHeight : Int := 256
  heartbeatTimeoutMs : Int := 10000
  activeWeaponId : String := "rifle"

/-- The heartbeat interval for a timeout, an `int`. -/
def heartbeatInterval (heartbeatTimeoutMs : Int) : Nat :=
  let timeout := if heartbeatTimeoutMs ≤ 0 then 10000 else heartbeatTimeoutMs
  (max 100 (min 2000 (timeout.tdiv 2))).toNat

structure ClientLoop (F : Type) [SingleFloat F] where
  reconciler : PredictionReconciler F
  weaponFireEmitter : WeaponFireEmitter := {}
  authoritativeHud : AuthoritativeHudModel := {}
  eventFeed : AuthoritativeEventFeed := {}
  chunkRevisions : UnorderedMap ChunkCoord UInt32 := ∅
  knownSpawns : List (TreasureSpawnView F) := []
  localPlayerId : Nat := 0
  nextPickupSeq : Nat := 1
  nextHeartbeatAtMs : Nat := 0
  connectionReady : Bool := false
  joined : Bool := false
  fireButtonWasDown : Bool := false
  pickupButtonWasDown : Bool := false
  eventBanner : String := ""
  eventBannerExpiresAtMs : Nat := 0
  inputAccumulator : F := ofRat 0
  clientWorld : ClientWorld F
  quitting : Bool := false

/-- What the player does in a frame, as far as the packets depend on it. -/
structure Controls (F : Type) [SingleFloat F] where
  moveX : F := ofRat 0
  moveY : F := ofRat 0
  jump : Bool := false
  sprint : Bool := false
  crouch : Bool := false
  viewX : F := ofRat 0
  viewZ : F := ofRat 0
  fireButtonDown : Bool := false
  pickupButtonDown : Bool := false

def fixedDtSeconds : F := ofRat 1 / ofRat 60

def fixedDtNs : Int := truncate ((fixedDtSeconds : F) * ofRat 1000000000)

def pickupMaxDistanceUnits : F := ofRat 3

def eventBannerDurationMs : Nat := 2500

/-- The packets that are sent, in their order. -/
abbrev Outgoing (F : Type) [SingleFloat F] := List (Net.Packet (SingleFloat.Double F))

def joinRequestPacket : Packet (SingleFloat.Double F) where
  type := .joinRequest
  payload := .object
    [("client_build", .string "interactive-client"), ("player_name", .string "player_local")]

def heartbeatPacket (playerId clientTimeMs : Nat) : Packet (SingleFloat.Double F) where
  type := .heartbeat
  payload := .object
    [("client_time_ms", ofUnsigned clientTimeMs), ("player_id", ofUnsigned playerId)]

def playerInputPacket (playerId inputSeq : Nat) (controls : Controls F) :
    Packet (SingleFloat.Double F) where
  type := .playerInput
  payload := .object
    [("crouch", .boolean controls.crouch), ("fire", .boolean false),
      ("input_seq", ofUnsigned inputSeq), ("jump", .boolean controls.jump),
      ("move_x", ofFloat controls.moveX), ("move_y", ofFloat controls.moveY),
      ("player_id", ofUnsigned playerId), ("sprint", .boolean controls.sprint)]

def treasurePickupPacket (playerId pickupSeq spawnId : Nat) : Packet (SingleFloat.Double F) where
  type := .treasurePickup
  payload := .object
    [("pickup_seq", ofUnsigned pickupSeq), ("player_id", ofUnsigned playerId),
      ("spawn_id", ofUnsigned spawnId)]

namespace ClientLoop

def create (config : PredictionConfig F) (settings : Voxel.WorldGenerationProfile F) :
    ClientLoop F where
  reconciler := .create config
  clientWorld := .start settings

/-- An empty message is not shown. -/
def pushEventBanner (s : ClientLoop F) (now : Nat) (message : String) : ClientLoop F :=
  if message = "" then s
  else { s with eventBanner := message, eventBannerExpiresAtMs := now + eventBannerDurationMs }

/-- The client knows under which id it plays. -/
def isPlaying (s : ClientLoop F) : Bool := s.joined && s.localPlayerId ≠ 0

/-! The packets that the client reads. An access to a document that fails ends the client. -/

/-- An accepted join starts everything anew. -/
def startPlaying (s : ClientLoop F) (playerId now : Nat) (payload : Document F) : ClientLoop F :=
  { s with
    joined := true
    localPlayerId := playerId
    nextPickupSeq := 1
    nextHeartbeatAtMs := now
    reconciler := s.reconciler.reset
    weaponFireEmitter := s.weaponFireEmitter.reset
    authoritativeHud := s.authoritativeHud.reset
    eventFeed := s.eventFeed.reset
    eventBanner := ""
    eventBannerExpiresAtMs := 0
    knownSpawns := []
    chunkRevisions := ∅
    clientWorld := s.clientWorld.acceptWorldGen payload }

def receiveJoinAccept (s : ClientLoop F) (now : Nat) (payload : Document F) :
    Except JsonError (ClientLoop F) := do
  let accepted ← payload.valueAs Json.getBool "accepted" false
  if !accepted then
    let _ ← payload.valueAs Json.getString "reason" "join_rejected"
    return { s with quitting := true }
  let some playerId ← Net.jsonToU32 (← payload.valueJson "player_id")
    | return { s with quitting := true }
  return s.startPlaying playerId now payload

/-- The chunks of a snapshot. -/
def applyChunks (s : ClientLoop F) (settings : ClientSettings) (chunkSync : Option ChunkSyncDelta) :
    ClientLoop F :=
  match chunkSync with
  | none => s
  | some delta =>
      let applied :=
        applyChunkSync s.clientWorld.world settings.worldHeight delta s.chunkRevisions
      { s with
        clientWorld := { s.clientWorld with world := applied.world }
        chunkRevisions := applied.revisions }

def receiveSnapshot (s : ClientLoop F) (settings : ClientSettings) (now : Nat)
    (payload : Document F) : Except JsonError (ClientLoop F) := do
  if !s.isPlaying then return s
  let reconciled ← s.reconciler.consumeSnapshot payload s.localPlayerId
  let chunkSync ← Accessed.parseChunkSync payload
  let synced := { s with reconciler := reconciled.2 }.applyChunks settings chunkSync
  let told ← s.eventFeed.consumeSnapshotEvents payload s.localPlayerId
  let shown :=
    { synced with
      authoritativeHud := (s.authoritativeHud.applySnapshot payload s.localPlayerId).2
      knownSpawns := parseTreasureSpawns payload
      eventFeed := told.2 }
  return told.1.foldl (fun t message => t.pushEventBanner now message) shown

/-- The amounts are read once more for the log. -/
def receiveInventoryUpdate (s : ClientLoop F) (payload : Document F) :
    Except JsonError (ClientLoop F) := do
  let playerId ← Net.jsonToU32 (← payload.valueJson "player_id")
  if playerId ≠ some s.localPlayerId then return s
  let _ ← payload.valueAs Json.getInt "coins" 0
  let _ ← payload.valueAs Json.getInt "item_count" 0
  return { s with
    authoritativeHud := (s.authoritativeHud.applyInventoryUpdate payload s.localPlayerId).2 }

/-- The banner for what the event feed has made of a message. -/
def showMessage (s : ClientLoop F) (now : Nat) : Option String → ClientLoop F
  | some message => s.pushEventBanner now message
  | none => s

def receiveDamageEvent (s : ClientLoop F) (now : Nat) (payload : Document F) :
    Except JsonError (ClientLoop F) := do
  let told ← s.eventFeed.consumeReliableDamageEvent payload s.localPlayerId
  return { s with
    authoritativeHud := (s.authoritativeHud.applyDamageEvent payload s.localPlayerId).2
    eventFeed := told.2 }.showMessage now told.1

def receiveMatchState (s : ClientLoop F) (now : Nat) (payload : Document F) :
    Except JsonError (ClientLoop F) := do
  let told ← s.eventFeed.consumeReliableMatchState payload
  return { s with
    authoritativeHud := (s.authoritativeHud.applyMatchState payload).2
    eventFeed := told.2 }.showMessage now told.1

/-- The chain of branches for a packet that was parsed. -/
def receivePacket (s : ClientLoop F) (settings : ClientSettings) (now : Nat)
    (packet : Packet (SingleFloat.Double F)) : Except JsonError (ClientLoop F) :=
  match packet.type with
  | .joinAccept => s.receiveJoinAccept now packet.payload
  | .stateSnapshot => s.receiveSnapshot settings now packet.payload
  | .inventoryUpdate => s.receiveInventoryUpdate packet.payload
  | .damageEvent => s.receiveDamageEvent now packet.payload
  | .matchState => s.receiveMatchState now packet.payload
  | _ => .ok s

/-- A packet that was sent to the client; one that is not accepted is dropped. -/
def receive (s : ClientLoop F) (settings : ClientSettings) (now : Nat)
    (sent : Packet (SingleFloat.Double F)) : Except JsonError (ClientLoop F) :=
  match carried sent with
  | .error _ => .ok s
  | .ok packet => s.receivePacket settings now packet

/-! What the client sends, with the state that it leaves. -/

def connect (s : ClientLoop F) : Outgoing F × ClientLoop F :=
  ([joinRequestPacket], { s with connectionReady := true })

def disconnect (s : ClientLoop F) : ClientLoop F :=
  { s with
    connectionReady := false
    joined := false
    localPlayerId := 0
    authoritativeHud := s.authoritativeHud.reset
    eventFeed := s.eventFeed.reset
    eventBanner := ""
    eventBannerExpiresAtMs := 0
    quitting := true }

def sendHeartbeat (s : ClientLoop F) (settings : ClientSettings) (now : Nat) :
    Outgoing F × ClientLoop F :=
  if s.connectionReady && s.isPlaying && s.nextHeartbeatAtMs ≤ now then
    ([heartbeatPacket s.localPlayerId now],
      { s with nextHeartbeatAtMs := now + heartbeatInterval settings.heartbeatTimeoutMs })
  else ([], s)

/-- The time of a frame, while the client plays. -/
def accumulate (s : ClientLoop F) (dt : F) : ClientLoop F :=
  if s.isPlaying then { s with inputAccumulator := s.inputAccumulator + dt } else s

/-- The body of the loop over the inputs of a frame. -/
def sendInput (s : ClientLoop F) (controls : Controls F) : Outgoing F × ClientLoop F :=
  if s.isPlaying && le fixedDtSeconds s.inputAccumulator then
    let queued := s.reconciler.queueLocalInput stepMovement
      { moveX := controls.moveX, moveY := controls.moveY, jump := controls.jump,
        sprint := controls.sprint, crouch := controls.crouch, fire := false,
        dt := fixedDtNs (F := F) }
    ([playerInputPacket s.localPlayerId queued.1 controls],
      { s with
        reconciler := queued.2
        inputAccumulator := s.inputAccumulator - fixedDtSeconds })
  else ([], s)

/-- A shot when the button goes down. -/
def sendFire (s : ClientLoop F) (settings : ClientSettings) (controls : Controls F) (now : Nat) :
    Outgoing F × ClientLoop F :=
  let noted := { s with fireButtonWasDown := controls.fireButtonDown }
  if controls.fireButtonDown && !s.fireButtonWasDown && s.isPlaying then
    let predicted := s.reconciler.state
    let fireResult := s.weaponFireEmitter.emit
      { playerId := s.localPlayerId, weaponId := settings.activeWeaponId,
        originX := predicted.positionX, originY := predicted.positionY,
        directionX := controls.viewX, directionY := controls.viewZ, clientFireTimeMs := some now }
    (if fireResult.1.accepted then [fireResult.1.packet] else [],
      { noted with weaponFireEmitter := fireResult.2 })
  else ([], noted)

/-- A pickup when the button goes down, of the closest known spawn. -/
def sendPickup (s : ClientLoop F) (controls : Controls F) : Outgoing F × ClientLoop F :=
  let noted := { s with pickupButtonWasDown := controls.pickupButtonDown }
  if controls.pickupButtonDown && !s.pickupButtonWasDown && s.isPlaying then
    let predicted := s.reconciler.state
    match closestSpawnInRange s.knownSpawns predicted.positionX predicted.positionY
      pickupMaxDistanceUnits with
    | some spawnId =>
        ([treasurePickupPacket s.localPlayerId s.nextPickupSeq spawnId],
          { noted with nextPickupSeq := (s.nextPickupSeq + 1) % 2 ^ 32 })
    | none => ([], noted)
  else ([], noted)

end ClientLoop

end DevyFps.Client
