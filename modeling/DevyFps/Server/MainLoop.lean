import DevyFps.Foundations.Run
import DevyFps.Server.BlockInteraction
import DevyFps.Server.MatchLifecycleSimulation
import DevyFps.Server.SessionTables
import DevyFps.Server.WorldReplication

/-! The loop of `main`: packets, connections and timeouts reach the components, and every
frame that is due runs one tick through all of them. -/

namespace DevyFps.Server

open Foundations FloatFormat Game Voxel

/-- A message that only a peer with a session may send, with its payload read. A command
is `none` where the handler refuses one of its values. -/
inductive Message (F : Type) [SingleFloat F] where
  | heartbeat (playerId : Option Nat)
  | playerInput (command : Option (PlayerInputCommand F))
  /-- The player id of the payload is optional. -/
  | blockUpdate (playerId : Option (Option Nat)) (command : Option BlockUpdateCommand)
  | weaponFire (command : Option (FireCommand F))
  | treasurePickup (command : Option TreasurePickupCommand)
  | other

/-- A packet that the parser accepted. -/
inductive Packet (F : Type) [SingleFloat F] where
  | joinRequest (playerName : PlayerName)
  | message (message : Message F)

/-- What became of a packet. -/
inductive PacketOutcome (F : Type) [SingleFloat F] where
  | join (result : JoinResult)
  | input (command : PlayerInputCommand F) (status : InputEnqueueStatus)
  | block (command : BlockUpdateCommand) (outcome : BlockUpdateOutcome)
  | fire (command : FireCommand F) (status : FireEnqueueStatus)
  | pickup (command : TreasurePickupCommand) (status : TreasurePickupEnqueueStatus)
  | heard
  | rejected

/-- What the components report in one tick, and the world updates that are sent in it. -/
structure ServerTick (F : Type) [SingleFloat F] where
  frame : TickFrame F
  combat : CombatTickResult
  inventory : InventoryLootTickResult F
  lifecycle : MatchLifecycleTickResult
  updates : List PlayerWorldUpdate

/-- The configurations from which `main` builds the components, and the generated world. -/
structure ServerSetup (F : Type) [SingleFloat F] where
  session : SessionConfig
  runtime : RuntimeConfig
  movement : MovementTuning F
  replication : ReplicationConfig
  blocks : BlockInteractionConfig
  weapons : List (WeaponDefinition F)
  combat : CombatConfig F
  treasures : List TreasureDefinition
  inventory : InventoryLootConfig F
  lifecycle : MatchLifecycleConfig
  world : World F
  startTime : TimePoint

/-- The components, and the frames of the last `advance` that are still to be run. -/
structure MainLoop (F : Type) [SingleFloat F] where
  sessionManager : SessionManager
  authoritativeLoop : AuthoritativeLoop F
  movementSimulation : MovementSimulation F
  worldReplication : WorldReplication
  blockInteraction : BlockInteraction
  combatSimulation : CombatSimulation F
  inventoryLootSimulation : InventoryLootSimulation F
  matchLifecycleSimulation : MatchLifecycleSimulation
  world : World F
  peersByToken : Finset PeerToken
  tickFrames : List (TickFrame F)

namespace MainLoop

variable {F : Type} [SingleFloat F]

def create (setup : ServerSetup F) : MainLoop F where
  sessionManager := .create setup.session
  authoritativeLoop := .create setup.runtime setup.startTime
  movementSimulation := .create setup.movement
  worldReplication := .create setup.replication
  blockInteraction := .create setup.blocks
  combatSimulation := .create setup.weapons setup.combat
  inventoryLootSimulation := .create setup.treasures setup.inventory
  matchLifecycleSimulation := .create setup.lifecycle
  world := setup.world
  peersByToken := ∅
  tickFrames := []

def tickInterval (s : MainLoop F) : Int := s.authoritativeLoop.tickInterval

/-- The calls that follow an accepted join. -/
def ensurePlayer (s : MainLoop F) (playerId : Nat) : MainLoop F :=
  { s with
    movementSimulation := s.movementSimulation.ensurePlayer playerId
    combatSimulation := s.combatSimulation.ensurePlayer playerId
    inventoryLootSimulation := s.inventoryLootSimulation.ensurePlayer playerId
    matchLifecycleSimulation := s.matchLifecycleSimulation.ensurePlayer playerId }

/-- The calls that follow the end of a session. -/
def removePlayer (s : MainLoop F) (playerId : Nat) : MainLoop F :=
  { s with
    authoritativeLoop := s.authoritativeLoop.clearPlayer playerId
    movementSimulation := s.movementSimulation.removePlayer playerId
    worldReplication := s.worldReplication.removePlayer playerId
    combatSimulation := s.combatSimulation.removePlayer playerId
    inventoryLootSimulation := s.inventoryLootSimulation.removePlayer playerId
    matchLifecycleSimulation := s.matchLifecycleSimulation.removePlayer playerId }

/-- `session_manager.handle_heartbeat`, with its answer dropped. -/
def hear (s : MainLoop F) (peerToken : PeerToken) (now : TimePoint) : MainLoop F :=
  { s with sessionManager := (s.sessionManager.handleHeartbeat peerToken now).2 }

def receiveJoin (s : MainLoop F) (peerToken : PeerToken) (playerName : PlayerName)
    (now : TimePoint) : JoinResult × MainLoop F :=
  let joined := s.sessionManager.handleJoinRequest peerToken playerName now
  let answered := { s with sessionManager := joined.2 }
  (joined.1,
    if joined.1.accepted then answered.ensurePlayer joined.1.session.playerId else answered)

def receiveInput (s : MainLoop F) (peerToken : PeerToken) (session : SessionView)
    (command : Option (PlayerInputCommand F)) (now : TimePoint) : PacketOutcome F × MainLoop F :=
  match command with
  | none => (.rejected, s)
  | some command =>
      if command.playerId ≠ session.playerId then (.rejected, s)
      else
        let input := { command with receivedAt := now }
        let queued := s.authoritativeLoop.enqueueInput input
        (.input input queued.1, { s with authoritativeLoop := queued.2 }.hear peerToken now)

def receiveBlockUpdate (s : MainLoop F) (peerToken : PeerToken) (session : SessionView)
    (playerId : Option (Option Nat)) (command : Option BlockUpdateCommand) (now : TimePoint) :
    PacketOutcome F × MainLoop F :=
  match playerId.getD (some session.playerId), command with
  | some playerId, some command =>
      if playerId ≠ session.playerId then (.rejected, s)
      else
        let named := { command with playerId }
        let applied := s.blockInteraction.apply named s.world
        let marked :=
          if applied.1.applied then
            s.worldReplication.markChunkDirty
              ⟨applied.1.chunkX, applied.1.chunkY, applied.1.chunkZ⟩
          else s.worldReplication
        (.block named applied.1,
          { s with world := applied.2, worldReplication := marked }.hear peerToken now)
  | _, _ => (.rejected, s)

/-- Outside the match a shot counts as a heartbeat only. -/
def receiveFire (s : MainLoop F) (peerToken : PeerToken) (session : SessionView)
    (command : Option (FireCommand F)) (now : TimePoint) : PacketOutcome F × MainLoop F :=
  if (s.matchLifecycleSimulation.state s.tickInterval).phase ≠ .inMatch then
    (.rejected, s.hear peerToken now)
  else
    match command with
    | none => (.rejected, s)
    | some command =>
        if command.attackerId ≠ session.playerId then (.rejected, s)
        else
          let fire := { command with receivedAt := now }
          let queued := s.combatSimulation.enqueueFire fire
          (.fire fire queued.1, { s with combatSimulation := queued.2 }.hear peerToken now)

def receivePickup (s : MainLoop F) (peerToken : PeerToken) (session : SessionView)
    (command : Option TreasurePickupCommand) (now : TimePoint) : PacketOutcome F × MainLoop F :=
  if (s.matchLifecycleSimulation.state s.tickInterval).phase ≠ .inMatch then
    (.rejected, s.hear peerToken now)
  else
    match command with
    | none => (.rejected, s)
    | some command =>
        if command.playerId ≠ session.playerId then (.rejected, s)
        else
          let pickup := { command with receivedAt := now }
          let queued := s.inventoryLootSimulation.enqueuePickup pickup
          (.pickup pickup queued.1,
            { s with inventoryLootSimulation := queued.2 }.hear peerToken now)

def receiveMessage (s : MainLoop F) (peerToken : PeerToken) (session : SessionView)
    (message : Message F) (now : TimePoint) : PacketOutcome F × MainLoop F :=
  match message with
  | .heartbeat playerId =>
      if playerId = some session.playerId then (.heard, s.hear peerToken now) else (.rejected, s)
  | .playerInput command => s.receiveInput peerToken session command now
  | .blockUpdate playerId command => s.receiveBlockUpdate peerToken session playerId command now
  | .weaponFire command => s.receiveFire peerToken session command now
  | .treasurePickup command => s.receivePickup peerToken session command now
  | .other => (.heard, s.hear peerToken now)

def receive (s : MainLoop F) (peerToken : PeerToken) (packet : Packet F) (now : TimePoint) :
    PacketOutcome F × MainLoop F :=
  match packet with
  | .joinRequest playerName =>
      let joined := s.receiveJoin peerToken playerName now
      (.join joined.1, joined.2)
  | .message message =>
      match s.sessionManager.sessionForPeer peerToken with
      | none => (.rejected, s)
      | some session => s.receiveMessage peerToken session message now

def disconnect (s : MainLoop F) (peerToken : PeerToken) : Option SessionView × MainLoop F :=
  let left := s.sessionManager.handleDisconnect peerToken
  let forgotten :=
    { s with sessionManager := left.2, peersByToken := s.peersByToken.erase peerToken }
  match left.1 with
  | some session => (some session, forgotten.removePlayer session.playerId)
  | none => (none, forgotten)

/-- The body of the loop over the sessions that have timed out. -/
def evict (s : MainLoop F) (session : SessionView) : MainLoop F :=
  let removed := s.removePlayer session.playerId
  { removed with peersByToken := removed.peersByToken.erase session.peerToken }

def timeOut (s : MainLoop F) (now : TimePoint) : List SessionView × MainLoop F :=
  let collected := s.sessionManager.collectTimedOut now
  (collected.1, collected.1.foldl evict { s with sessionManager := collected.2 })

def advance (s : MainLoop F) (now : TimePoint) : MainLoop F :=
  let due := s.authoritativeLoop.advance now
  { s with authoritativeLoop := due.2, tickFrames := due.1 }

/-- Where the snapshot of a tick places a player; one without a state is at the origin. -/
def snapshotPosition (s : MainLoop F) (movementStates : List (PlayerMotionState F))
    (playerId : Nat) : F × F :=
  match (movementStates.filter fun state => state.playerId == playerId).getLast? with
  | some state =>
      if playerId < s.sessionManager.capacity + 1 then (state.positionX, state.positionY)
      else (ofRat 0, ofRat 0)
  | none => (ofRat 0, ofRat 0)

/-- The world updates of a snapshot, for the sessions whose peer is connected. -/
def sendUpdates (s : MainLoop F) (movementStates : List (PlayerMotionState F)) :
    List SessionView → WorldReplication → List PlayerWorldUpdate × WorldReplication
  | [], replication => ([], replication)
  | session :: rest, replication =>
      if session.peerToken ∈ s.peersByToken then
        let position := s.snapshotPosition movementStates session.playerId
        let built :=
          replication.buildPlayerUpdate session.playerId position.1 position.2 s.world
        let later := s.sendUpdates movementStates rest built.2
        (built.1 :: later.1, later.2)
      else s.sendUpdates movementStates rest replication

/-- The movement of a tick. -/
def movedIn (s : MainLoop F) (frame : TickFrame F) : MovementSimulation F :=
  s.movementSimulation.applyInputs s.tickInterval frame.inputs

/-- The combat of a tick, before anyone respawns. -/
def foughtIn (s : MainLoop F) (frame : TickFrame F) : CombatTickResult × CombatSimulation F :=
  (s.combatSimulation.setPlayerPositions (s.movedIn frame).snapshot).resolveTick frame.tick
    s.tickInterval

def lootedIn (s : MainLoop F) (frame : TickFrame F) :
    InventoryLootTickResult F × InventoryLootSimulation F :=
  s.inventoryLootSimulation.resolveTick frame.tick (s.movedIn frame).snapshot
    (s.foughtIn frame).2.snapshot (s.foughtIn frame).1.deathEvents

def playedIn (s : MainLoop F) (frame : TickFrame F) :
    MatchLifecycleTickResult × MatchLifecycleSimulation :=
  s.matchLifecycleSimulation.resolveTick frame.tick s.tickInterval
    (s.sessionManager.activeSessions.map SessionView.playerId) (s.foughtIn frame).2.snapshot
    (s.foughtIn frame).1.deathEvents (s.lootedIn frame).2.inventorySnapshot

/-- The combat once the players of the match have respawned. -/
def respawnedIn (s : MainLoop F) (frame : TickFrame F) : CombatSimulation F :=
  (s.playedIn frame).1.respawnedPlayers.foldl CombatSimulation.respawnPlayer (s.foughtIn frame).2

/-- The body of the loop over the frames that are due. -/
def runFrame (s : MainLoop F) (frame : TickFrame F) : ServerTick F × MainLoop F :=
  let sent :=
    if frame.snapshotDue then
      s.sendUpdates (s.movedIn frame).snapshot s.sessionManager.activeSessions s.worldReplication
    else ([], s.worldReplication)
  ({ frame
     combat := (s.foughtIn frame).1
     inventory := (s.lootedIn frame).1
     lifecycle := (s.playedIn frame).1
     updates := sent.1 },
    { s with
      movementSimulation := s.movedIn frame
      worldReplication := sent.2
      combatSimulation := s.respawnedIn frame
      inventoryLootSimulation := (s.lootedIn frame).2
      matchLifecycleSimulation := (s.playedIn frame).2 })

/-- The two tables whose order of iteration shows: sessions time out in it, and the ray of a
shot visits the players in it. -/
structure Reordered (s s' : MainLoop F) : Prop where
  sessions : s.sessionManager.SameTables s'.sessionManager
  players : s.combatSimulation.playersById.SameContents s'.combatSimulation.playersById
  rest : s' =
    { s with
      sessionManager := s'.sessionManager
      combatSimulation :=
        { s.combatSimulation with playersById := s'.combatSimulation.playersById } }

inductive LoopEvent (F : Type) [SingleFloat F] where
  | connected (peerToken : PeerToken)
  | received (peerToken : PeerToken) (packet : Packet F) (outcome : PacketOutcome F)
  | disconnected (peerToken : PeerToken) (session : Option SessionView)
  | timedOut (sessions : List SessionView)
  | advanced
  | ticked (record : ServerTick F)
  | reordered

/-- One step of the loop. The frames that `advance` returns are run before anything else
happens; the other steps come in any order. -/
inductive LoopStep : MainLoop F → LoopEvent F → MainLoop F → Prop where
  | connect (s : MainLoop F) (peerToken : PeerToken) (hIdle : s.tickFrames = []) :
      LoopStep s (.connected peerToken)
        { s with peersByToken := insert peerToken s.peersByToken }
  | receive (s : MainLoop F) (peerToken : PeerToken) (packet : Packet F) (now : TimePoint)
      (hIdle : s.tickFrames = []) (hToken : peerToken ≠ 0) :
      LoopStep s (.received peerToken packet (s.receive peerToken packet now).1)
        (s.receive peerToken packet now).2
  | disconnect (s : MainLoop F) (peerToken : PeerToken) (hIdle : s.tickFrames = []) :
      LoopStep s (.disconnected peerToken (s.disconnect peerToken).1) (s.disconnect peerToken).2
  | timeOut (s : MainLoop F) (now : TimePoint) (hIdle : s.tickFrames = []) :
      LoopStep s (.timedOut (s.timeOut now).1) (s.timeOut now).2
  | advance (s : MainLoop F) (now : TimePoint) (hIdle : s.tickFrames = []) :
      LoopStep s .advanced (s.advance now)
  | tick (s : MainLoop F) (frame : TickFrame F) (rest : List (TickFrame F))
      (hFrames : s.tickFrames = frame :: rest) :
      LoopStep s (.ticked (s.runFrame frame).1)
        { (s.runFrame frame).2 with tickFrames := rest }
  | reorder (s s' : MainLoop F) (hSame : s.Reordered s') : LoopStep s .reordered s'

/-- Run the next frame that is due. -/
def tickNext (s : MainLoop F) : MainLoop F :=
  match s.tickFrames with
  | [] => s
  | frame :: rest => { (s.runFrame frame).2 with tickFrames := rest }

theorem step_tickNext {s : MainLoop F} (hDue : s.tickFrames.isEmpty = false) :
    ∃ record, LoopStep s (.ticked record) s.tickNext := by
  unfold tickNext
  cases hFrames : s.tickFrames with
  | nil =>
      rw [hFrames] at hDue
      cases hDue
  | cons frame rest => exact ⟨_, .tick s frame rest hFrames⟩

end MainLoop

end DevyFps.Server
