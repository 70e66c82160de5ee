import DevyFps.Server.PacketHandling
import DevyFps.Server.BlockEdits

/-! Who acts in whose name. Along every run of the loop over the bytes that peers send, a
command that is queued or applied bears the player id of the session of its sender. -/

namespace DevyFps.Server.MainLoop

open Foundations CommandQueues Net

variable {F : Type} [SingleFloat F]

inductive WireEvent (F : Type) [SingleFloat F] where
  | data (peerToken : PeerToken) (data : Bytes) (outcome : PacketOutcome F)
  | loop (event : LoopEvent F)

/-- One step of the loop over the wire: bytes of a peer arrive, or anything else happens. -/
inductive WireStep (parse : Bytes → Option (Document F)) :
    MainLoop F → WireEvent F → MainLoop F → Prop where
  | receive {s t : MainLoop F} {outcome : PacketOutcome F} (peerToken : PeerToken) (data : Bytes)
      (now : TimePoint) (hIdle : s.tickFrames = []) (hToken : peerToken ≠ 0)
      (hHandled : s.receiveData parse peerToken data now = .ok (outcome, t)) :
      WireStep parse s (.data peerToken data outcome) t
  | other {s t : MainLoop F} {event : LoopEvent F} (hStep : LoopStep s event t)
      (hOther : ∀ peerToken packet outcome, event ≠ .received peerToken packet outcome) :
      WireStep parse s (.loop event) t

/-- The event is a packet of a peer whose session has the player id. -/
def SentBy (s : MainLoop F) (event : WireEvent F) (playerId : Nat) : Prop :=
  ∃ peerToken data outcome session, event = .data peerToken data outcome ∧
    s.sessionManager.sessionForPeer peerToken = some session ∧ session.playerId = playerId

/-- What no impersonation means for one step. -/
structure Honest (parse : Bytes → Option (Document F)) (s : MainLoop F) (event : WireEvent F)
    (t : MainLoop F) : Prop where
  inputs : Shrinks s.authoritativeLoop.inputQueuesByPlayer
      t.authoritativeLoop.inputQueuesByPlayer ∨
    ∃ input : PlayerInputCommand F, s.SentBy event input.playerId ∧
      t.authoritativeLoop.inputQueuesByPlayer =
        s.authoritativeLoop.inputQueuesByPlayer.push input.playerId input
  /-- The command that is applied is that of the event, and it names its sender. -/
  blocks : ∀ peerToken data command outcome,
    event = .data peerToken data (.block command outcome) →
      s.SentBy event command.playerId ∧
        (outcome, t.world) = s.blockInteraction.apply command s.world
  world : t.world = s.world ∨
    ∃ peerToken data command outcome, event = .data peerToken data (.block command outcome)
  fires : Shrinks s.combatSimulation.fireQueueByPlayer t.combatSimulation.fireQueueByPlayer ∨
    ∃ fire : FireCommand F, s.SentBy event fire.attackerId ∧
      (s.matchLifecycleSimulation.state s.tickInterval).phase = .inMatch ∧
      t.combatSimulation.fireQueueByPlayer =
        s.combatSimulation.fireQueueByPlayer.push fire.attackerId fire
  pickups : Shrinks s.inventoryLootSimulation.pickupQueueByPlayer
      t.inventoryLootSimulation.pickupQueueByPlayer ∨
    ∃ pickup : TreasurePickupCommand, s.SentBy event pickup.playerId ∧
      (s.matchLifecycleSimulation.state s.tickInterval).phase = .inMatch ∧
      t.inventoryLootSimulation.pickupQueueByPlayer =
        s.inventoryLootSimulation.pickupQueueByPlayer.push pickup.playerId pickup
  strangers : ∀ peerToken data outcome, event = .data peerToken data outcome →
    s.sessionManager.sessionForPeer peerToken = none →
    (∀ packet, tryDeserialize parse data = .ok packet → packet.type ≠ .joinRequest) → t = s

/-- Nothing is queued and no block is changed. -/
structure Quiet (s t : MainLoop F) : Prop where
  inputs : Shrinks s.authoritativeLoop.inputQueuesByPlayer t.authoritativeLoop.inputQueuesByPlayer
  fires : Shrinks s.combatSimulation.fireQueueByPlayer t.combatSimulation.fireQueueByPlayer
  pickups : Shrinks s.inventoryLootSimulation.pickupQueueByPlayer
    t.inventoryLootSimulation.pickupQueueByPlayer
  world : t.world = s.world

theorem Quiet.refl (s : MainLoop F) : Quiet s s := ⟨.refl _, .refl _, .refl _, rfl⟩

/-- A quiet step after a quiet step. -/
theorem Quiet.trans {s t u : MainLoop F} (h : Quiet s t) (h' : Quiet t u) : Quiet s u :=
  ⟨h.inputs.trans h'.inputs, h.fires.trans h'.fires, h.pickups.trans h'.pickups,
    h'.world.trans h.world⟩

theorem quiet_hear (s : MainLoop F) (peerToken : PeerToken) (now : TimePoint) :
    Quiet s (s.hear peerToken now) :=
  ⟨.refl _, .refl _, .refl _, rfl⟩

/-- Nothing is queued when a player is removed. -/
theorem quiet_removePlayer (s : MainLoop F) (playerId : Nat) : Quiet s (s.removePlayer playerId) where
  inputs := by
    change Shrinks _ (s.authoritativeLoop.clearPlayer playerId).inputQueuesByPlayer
    rw [AuthoritativeLoop.inputQueuesByPlayer_clearPlayer]
    exact shrinks_erase _ playerId
  fires := shrinks_erase _ playerId
  pickups := by
    change Shrinks _ (s.inventoryLootSimulation.removePlayer playerId).pickupQueueByPlayer
    rw [InventoryLootSimulation.removePlayer_queues]
    exact shrinks_erase _ playerId
  world := rfl

/-- A join queues nothing and changes no block. -/
theorem quiet_receiveJoin (s : MainLoop F) (peerToken : PeerToken) (playerName : PlayerName)
    (now : TimePoint) : Quiet s (s.receiveJoin peerToken playerName now).2 := by
  unfold receiveJoin
  dsimp only
  split
  · exact ⟨.refl _, .refl _, .refl _, rfl⟩
  · exact ⟨.refl _, .refl _, .refl _, rfl⟩

theorem quiet_disconnect (s : MainLoop F) (peerToken : PeerToken) :
    Quiet s (s.disconnect peerToken).2 := by
  have hForgotten : Quiet s { s with
      sessionManager := (s.sessionManager.handleDisconnect peerToken).2
      peersByToken := s.peersByToken.erase peerToken } :=
    ⟨.refl _, .refl _, .refl _, rfl⟩
  unfold disconnect
  dsimp only
  split
  · exact hForgotten.trans (quiet_removePlayer _ _)
  · exact hForgotten

theorem quiet_evictAll (sessions : List SessionView) (s : MainLoop F) :
    Quiet s (sessions.foldl evict s) := by
  induction sessions generalizing s with
  | nil => exact .refl s
  | cons session rest ih =>
      have hEvicted : Quiet (s.removePlayer session.playerId) (s.evict session) :=
        ⟨.refl _, .refl _, .refl _, rfl⟩
      exact ((s.quiet_removePlayer session.playerId).trans hEvicted).trans (ih _)

/-- Nor does a time-out. -/
theorem quiet_timeOut (s : MainLoop F) (now : TimePoint) : Quiet s (s.timeOut now).2 := by
  have hCollected : Quiet s
      { s with sessionManager := (s.sessionManager.collectTimedOut now).2 } :=
    ⟨.refl _, .refl _, .refl _, rfl⟩
  exact hCollected.trans (quiet_evictAll _ _)

/-- The frames that become due only take inputs away. -/
theorem quiet_advance (s : MainLoop F) (now : TimePoint) : Quiet s (s.advance now) where
  inputs := by
    have hFrames : ∀ (count : Nat) (loop : AuthoritativeLoop F),
        Shrinks loop.inputQueuesByPlayer (loop.cutFrames count).2.inputQueuesByPlayer := by
      intro count
      induction count with
      | zero => exact fun loop => .refl _
      | succ count ih =>
          intro loop
          exact (shrinks_drain loop.inputQueuesByPlayer).trans (ih loop.cutFrame.2)
    exact hFrames _ s.authoritativeLoop
  fires := .refl _
  pickups := .refl _
  world := rfl

/-- The queues of the combat after a tick. -/
theorem fires_respawnedIn (s : MainLoop F) (frame : TickFrame F) :
    (s.respawnedIn frame).fireQueueByPlayer = s.combatSimulation.fireQueueByPlayer.drain.2 := by
  have hRespawns : ∀ (ids : List Nat) (combat : CombatSimulation F),
      (ids.foldl CombatSimulation.respawnPlayer combat).fireQueueByPlayer =
        combat.fireQueueByPlayer := by
    intro ids
    induction ids with
    | nil => exact fun combat => rfl
    | cons head rest ih => exact fun combat => ih (combat.respawnPlayer head)
  have hPlaced : ∀ (states : List (PlayerMotionState F)) (combat : CombatSimulation F),
      (combat.setPlayerPositions states).fireQueueByPlayer = combat.fireQueueByPlayer := by
    intro states
    induction states with
    | nil => exact fun combat => rfl
    | cons head rest ih =>
        intro combat
        refine (ih _).trans ?_
        unfold CombatSimulation.setPlayerPosition
        dsimp only
        split
        · rfl
        · rfl
  obtain ⟨launched, hLaunched⟩ := CombatSimulation.launches_resolveTick
    (s.combatSimulation.setPlayerPositions (s.movedIn frame).snapshot) frame.tick s.tickInterval
  unfold respawnedIn
  rw [hRespawns]
  unfold foughtIn
  rw [hLaunched.queues, hPlaced]

/-- A tick takes commands out of the queues and leaves the blocks alone. -/
theorem Cast.quiet_tick {s : MainLoop F} (h : s.Cast) (frame : TickFrame F)
    (rest : List (TickFrame F)) :
    Quiet s { (s.runFrame frame).2 with tickFrames := rest } := by
  have hTicked := s.ticked_runFrame frame rest
  refine ⟨?_, ?_, ?_, rfl⟩
  · rw [hTicked.authoritativeLoop]
    exact .refl _
  · rw [hTicked.combatSimulation, fires_respawnedIn]
    exact shrinks_drain _
  · rw [hTicked.inventoryLootSimulation]
    unfold lootedIn
    obtain ⟨hAnswered, -⟩ := h.pickups.resolveTick frame.tick (s.movedIn frame).snapshot
      (s.foughtIn frame).2.snapshot (s.foughtIn frame).1.deathEvents
    rw [hAnswered.leaves.queues, (InventoryLootSimulation.drained_queues _).2,
      (s.inventoryLootSimulation.leavesPickups_looted _ _ _ _).queues]
    exact shrinks_drain _

/-- Whatever is not a packet queues nothing. -/
theorem Cast.quiet_step {s t : MainLoop F} {event : LoopEvent F} (h : s.Cast)
    (hStep : LoopStep s event t)
    (hOther : ∀ peerToken packet outcome, event ≠ .received peerToken packet outcome) :
    Quiet s t := by
  cases hStep with
  | connect peerToken hIdle => exact ⟨.refl _, .refl _, .refl _, rfl⟩
  | receive peerToken packet now hIdle hToken => exact absurd rfl (hOther _ _ _)
  | disconnect peerToken hIdle => exact s.quiet_disconnect peerToken
  | timeOut now hIdle => exact s.quiet_timeOut now
  | advance now hIdle => exact s.quiet_advance now
  | tick frame rest hFrames => exact h.quiet_tick frame rest
  | reorder _ hSame =>
      rw [hSame.rest]
      exact ⟨.refl _, .refl _, .refl _, rfl⟩

/-- A step that queues nothing, and is not about a block, impersonates nobody. -/
theorem Quiet.honest {parse : Bytes → Option (Document F)} {s t : MainLoop F}
    {event : WireEvent F} (h : Quiet s t)
    (hBlocks : ∀ peerToken data command outcome,
      event ≠ .data peerToken data (.block command outcome))
    (hStrangers : ∀ peerToken data outcome, event = .data peerToken data outcome →
      s.sessionManager.sessionForPeer peerToken = none →
      (∀ packet, tryDeserialize parse data = .ok packet → packet.type ≠ .joinRequest) → t = s) :
    Honest parse s event t :=
  ⟨Or.inl h.inputs, fun _ _ _ _ hEvent => absurd hEvent (hBlocks _ _ _ _), Or.inl h.world,
    Or.inl h.fires, Or.inl h.pickups, hStrangers⟩

/-- The block update that a packet was taken for. -/
def blockUpdateOf : PacketOutcome F → Option (BlockUpdateCommand × BlockUpdateOutcome)
  | .block command outcome => some (command, outcome)
  | _ => none

/-- What is no block update is not the event of one. -/
theorem WireEvent.data_ne_block {outcome : PacketOutcome F} (h : blockUpdateOf outcome = none)
    (peerToken : PeerToken) (data : Bytes) (peer : PeerToken) (bytes : Bytes)
    (command : BlockUpdateCommand) (answer : BlockUpdateOutcome) :
    WireEvent.data peerToken data outcome ≠ .data peer bytes (.block command answer) := by
  intro hEvent
  injection hEvent with _ _ hOutcome
  rw [hOutcome] at h
  cases h

/-- A packet of a peer with a session. -/
theorem Served.honest {parse : Bytes → Option (Document F)} {s t : MainLoop F}
    {peerToken : PeerToken} {session : SessionView} {now : TimePoint} {outcome : PacketOutcome F}
    (hSession : s.sessionManager.sessionForPeer peerToken = some session)
    (h : s.Served peerToken session now outcome t) (data : Bytes) :
    Honest parse s (.data peerToken data outcome) t := by
  have hStrangers : ∀ peer bytes answer,
      WireEvent.data peerToken data outcome = .data peer bytes answer →
      s.sessionManager.sessionForPeer peer = none →
      (∀ packet, tryDeserialize parse bytes = .ok packet → packet.type ≠ .joinRequest) →
        t = s := by
    intro peer bytes answer hEvent hNone
    injection hEvent with hPeer
    rw [← hPeer, hSession] at hNone
    cases hNone
  have hSent : ∀ {playerId : Nat}, playerId = session.playerId →
      s.SentBy (.data peerToken data outcome) playerId :=
    fun hId => ⟨peerToken, data, outcome, session, rfl, hSession, hId.symm⟩
  have hOthers : blockUpdateOf outcome = none → ∀ peer bytes command answer,
      WireEvent.data peerToken data outcome = .data peer bytes (.block command answer) →
      s.SentBy (.data peerToken data outcome) command.playerId ∧
        (answer, t.world) = s.blockInteraction.apply command s.world :=
    fun hNone _ _ _ _ hEvent => absurd hEvent (WireEvent.data_ne_block hNone _ _ _ _ _ _)
  cases h with
  | refused => exact (Quiet.refl s).honest (WireEvent.data_ne_block rfl _ _) hStrangers
  | late => exact (s.quiet_hear peerToken now).honest (WireEvent.data_ne_block rfl _ _) hStrangers
  | heard => exact (s.quiet_hear peerToken now).honest (WireEvent.data_ne_block rfl _ _) hStrangers
  | input command hId =>
      refine ⟨?_, hOthers rfl, Or.inl rfl, Or.inl (.refl _), Or.inl (.refl _), hStrangers⟩
      rcases s.authoritativeLoop.enqueueInput_cases command with
        ⟨-, hState⟩ | ⟨-, -, -, -, hState⟩
      · left
        change Shrinks _ (s.authoritativeLoop.enqueueInput command).2.inputQueuesByPlayer
        rw [hState]
        exact .refl _
      · refine Or.inr ⟨command, hSent hId, ?_⟩
        change (s.authoritativeLoop.enqueueInput command).2.inputQueuesByPlayer = _
        rw [hState]
  | block command replication hId =>
      refine ⟨Or.inl (.refl _), ?_, Or.inr ⟨_, _, _, _, rfl⟩, Or.inl (.refl _), Or.inl (.refl _),
        hStrangers⟩
      intro peer bytes applied answer hEvent
      injection hEvent with _ _ hOutcome
      injection hOutcome with hCommand hAnswer
      rw [← hCommand, ← hAnswer]
      exact ⟨hSent hId, rfl⟩
  | fire command hPhase hId =>
      refine ⟨Or.inl (.refl _), hOthers rfl, Or.inl rfl, ?_,
        Or.inl (.refl _), hStrangers⟩
      rcases s.combatSimulation.enqueueFire_cases command with ⟨-, hState⟩ | ⟨-, hState⟩
      · left
        change Shrinks _ (s.combatSimulation.enqueueFire command).2.fireQueueByPlayer
        rw [hState]
        exact .refl _
      · refine Or.inr ⟨{ command with weaponId := Bytes.lowercase command.weaponId }, hSent hId,
          hPhase, ?_⟩
        change (s.combatSimulation.enqueueFire command).2.fireQueueByPlayer = _
        rw [hState]
        rfl
  | pickup command hPhase hId =>
      refine ⟨Or.inl (.refl _), hOthers rfl, Or.inl rfl, Or.inl (.refl _),
        ?_, hStrangers⟩
      rcases s.inventoryLootSimulation.enqueuePickup_cases command with
        ⟨-, hState⟩ | ⟨-, -, -, state, -, hState⟩
      · left
        change Shrinks _ (s.inventoryLootSimulation.enqueuePickup command).2.pickupQueueByPlayer
        rw [hState]
        exact .refl _
      · refine Or.inr ⟨command, hSent hId, hPhase, ?_⟩
        change (s.inventoryLootSimulation.enqueuePickup command).2.pickupQueueByPlayer = _
        rw [hState]

/-- What bytes do: nothing, or what the packet does that they stand for. -/
theorem receiveData_eq (parse : Bytes → Option (Document F)) (s : MainLoop F)
    (peerToken : PeerToken) (data : Bytes) (now : TimePoint) :
    s.receiveData parse peerToken data now = .ok
      (match tryDeserialize parse data with
      | .error _ => (.rejected, s)
      | .ok packet => s.receive peerToken (readPacket packet) now) := by
  unfold receiveData
  cases hPacket : tryDeserialize parse data with
  | error failure => rfl
  | ok packet => exact s.receivePacket_eq peerToken now (meetsItsSchema_of_accepted hPacket)

/-- Only join requests are read as such. -/
theorem readPacket_message {packet : Net.Packet (SingleFloat.Double F)}
    (h : packet.type ≠ .joinRequest) : ∃ message, readPacket packet = .message message := by
  unfold readPacket
  cases hType : packet.type with
  | joinRequest => exact absurd hType h
  | _ => exact ⟨_, rfl⟩

/-- A join request is read as one, whatever its name. -/
theorem readPacket_join {packet : Net.Packet (SingleFloat.Double F)}
    (h : packet.type = .joinRequest) :
    ∃ playerName, readPacket packet = .joinRequest playerName := by
  unfold readPacket
  rw [h]
  exact ⟨_, rfl⟩

/-- What the handler does with a packet is in the name of the session of its peer, one case for
each kind of message. -/
theorem honest_receive {parse : Bytes → Option (Document F)} {s t : MainLoop F}
    {outcome : PacketOutcome F} {peerToken : PeerToken} {data : Bytes} {now : TimePoint}
    (hHandled : s.receiveData parse peerToken data now = .ok (outcome, t)) :
    Honest parse s (.data peerToken data outcome) t := by
  rw [receiveData_eq] at hHandled
  cases hPacket : tryDeserialize parse data with
  | error failure =>
      rw [hPacket] at hHandled
      cases hHandled
      exact (Quiet.refl s).honest (WireEvent.data_ne_block rfl _ _) fun _ _ _ _ _ _ => rfl
  | ok packet =>
      rw [hPacket] at hHandled
      dsimp only at hHandled
      by_cases hJoin : packet.type = .joinRequest
      · obtain ⟨playerName, hRead⟩ := readPacket_join hJoin
        rw [hRead] at hHandled
        cases hHandled
        refine (s.quiet_receiveJoin peerToken playerName now).honest
          (WireEvent.data_ne_block rfl _ _) ?_
        intro peer bytes answer hEvent _ hNot
        injection hEvent with _ hData
        exact absurd hJoin (hNot packet (hData ▸ hPacket))
      · obtain ⟨message, hRead⟩ := readPacket_message hJoin
        rw [hRead] at hHandled
        unfold receive at hHandled
        dsimp only at hHandled
        cases hSession : s.sessionManager.sessionForPeer peerToken with
        | none =>
            rw [hSession] at hHandled
            cases hHandled
            exact (Quiet.refl s).honest (WireEvent.data_ne_block rfl _ _) fun _ _ _ _ _ _ => rfl
        | some session =>
            rw [hSession] at hHandled
            have hAnswer := Except.ok.inj hHandled
            have hServed := s.served_receiveMessage peerToken session message now
            dsimp only at hAnswer
            rw [hAnswer] at hServed
            exact hServed.honest hSession data

/-- A step over the wire is one of the loop, or the loss of a packet. -/
theorem WireStep.loopStep {parse : Bytes → Option (Document F)} {s t : MainLoop F}
    {event : WireEvent F} (hStep : WireStep parse s event t) :
    t = s ∨ ∃ event, LoopStep s event t := by
  cases hStep with
  | receive peerToken data now hIdle hToken hHandled =>
      rw [receiveData_eq] at hHandled
      cases hPacket : tryDeserialize parse data with
      | error failure =>
          rw [hPacket] at hHandled
          cases hHandled
          exact Or.inl rfl
      | ok packet =>
          rw [hPacket] at hHandled
          have hBoth := Except.ok.inj hHandled
          dsimp only at hBoth
          have hState : t = (s.receive peerToken (readPacket packet) now).2 := by rw [hBoth]
          rw [hState]
          exact Or.inr ⟨_, .receive s peerToken (readPacket packet) now hIdle hToken⟩
  | other hLoop hOther => exact Or.inr ⟨_, hLoop⟩

/-- The cast holds over steps on the wire as well. -/
theorem Cast.wireStep {parse : Bytes → Option (Document F)} {s t : MainLoop F}
    {event : WireEvent F} (h : s.Cast) (hStep : WireStep parse s event t) : t.Cast := by
  rcases hStep.loopStep with rfl | ⟨event, hLoop⟩
  · exact h
  · exact h.run (run_step h.tables hLoop)

/-- In every run every step is honest. -/
theorem no_impersonation {parse : Bytes → Option (Document F)} {setup : ServerSetup F}
    {trace : List (WireEvent F)} {s : MainLoop F}
    (run : Run (WireStep parse) (create setup) trace s) :
    Run (fun s event t => WireStep parse s event t ∧ Honest parse s event t) (create setup)
      trace s := by
  suffices hBoth : s.Cast ∧
      Run (fun s event t => WireStep parse s event t ∧ Honest parse s event t) (create setup)
        trace s from hBoth.2
  induction run with
  | nil => exact ⟨cast_create setup, .nil _⟩
  | snoc prior last ih =>
      obtain ⟨hCast, hHonest⟩ := ih
      refine ⟨hCast.wireStep last, hHonest.snoc ⟨last, ?_⟩⟩
      cases last with
      | receive peerToken data now hIdle hToken hHandled => exact honest_receive hHandled
      | other hStep hOther =>
          refine (hCast.quiet_step hStep hOther).honest (fun _ _ _ _ hEvent => ?_) fun _ _ _ hEvent => ?_
          · cases hEvent
          · cases hEvent

/-- The text of the join request is accepted. -/
theorem tryDeserialize_joinText : tryDeserialize parseKnown joinText = .ok joinPacket :=
  tryDeserialize_eq_ok_iff.mpr ⟨envelope joinPacket, if_pos rfl, readEnvelope_eq_ok_iff.mp rfl⟩

/-- The text of the forged block update is accepted too. -/
theorem tryDeserialize_forgedText : tryDeserialize parseKnown forgedText = .ok (placePacket 2) := by
  refine tryDeserialize_eq_ok_iff.mpr ⟨envelope (placePacket 2), ?_, readEnvelope_eq_ok_iff.mp rfl⟩
  unfold parseKnown
  rw [if_neg (by decide +kernel), if_neg (by decide +kernel), if_pos rfl]

/-- The block of the first player. -/
def placeCommand : BlockUpdateCommand where
  playerId := 1
  worldX := 1
  worldY := 2
  worldZ := 3
  blockId := 1

def placed : BlockUpdateOutcome × Voxel.World ℚ :=
  (create site).blockInteraction.apply placeCommand (create site).world

def siteJoin : JoinResult := ((create site).sessionManager.handleJoinRequest 101 [0x61] 0).1

/-- A block update in the name of the sender is applied as it stands. -/
theorem receive_ownBlock {s : MainLoop F} {peerToken : PeerToken} {session : SessionView}
    (hSession : s.sessionManager.sessionForPeer peerToken = some session)
    (command : BlockUpdateCommand) (now : TimePoint) :
    (s.receive peerToken
        (.message (.blockUpdate (some (some session.playerId)) (some command))) now).1 =
      .block { command with playerId := session.playerId }
        (s.blockInteraction.apply { command with playerId := session.playerId } s.world).1 ∧
    (s.receive peerToken
        (.message (.blockUpdate (some (some session.playerId)) (some command))) now).2.world =
      (s.blockInteraction.apply { command with playerId := session.playerId } s.world).2 := by
  unfold receive receiveMessage receiveBlockUpdate
  dsimp only
  rw [hSession]
  dsimp only [Option.getD_some]
  rw [if_neg (fun hOther => hOther rfl)]
  exact ⟨rfl, rfl⟩

/-- The server takes the block update of the first player for its own. -/
theorem receive_place :
    (siteSeated.receive 101 (readPacket (placePacket 1)) 0).1 = .block placeCommand placed.1 ∧
      (siteSeated.receive 101 (readPacket (placePacket 1)) 0).2.world = placed.2 := by
  have hRead : readPacket (F := ℚ) (placePacket 1) =
      .message (.blockUpdate (some (some 1)) (some { placeCommand with playerId := 0 })) := rfl
  have hSession : siteSeated.sessionManager.sessionForPeer 101 = some siteJoin.session := by
    decide
  have hId : siteJoin.session.playerId = 1 := by decide
  have hWorld : siteSeated.world = (create site).world := rfl
  have hBlocks : siteSeated.blockInteraction = (create site).blockInteraction := rfl
  have hTaken := receive_ownBlock hSession { placeCommand with playerId := 0 } 0
  rw [hId, hWorld, hBlocks] at hTaken
  rw [hRead]
  exact hTaken

/-- There is air at the place of the block, so it is placed. -/
theorem placed_applied : placed.1.status = .applied := by
  have hAir : blockOf (create site).world placeCommand.position =
      some kAirBlockId := congrArg some (Voxel.Chunk.get_new 1 2 3)
  have hValid : (create site).blockInteraction.isValidBlockId placeCommand.blockId = true := by
    decide
  unfold placed
  rw [(BlockInteraction.apply_of_valid hValid hAir).2]
  exact ⟨fun _ => by decide, fun _ => rfl⟩

/-- The first player joins and fails to place a block in the name of another one; in its own name
it succeeds. -/
theorem no_impersonation_place :
    ∃ t : MainLoop ℚ,
      Run (fun s event t => WireStep parseKnown s event t ∧ Honest parseKnown s event t)
        (create site)
        [.data 101 joinText (.join siteJoin), .data 101 forgedText .rejected,
          .data 101 placeText (.block placeCommand placed.1)] t ∧
      siteSeated.SentBy (.data 101 placeText (.block placeCommand placed.1)) 1 ∧
      placed.1.status = .applied ∧ t.world = placed.2 := by
  have hJoin : WireStep parseKnown (create site) (.data 101 joinText (.join siteJoin))
      siteSeated := by
    refine .receive 101 joinText 0 rfl (by decide) ?_
    rw [receiveData_eq, tryDeserialize_joinText]
    rfl
  have hForged : WireStep parseKnown siteSeated (.data 101 forgedText .rejected) siteSeated := by
    refine .receive 101 forgedText 0 rfl (by decide) ?_
    rw [receiveData_eq, tryDeserialize_forgedText]
    rfl
  have hPlaced : WireStep parseKnown siteSeated
      (.data 101 placeText (.block placeCommand placed.1))
      (siteSeated.receive 101 (readPacket (placePacket 1)) 0).2 := by
    refine .receive 101 placeText 0 rfl (by decide) ?_
    rw [receiveData_eq, tryDeserialize_placeText]
    exact congrArg Except.ok (Prod.ext receive_place.1 rfl)
  refine ⟨_, no_impersonation (((Run.single hJoin).snoc hForged).snoc hPlaced), ?_,
    placed_applied, receive_place.2⟩
  exact ⟨101, placeText, _, siteJoin.session, rfl, by decide, by decide⟩

end DevyFps.Server.MainLoop
