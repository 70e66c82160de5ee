import DevyFps.Server.MainLoop
import DevyFps.Server.Seats

/-! The loop as a sequence of deeds: a player is seated, leaves or sends a command, frames
are cut, a tick is run. Every step of the loop is a run of such deeds, so that a fact about
the loop is proved one deed at a time. -/

namespace DevyFps.Server

open Foundations

inductive Deed (F : Type) [SingleFloat F] where
  | idled
  | seated (peerToken : PeerToken) (playerId : Nat)
  | rejoined (peerToken : PeerToken) (playerId : Nat)
  | left (peerToken : PeerToken) (playerId : Nat)
  | input (peerToken : PeerToken) (command : PlayerInputCommand F) (status : InputEnqueueStatus)
  | fire (peerToken : PeerToken) (command : FireCommand F) (status : FireEnqueueStatus)
  | pickup (peerToken : PeerToken) (command : TreasurePickupCommand)
      (status : TreasurePickupEnqueueStatus)
  | advanced
  | ticked (record : ServerTick F)

namespace MainLoop

variable {F : Type} [SingleFloat F]

/-- Nothing happens to the players: heartbeats, connections, blocks and the order in which
tables are iterated may change. -/
structure Idles (s t : MainLoop F) : Prop where
  tables : s.sessionManager.TablesAgree → t.sessionManager.TablesAgree
  seats : ∀ peer, t.sessionManager.seat peer = s.sessionManager.seat peer
  names : s.sessionManager.slotByPlayerName.SameContents t.sessionManager.slotByPlayerName
  authoritativeLoop : t.authoritativeLoop = s.authoritativeLoop
  movementSimulation : t.movementSimulation = s.movementSimulation
  players : s.combatSimulation.playersById.SameContents t.combatSimulation.playersById
  combatRest : t.combatSimulation =
    { s.combatSimulation with playersById := t.combatSimulation.playersById }
  inventoryLootSimulation : t.inventoryLootSimulation = s.inventoryLootSimulation
  matchLifecycleSimulation : t.matchLifecycleSimulation = s.matchLifecycleSimulation
  tickFrames : t.tickFrames = s.tickFrames

theorem Idles.refl (s : MainLoop F) : Idles s s :=
  ⟨id, fun _ => rfl, .refl _, rfl, rfl, .refl _, rfl, rfl, rfl, rfl⟩

/-- A session that ends, with all that is kept for its player. -/
def leave (s : MainLoop F) (peerToken : PeerToken) (playerId : Nat) : MainLoop F :=
  { s with
    sessionManager := (s.sessionManager.handleDisconnect peerToken).2
    peersByToken := s.peersByToken.erase peerToken }.removePlayer playerId

inductive DeedStep : MainLoop F → Deed F → MainLoop F → Prop where
  | idle {s t : MainLoop F} (h : Idles s t) : DeedStep s .idled t
  | seat (s : MainLoop F) (peerToken : PeerToken) (playerName : PlayerName) (now : TimePoint)
      (playerId : Nat) (status : JoinStatus) (hToken : peerToken ≠ 0)
      (hNew : s.sessionManager.seat peerToken = none) (hFree : ¬ s.sessionManager.Seated playerId)
      (hSlot : s.sessionManager.chooseSlot playerName = .ok (status, playerId))
      (hSeats : ∀ peer,
        (s.sessionManager.handleJoinRequest peerToken playerName now).2.seat peer =
          if peer = peerToken then some playerId else s.sessionManager.seat peer) :
      DeedStep s (.seated peerToken playerId)
        ({ s with sessionManager :=
            (s.sessionManager.handleJoinRequest peerToken playerName now).2 }.ensurePlayer playerId)
  | rejoin (s : MainLoop F) (peerToken : PeerToken) (playerId : Nat)
      (hSeat : s.sessionManager.seat peerToken = some playerId) :
      DeedStep s (.rejoined peerToken playerId) (s.ensurePlayer playerId)
  | leave (s : MainLoop F) (peerToken : PeerToken) (playerId : Nat) (hIdle : s.tickFrames = [])
      (hSeat : s.sessionManager.seat peerToken = some playerId) :
      DeedStep s (.left peerToken playerId) (s.leave peerToken playerId)
  | input (s : MainLoop F) (peerToken : PeerToken) (command : PlayerInputCommand F)
      (hSeat : s.sessionManager.seat peerToken = some command.playerId) :
      DeedStep s (.input peerToken command (s.authoritativeLoop.enqueueInput command).1)
        { s with authoritativeLoop := (s.authoritativeLoop.enqueueInput command).2 }
  | fire (s : MainLoop F) (peerToken : PeerToken) (command : FireCommand F)
      (hPhase : s.matchLifecycleSimulation.phase = .inMatch)
      (hSeat : s.sessionManager.seat peerToken = some command.attackerId) :
      DeedStep s (.fire peerToken command (s.combatSimulation.enqueueFire command).1)
        { s with combatSimulation := (s.combatSimulation.enqueueFire command).2 }
  | pickup (s : MainLoop F) (peerToken : PeerToken) (command : TreasurePickupCommand)
      (hPhase : s.matchLifecycleSimulation.phase = .inMatch)
      (hSeat : s.sessionManager.seat peerToken = some command.playerId) :
      DeedStep s (.pickup peerToken command (s.inventoryLootSimulation.enqueuePickup command).1)
        { s with
          inventoryLootSimulation := (s.inventoryLootSimulation.enqueuePickup command).2 }
  | advance (s : MainLoop F) (now : TimePoint) (hIdle : s.tickFrames = []) :
      DeedStep s .advanced (s.advance now)
  | tick (s : MainLoop F) (frame : TickFrame F) (rest : List (TickFrame F))
      (hFrames : s.tickFrames = frame :: rest) :
      DeedStep s (.ticked (s.runFrame frame).1) { (s.runFrame frame).2 with tickFrames := rest }

/-- What a tick leaves of the components. -/
structure Ticked (s : MainLoop F) (frame : TickFrame F) (t : MainLoop F) : Prop where
  sessionManager : t.sessionManager = s.sessionManager
  authoritativeLoop : t.authoritativeLoop = s.authoritativeLoop
  movementSimulation : t.movementSimulation = s.movedIn frame
  combatSimulation : t.combatSimulation = s.respawnedIn frame
  inventoryLootSimulation : t.inventoryLootSimulation = (s.lootedIn frame).2
  matchLifecycleSimulation : t.matchLifecycleSimulation = (s.playedIn frame).2

/-- What a tick does to each component. -/
theorem ticked_runFrame (s : MainLoop F) (frame : TickFrame F) (rest : List (TickFrame F)) :
    s.Ticked frame { (s.runFrame frame).2 with tickFrames := rest } := by
  -- `rfl` would run the simulations; the fields agree as they are written
  unfold runFrame
  constructor <;> dsimp only

/-- The deeds of an event of the loop. -/
def deedsOf : LoopEvent F → List (Deed F)
  | .connected _ => [.idled]
  | .received peerToken _ (.join result) =>
      if !result.accepted then [.idled]
      else if result.status = .alreadyJoined then
        [.idled, .rejoined peerToken result.session.playerId]
      else [.seated peerToken result.session.playerId]
  | .received peerToken _ (.input command status) => [.input peerToken command status, .idled]
  | .received peerToken _ (.fire command status) => [.fire peerToken command status, .idled]
  | .received peerToken _ (.pickup command status) => [.pickup peerToken command status, .idled]
  | .received _ _ _ => [.idled]
  | .disconnected peerToken (some session) => [.left peerToken session.playerId]
  | .disconnected _ none => [.idled]
  | .timedOut sessions => sessions.map fun session => .left session.peerToken session.playerId
  | .advanced => [.advanced]
  | .ticked record => [.ticked record]
  | .reordered => [.idled]

theorem idles_hear (s : MainLoop F) (peerToken : PeerToken) (now : TimePoint) :
    Idles s (s.hear peerToken now) :=
  { Idles.refl s with
    tables := fun h => h.step (.heartbeat s.sessionManager peerToken now)
    seats := s.sessionManager.seat_handleHeartbeat peerToken now
    names := by
      change s.sessionManager.slotByPlayerName.SameContents
        (s.sessionManager.handleHeartbeat peerToken now).2.slotByPlayerName
      rw [SessionManager.names_handleHeartbeat]
      exact .refl _ }

/-- To visit tables in another order does nothing. -/
theorem Reordered.idles {s t : MainLoop F} (h : s.Reordered t) : Idles s t where
  tables hTables := hTables.of_sameTables h.sessions
  seats := h.sessions.seat_eq
  names := h.sessions.names
  authoritativeLoop := by rw [h.rest]
  movementSimulation := by rw [h.rest]
  players := h.players
  combatRest := by rw [h.rest]
  inventoryLootSimulation := by rw [h.rest]
  matchLifecycleSimulation := by rw [h.rest]
  tickFrames := by rw [h.rest]

/-- Every deed keeps the tables of the sessions in agreement. -/
theorem DeedStep.tables {s t : MainLoop F} {deed : Deed F} (hStep : DeedStep s deed t)
    (h : s.sessionManager.TablesAgree) : t.sessionManager.TablesAgree := by
  cases hStep with
  | idle hIdles => exact hIdles.tables h
  | seat peerToken playerName now playerId status hToken hNew hFree hSlot hSeats =>
      exact h.handleJoinRequest hToken playerName now
  | rejoin peerToken playerId hSeat => exact h
  | leave peerToken playerId hIdle hSeat => exact h.handleDisconnect peerToken
  | input peerToken command hSeat => exact h
  | fire peerToken command hPhase hSeat => exact h
  | pickup peerToken command hPhase hSeat => exact h
  | advance now hIdle => exact h
  | tick frame rest hFrames => exact h

/-! The steps of the loop, one kind after the other. -/

/-- A join request as deeds: none, a rejoin or a new seat. -/
theorem run_receiveJoin {s : MainLoop F} (hTables : s.sessionManager.TablesAgree)
    {peerToken : PeerToken} (hToken : peerToken ≠ 0) (playerName : PlayerName) (now : TimePoint)
    (packet : Packet F) :
    Run DeedStep s
      (deedsOf (.received peerToken packet (.join (s.receiveJoin peerToken playerName now).1)))
      (s.receiveJoin peerToken playerName now).2 := by
  unfold receiveJoin deedsOf
  dsimp only
  rcases SessionManager.handleJoinRequest_seats hTables peerToken playerName now with
    ⟨hRefused, hSame⟩ | ⟨hAccepted, hStatus, hSeat, hSeats⟩ |
      ⟨hAccepted, hSlot, hNew, hFree, hSeats⟩
  · rw [hRefused, hSame]
    exact Run.single (.idle (.refl s))
  · rw [hAccepted, hStatus]
    have hIdles : Idles s
        { s with sessionManager :=
          (s.sessionManager.handleJoinRequest peerToken playerName now).2 } :=
      { Idles.refl s with
        tables := fun h => h.handleJoinRequest hToken playerName now
        seats := hSeats
        names := by
          dsimp only
          rw [SessionManager.names_alreadyJoined hStatus]
          exact .refl _ }
    exact (Run.single (.idle hIdles)).snoc (.rejoin _ peerToken _ ((hSeats _).trans hSeat))
  · rw [hAccepted]
    have hStatus : (s.sessionManager.handleJoinRequest peerToken playerName now).1.status ≠
        .alreadyJoined := by
      obtain ⟨-, -, -, hReserved⟩ := SessionManager.chooseSlot_ok hSlot
      rcases hReserved with ⟨hStatus, -⟩ | ⟨hStatus, -⟩ <;> rw [hStatus] <;> simp
    rw [if_neg hStatus]
    exact Run.single (.seat s peerToken playerName now _ _ hToken hNew hFree hSlot hSeats)

/-- What becomes of a message of a peer with a session. -/
inductive Served (s : MainLoop F) (peerToken : PeerToken) (session : SessionView)
    (now : TimePoint) : PacketOutcome F → MainLoop F → Prop where
  | refused : Served s peerToken session now .rejected s
  | late : Served s peerToken session now .rejected (s.hear peerToken now)
  | heard : Served s peerToken session now .heard (s.hear peerToken now)
  | input (command : PlayerInputCommand F) (hId : command.playerId = session.playerId) :
      Served s peerToken session now (.input command (s.authoritativeLoop.enqueueInput command).1)
        ({ s with
          authoritativeLoop := (s.authoritativeLoop.enqueueInput command).2 }.hear peerToken now)
  | block (command : BlockUpdateCommand) (replication : WorldReplication)
      (hId : command.playerId = session.playerId) :
      Served s peerToken session now (.block command (s.blockInteraction.apply command s.world).1)
        ({ s with
          world := (s.blockInteraction.apply command s.world).2
          worldReplication := replication }.hear peerToken now)
  | fire (command : FireCommand F) (hPhase : s.matchLifecycleSimulation.phase = .inMatch)
      (hId : command.attackerId = session.playerId) :
      Served s peerToken session now (.fire command (s.combatSimulation.enqueueFire command).1)
        ({ s with
          combatSimulation := (s.combatSimulation.enqueueFire command).2 }.hear peerToken now)
  | pickup (command : TreasurePickupCommand) (hPhase : s.matchLifecycleSimulation.phase = .inMatch)
      (hId : command.playerId = session.playerId) :
      Served s peerToken session now
        (.pickup command (s.inventoryLootSimulation.enqueuePickup command).1)
        ({ s with
          inventoryLootSimulation :=
            (s.inventoryLootSimulation.enqueuePickup command).2 }.hear peerToken now)

/-- What becomes of a message of a session, one case for each kind. -/
theorem served_receiveMessage (s : MainLoop F) (peerToken : PeerToken) (session : SessionView)
    (message : Message F) (now : TimePoint) :
    s.Served peerToken session now (s.receiveMessage peerToken session message now).1
      (s.receiveMessage peerToken session message now).2 := by
  cases message with
  | heartbeat playerId =>
      unfold receiveMessage
      dsimp only
      split
      · exact .heard
      · exact .refused
  | playerInput command =>
      unfold receiveMessage receiveInput
      dsimp only
      split
      · exact .refused
      · rename_i command
        split
        · exact .refused
        · rename_i hId
          exact .input { command with receivedAt := now } (not_not.mp hId)
  | blockUpdate playerId command =>
      unfold receiveMessage receiveBlockUpdate
      dsimp only
      split
      · rename_i playerId command _
        split
        · exact .refused
        · rename_i hId
          exact .block { command with playerId } _ (not_not.mp hId)
      · exact .refused
  | weaponFire command =>
      unfold receiveMessage receiveFire
      dsimp only
      split
      · exact .late
      · rename_i hPhase
        split
        · exact .refused
        · rename_i command
          split
          · exact .refused
          · rename_i hId
            exact .fire { command with receivedAt := now } (not_not.mp hPhase) (not_not.mp hId)
  | treasurePickup command =>
      unfold receiveMessage receivePickup
      dsimp only
      split
      · exact .late
      · rename_i hPhase
        split
        · exact .refused
        · rename_i command
          split
          · exact .refused
          · rename_i hId
            exact .pickup { command with receivedAt := now } (not_not.mp hPhase) (not_not.mp hId)
  | other => exact .heard

/-- The frames that are due wait while packets are handled. -/
theorem tickFrames_receive (s : MainLoop F) (peerToken : PeerToken) (packet : Packet F)
    (now : TimePoint) : (s.receive peerToken packet now).2.tickFrames = s.tickFrames := by
  cases packet with
  | joinRequest playerName =>
      unfold receive receiveJoin
      dsimp only
      split
      · rfl
      · rfl
  | message message =>
      unfold receive
      dsimp only
      split
      · rfl
      · rename_i session _
        have hServed := s.served_receiveMessage peerToken session message now
        generalize s.receiveMessage peerToken session message now = answer at hServed
        obtain ⟨outcome, t⟩ := answer
        dsimp only at hServed ⊢
        cases hServed <;> rfl

/-- A served message as deeds: one command at most. -/
theorem run_served {s t : MainLoop F} {peerToken : PeerToken} {packet : Packet F}
    {session : SessionView} {now : TimePoint} {outcome : PacketOutcome F}
    (hSession : s.sessionManager.sessionForPeer peerToken = some session)
    (h : s.Served peerToken session now outcome t) :
    Run DeedStep s (deedsOf (.received peerToken packet outcome)) t := by
  have hSeat := SessionManager.sessionForPeer_seat hSession
  cases h with
  | refused => exact Run.single (.idle (.refl s))
  | late => exact Run.single (.idle (s.idles_hear peerToken now))
  | heard => exact Run.single (.idle (s.idles_hear peerToken now))
  | input command hId =>
      exact (Run.single (.input s peerToken command (hId ▸ hSeat))).snoc
        (.idle (idles_hear _ peerToken now))
  | block command replication hId =>
      exact Run.single (.idle { idles_hear s peerToken now with })
  | fire command hPhase hId =>
      exact (Run.single (.fire s peerToken command hPhase (hId ▸ hSeat))).snoc
        (.idle (idles_hear _ peerToken now))
  | pickup command hPhase hId =>
      exact (Run.single (.pickup s peerToken command hPhase (hId ▸ hSeat))).snoc
        (.idle (idles_hear _ peerToken now))

/-- A received packet as deeds. -/
theorem run_receive {s : MainLoop F} (hTables : s.sessionManager.TablesAgree)
    {peerToken : PeerToken} (hToken : peerToken ≠ 0) (packet : Packet F) (now : TimePoint) :
    Run DeedStep s (deedsOf (.received peerToken packet (s.receive peerToken packet now).1))
      (s.receive peerToken packet now).2 := by
  cases packet with
  | joinRequest playerName => exact run_receiveJoin hTables hToken playerName now _
  | message message =>
      unfold receive
      dsimp only
      cases hSession : s.sessionManager.sessionForPeer peerToken with
      | none => exact Run.single (.idle (.refl s))
      | some session =>
          exact run_served hSession (s.served_receiveMessage peerToken session message now)

/-- Ending the session of a peer, whether it has one or not. -/
theorem run_disconnect {s : MainLoop F} (hIdle : s.tickFrames = []) (peerToken : PeerToken) :
    Run DeedStep s (deedsOf (.disconnected peerToken (s.disconnect peerToken).1))
      (s.disconnect peerToken).2 := by
  unfold disconnect
  dsimp only
  rw [SessionManager.handleDisconnect_view]
  cases hSession : s.sessionManager.sessionForPeer peerToken with
  | none =>
      refine Run.single (.idle { Idles.refl s with tables := ?_, seats := ?_, names := ?_ })
      · exact fun h => h.handleDisconnect peerToken
      · intro peer
        rw [SessionManager.seat_handleDisconnect]
        split
        · rename_i hPeer
          rw [hPeer]
          unfold SessionManager.seat
          rw [Option.map_eq_none_iff.mp hSession]
          rfl
        · rfl
      · dsimp only
        rw [SessionManager.names_handleDisconnect]
        exact .refl _
  | some session =>
      exact Run.single (.leave s peerToken session.playerId hIdle
        (SessionManager.sessionForPeer_seat hSession))

/-- Ending the sessions first and removing the players afterwards is ending one session
after the other. -/
theorem run_evictAll (evicted : List (PeerToken × SessionRecord))
    (hNodup : (evicted.map Prod.fst).Nodup) (s : MainLoop F) (hIdle : s.tickFrames = [])
    (hFind : ∀ item ∈ evicted, s.sessionManager.sessionsByPeer.find item.1 = some item.2)
    (hTokens : ∀ item ∈ evicted, item.2.peerToken = item.1) :
    Run DeedStep s
      (deedsOf (.timedOut (s.sessionManager.disconnectAll (evicted.map Prod.fst)).1))
      ((s.sessionManager.disconnectAll (evicted.map Prod.fst)).1.foldl evict
        { s with sessionManager :=
          (s.sessionManager.disconnectAll (evicted.map Prod.fst)).2 }) := by
  induction evicted generalizing s with
  | nil => exact .nil s
  | cons item rest ih =>
      have hHead := hFind item List.mem_cons_self
      have hToken := hTokens item List.mem_cons_self
      simp only [List.map_cons, List.nodup_cons] at hNodup
      have hLeave : DeedStep s (.left item.1 item.2.playerId)
          (s.leave item.1 item.2.playerId) :=
        .leave s item.1 item.2.playerId hIdle
          (SessionManager.seat_eq_some.mpr ⟨item.2, hHead, rfl⟩)
      have hRest := ih hNodup.2 (s.leave item.1 item.2.playerId) hIdle (by
        intro other hOther
        have hNe : other.1 ≠ item.1 := fun hEq =>
          hNodup.1 (hEq ▸ List.mem_map_of_mem hOther)
        change (s.sessionManager.handleDisconnect item.1).2.sessionsByPeer.find other.1 = _
        rw [SessionManager.find_handleDisconnect, if_neg hNe]
        exact hFind other (List.mem_cons_of_mem _ hOther))
        (fun other hOther => hTokens other (List.mem_cons_of_mem _ hOther))
      have hAll := (Run.single hLeave).trans hRest
      have hDisconnect : (s.sessionManager.disconnectAll (item.1 :: rest.map Prod.fst)) =
          (item.2.view :: ((s.sessionManager.handleDisconnect item.1).2.disconnectAll
              (rest.map Prod.fst)).1,
            ((s.sessionManager.handleDisconnect item.1).2.disconnectAll
              (rest.map Prod.fst)).2) := by
        simp only [SessionManager.disconnectAll]
        rw [SessionManager.handleDisconnect_some hHead]
        rfl
      rw [List.map_cons, hDisconnect]
      have hDeeds : deedsOf (F := F) (.timedOut (item.2.view ::
          ((s.sessionManager.handleDisconnect item.1).2.disconnectAll (rest.map Prod.fst)).1)) =
          .left item.1 item.2.playerId :: deedsOf (.timedOut
            ((s.sessionManager.handleDisconnect item.1).2.disconnectAll
              (rest.map Prod.fst)).1) := by
        rw [← hToken]
        rfl
      have hEvict : ∀ sessions, evict { s with sessionManager := sessions } item.2.view =
          { s.leave item.1 item.2.playerId with sessionManager := sessions } := by
        intro sessions
        rw [← hToken]
        rfl
      rw [hDeeds, List.foldl_cons, hEvict]
      exact hAll

/-- A time-out as deeds: one leave after the other. -/
theorem run_timeOut {s : MainLoop F} (hTables : s.sessionManager.TablesAgree)
    (hIdle : s.tickFrames = []) (now : TimePoint) :
    Run DeedStep s (deedsOf (.timedOut (s.timeOut now).1)) (s.timeOut now).2 := by
  have hFind : ∀ item ∈ s.sessionManager.sessionsByPeer.items.filter fun item =>
      s.sessionManager.isTimedOut now item.2,
      s.sessionManager.sessionsByPeer.find item.1 = some item.2 :=
    fun item hItem => UnorderedMap.mem_items_iff.mp (List.mem_filter.mp hItem).1
  apply run_evictAll
  · refine List.Nodup.sublist (List.filter_sublist.map _) ?_
    rw [UnorderedMap.map_fst_items]
    exact s.sessionManager.sessionsByPeer.keys_nodup
  · exact hIdle
  · exact hFind
  · exact fun item hItem => (hTables.token item.1 item.2 (hFind item hItem)).2

/-- Every step of the loop is a run of deeds. -/
theorem run_step {s t : MainLoop F} {event : LoopEvent F}
    (hTables : s.sessionManager.TablesAgree) (hStep : LoopStep s event t) :
    Run DeedStep s (deedsOf event) t := by
  cases hStep with
  | connect peerToken hIdle => exact Run.single (.idle { Idles.refl s with })
  | receive peerToken packet now hIdle hToken => exact run_receive hTables hToken packet now
  | disconnect peerToken hIdle => exact run_disconnect hIdle peerToken
  | timeOut now hIdle => exact run_timeOut hTables hIdle now
  | advance now hIdle => exact Run.single (.advance s now hIdle)
  | tick frame rest hFrames => exact Run.single (.tick s frame rest hFrames)
  | reorder _ hSame => exact Run.single (.idle hSame.idles)

/-- Only a join request is answered as a join. -/
theorem join_step {s t : MainLoop F} {peerToken : PeerToken} {packet : Packet F}
    {result : JoinResult} (hStep : LoopStep s (.received peerToken packet (.join result)) t) :
    ∃ playerName now, packet = .joinRequest playerName ∧
      result = (s.sessionManager.handleJoinRequest peerToken playerName now).1 ∧
      t = (s.receiveJoin peerToken playerName now).2 := by
  generalize hEvent : LoopEvent.received (F := F) peerToken packet (.join result) = event at hStep
  cases hStep with
  | receive peer packet now hIdle hToken =>
      injection hEvent with hPeer hPacket hOutcome
      subst hPeer hPacket
      cases packet with
      | joinRequest playerName =>
          injection hOutcome with hResult
          exact ⟨playerName, now, rfl, hResult, rfl⟩
      | message message =>
          unfold receive at hOutcome
          dsimp only at hOutcome
          cases hSession : s.sessionManager.sessionForPeer peerToken with
          | none =>
              rw [hSession] at hOutcome
              cases hOutcome
          | some session =>
              have hServed := s.served_receiveMessage peerToken session message now
              rw [hSession] at hOutcome
              dsimp only at hOutcome
              rw [← hOutcome] at hServed
              cases hServed
  | _ => cases hEvent

/-- A deed that seats a player is a join of its own. -/
theorem seated_mem_deedsOf {event : LoopEvent F} {peerToken : PeerToken} {playerId : Nat}
    (h : .seated peerToken playerId ∈ deedsOf event) :
    deedsOf event = [.seated peerToken playerId] ∧ ∃ packet result,
      event = .received peerToken packet (.join result) ∧ result.accepted = true ∧
        result.status ≠ .alreadyJoined ∧ result.session.playerId = playerId := by
  cases event with
  | received peer packet outcome =>
      cases outcome with
      | join result =>
          dsimp only [deedsOf] at h ⊢
          split at h
          · simp at h
          · rename_i hAccepted
            rw [Bool.not_eq_true', Bool.not_eq_false] at hAccepted
            rw [if_neg (by rw [hAccepted]; exact Bool.false_ne_true)]
            split at h
            · simp at h
            · rename_i hNew
              rw [if_neg hNew]
              have hSame := List.mem_singleton.mp h
              injection hSame with hPeer hId
              subst hPeer hId
              exact ⟨rfl, packet, result, rfl, hAccepted, hNew, rfl⟩
      | _ => simp [deedsOf] at h
  | disconnected peer session =>
      cases session with
      | none => simp [deedsOf] at h
      | some session => simp [deedsOf] at h
  | _ => simp [deedsOf] at h

/-- A tick is a deed of its own. -/
theorem ticked_mem_deedsOf {event : LoopEvent F} {record : ServerTick F}
    (h : .ticked record ∈ deedsOf event) : event = .ticked record := by
  cases event with
  | received peer packet outcome =>
      cases outcome with
      | join result =>
          dsimp only [deedsOf] at h
          split at h
          · simp at h
          · split at h
            · simp at h
            · simp at h
      | _ => simp [deedsOf] at h
  | disconnected peer session =>
      cases session with
      | none => simp [deedsOf] at h
      | some session => simp [deedsOf] at h
  | ticked other =>
      injection List.mem_singleton.mp h with hSame
      rw [hSame]
  | _ => simp [deedsOf] at h

/-- A fact about the loop that every deed preserves. -/
theorem run_deeds {s t : MainLoop F} {trace : List (LoopEvent F)} (run : Run LoopStep s trace t)
    (hTables : s.sessionManager.TablesAgree) :
    t.sessionManager.TablesAgree ∧ Run DeedStep s (trace.flatMap deedsOf) t := by
  refine run.refine (I := fun u => u.sessionManager.TablesAgree) (f := id) ?_ hTables
  intro u event v hBefore hStep
  have hDeeds := run_step hBefore hStep
  exact ⟨hDeeds.invariant (fun _ _ _ h hDeed => hDeed.tables h) hBefore, hDeeds⟩

end MainLoop

end DevyFps.Server
