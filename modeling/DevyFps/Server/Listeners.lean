import DevyFps.Server.CommandNumbers
import DevyFps.Server.LoopTicks

/-! What every event of the loop does to one peer: to its seat, to its connection and to the
line of ticks that it hears. -/

namespace DevyFps.Server.MainLoop

open Foundations

variable {F : Type} [SingleFloat F] {s t : MainLoop F}

/-- The seat of a peer after an event. -/
def seatAfter (peer : PeerToken) (seat : Option Nat) : LoopEvent F → Option Nat
  | .received peerToken _ (.join result) =>
      if peerToken = peer ∧ result.accepted = true then some result.session.playerId else seat
  | .disconnected peerToken _ => if peerToken = peer then none else seat
  | .timedOut sessions => if peer ∈ sessions.map SessionView.peerToken then none else seat
  | _ => seat

/-- Whether a peer is connected after an event. -/
def connectedAfter (peer : PeerToken) (connected : Bool) : LoopEvent F → Bool
  | .connected peerToken => peerToken = peer || connected
  | .disconnected peerToken _ => peerToken ≠ peer && connected
  | .timedOut sessions => peer ∉ sessions.map SessionView.peerToken && connected
  | _ => connected

theorem sessionManager_receiveJoin (s : MainLoop F) (peerToken : PeerToken)
    (playerName : PlayerName) (now : TimePoint) :
    (s.receiveJoin peerToken playerName now).2.sessionManager =
      (s.sessionManager.handleJoinRequest peerToken playerName now).2 := by
  unfold receiveJoin
  dsimp only
  split
  · rfl
  · rfl

theorem peersByToken_receiveJoin (s : MainLoop F) (peerToken : PeerToken)
    (playerName : PlayerName) (now : TimePoint) :
    (s.receiveJoin peerToken playerName now).2.peersByToken = s.peersByToken := by
  unfold receiveJoin
  dsimp only
  split
  · rfl
  · rfl

theorem join_receiveJoin (s : MainLoop F) (peerToken : PeerToken) (playerName : PlayerName)
    (now : TimePoint) :
    (s.receiveJoin peerToken playerName now).1 =
      (s.sessionManager.handleJoinRequest peerToken playerName now).1 := rfl

/-- The seat of a peer after a join request. -/
theorem seat_receiveJoin_eq (hTables : s.sessionManager.TablesAgree) (peerToken : PeerToken)
    (playerName : PlayerName) (now : TimePoint) (packet : Packet F) (peer : PeerToken) :
    (s.receiveJoin peerToken playerName now).2.sessionManager.seat peer =
      seatAfter peer (s.sessionManager.seat peer)
        (.received peerToken packet (.join (s.receiveJoin peerToken playerName now).1)) := by
  rw [sessionManager_receiveJoin, join_receiveJoin]
  unfold seatAfter
  dsimp only
  rcases SessionManager.handleJoinRequest_seats hTables peerToken playerName now with
    ⟨hRefused, hSame⟩ | ⟨hAccepted, -, hOwn, hSeats⟩ | ⟨hAccepted, -, -, -, hSeats⟩
  · rw [hSame, hRefused]
    simp
  · rw [hSeats]
    split
    · rename_i hPeer
      rw [← hPeer.1, hOwn]
    · rfl
  · rw [hSeats]
    by_cases hPeer : peer = peerToken
    · rw [if_pos hPeer, if_pos ⟨hPeer.symm, hAccepted⟩]
    · rw [if_neg hPeer, if_neg fun h => hPeer h.1.symm]

/-- A peer that is seated already keeps its player id in a join that is accepted. -/
theorem playerId_of_rejoin (hTables : s.sessionManager.TablesAgree) {peerToken : PeerToken}
    {playerName : PlayerName} {now : TimePoint} {playerId : Nat}
    (hSeat : s.sessionManager.seat peerToken = some playerId)
    (hAccepted : (s.receiveJoin peerToken playerName now).1.accepted = true) :
    (s.receiveJoin peerToken playerName now).1.session.playerId = playerId := by
  rw [join_receiveJoin] at hAccepted ⊢
  rcases SessionManager.handleJoinRequest_seats hTables peerToken playerName now with
    ⟨hRefused, -⟩ | ⟨-, -, hOwn, -⟩ | ⟨-, -, hNone, -⟩
  · rw [hRefused] at hAccepted
    cases hAccepted
  · rw [hSeat] at hOwn
    exact (Option.some.inj hOwn).symm
  · rw [hSeat] at hNone
    cases hNone

/-- A served message changes no connection, and its outcome is not that of a join. -/
theorem peersByToken_served {peerToken : PeerToken} {session : SessionView} {now : TimePoint}
    {outcome : PacketOutcome F} (h : s.Served peerToken session now outcome t) :
    t.peersByToken = s.peersByToken ∧ ∀ result, outcome ≠ .join result := by
  cases h with
  | _ => exact ⟨rfl, fun _ hJoin => by cases hJoin⟩

/-- Only a join request is taken as one. -/
theorem receive_message_ne_join (s : MainLoop F) (peerToken : PeerToken) (message : Message F)
    (now : TimePoint) (result : JoinResult) :
    (s.receive peerToken (.message message) now).1 ≠ .join result := by
  unfold receive
  cases s.sessionManager.sessionForPeer peerToken with
  | none => simp
  | some session =>
      exact (peersByToken_served (s.served_receiveMessage peerToken session message now)).2 result

/-- One session after the other ends. -/
theorem leave_run {sessions : List SessionView}
    (run : Run DeedStep s
      (sessions.map fun session => .left session.peerToken session.playerId) t)
    (peer : PeerToken) :
    (t.sessionManager.seat peer =
        if peer ∈ sessions.map SessionView.peerToken then none else s.sessionManager.seat peer) ∧
      (peer ∈ t.peersByToken ↔
        peer ∉ sessions.map SessionView.peerToken ∧ peer ∈ s.peersByToken) := by
  induction sessions using List.reverseRecOn generalizing t with
  | nil =>
      rw [← run.of_nil]
      simp
  | append_singleton sessions session ih =>
      rw [List.map_append] at run
      obtain ⟨middle, final, hPrior, hLast, hRest⟩ := run.around
      obtain ⟨hSeat, hPeer⟩ := ih hPrior
      obtain rfl := hRest.of_nil
      cases hLast with
      | leave _ _ hIdle hOwn =>
          constructor
          · change (middle.sessionManager.handleDisconnect session.peerToken).2.seat peer = _
            rw [SessionManager.seat_handleDisconnect, hSeat]
            by_cases hSame : peer = session.peerToken
            · simp [hSame]
            · simp [hSame]
          · change peer ∈ middle.peersByToken.erase session.peerToken ↔ _
            rw [Finset.mem_erase, hPeer]
            simp only [List.map_append, List.map_cons, List.map_nil, List.mem_append,
              List.mem_singleton, not_or]
            tauto

theorem disconnect_tables (s : MainLoop F) (peerToken : PeerToken) :
    (s.disconnect peerToken).2.sessionManager = (s.sessionManager.handleDisconnect peerToken).2 ∧
      (s.disconnect peerToken).2.peersByToken = s.peersByToken.erase peerToken := by
  unfold disconnect
  dsimp only
  split
  · exact ⟨rfl, rfl⟩
  · exact ⟨rfl, rfl⟩

/-- What an event does to the seat and to the connection of a peer. -/
theorem peer_step {event : LoopEvent F} (hTables : s.sessionManager.TablesAgree)
    (hStep : LoopStep s event t) (peer : PeerToken) :
    t.sessionManager.seat peer = seatAfter peer (s.sessionManager.seat peer) event ∧
      decide (peer ∈ t.peersByToken) =
        connectedAfter peer (decide (peer ∈ s.peersByToken)) event := by
  cases hStep with
  | connect peerToken hIdle =>
      refine ⟨rfl, ?_⟩
      change decide (peer ∈ insert peerToken s.peersByToken) = _
      unfold connectedAfter
      simp only [Finset.mem_insert, Bool.decide_or, eq_comm]
  | receive peerToken packet now hIdle hToken =>
      cases packet with
      | joinRequest playerName =>
          refine ⟨seat_receiveJoin_eq hTables peerToken playerName now _ peer, ?_⟩
          change decide (peer ∈ (s.receiveJoin peerToken playerName now).2.peersByToken) = _
          rw [peersByToken_receiveJoin]
          rfl
      | message message =>
          unfold receive
          dsimp only
          cases hSession : s.sessionManager.sessionForPeer peerToken with
          | none => exact ⟨rfl, rfl⟩
          | some session =>
              have hServed := s.served_receiveMessage peerToken session message now
              obtain ⟨hPeers, hNotJoin⟩ := peersByToken_served hServed
              have hSeats := hServed.seat peer
              dsimp only
              cases hOutcome : (s.receiveMessage peerToken session message now).1 with
              | join result => exact absurd hOutcome (hNotJoin result)
              | _ => exact ⟨hSeats, by rw [hPeers]; rfl⟩
  | disconnect peerToken hIdle =>
      obtain ⟨hSessions, hPeers⟩ := disconnect_tables s peerToken
      rw [hSessions, hPeers, SessionManager.seat_handleDisconnect]
      unfold seatAfter connectedAfter
      dsimp only
      constructor
      · simp only [eq_comm]
      · simp only [Finset.mem_erase, Bool.decide_and, ne_comm]
  | timeOut now hIdle =>
      obtain ⟨hSeat, hPeer⟩ := leave_run (run_timeOut hTables hIdle now) peer
      refine ⟨hSeat, ?_⟩
      unfold connectedAfter
      dsimp only
      rw [decide_eq_decide.mpr hPeer, Bool.decide_and]
  | advance now hIdle => exact ⟨rfl, rfl⟩
  | tick frame rest hFrames => exact ⟨rfl, rfl⟩
  | reorder _ hSame =>
      refine ⟨hSame.sessions.seat_eq peer, ?_⟩
      rw [hSame.rest]
      rfl

/-! The ticks are run in one line, whatever happens between them. -/

/-- The number after a tick, which is a `uint64_t`. -/
def nextTick (tick : Nat) : Nat := (tick + 1) % 2 ^ 64

/-- The frames that wait follow the last tick that was run, and the counter is at the last. -/
structure InLine (s : MainLoop F) (lastTick : Nat) : Prop where
  chain : (lastTick :: s.tickFrames.map TickFrame.tick).IsChain fun tick next =>
    next = nextTick tick
  counter : (lastTick :: s.tickFrames.map TickFrame.tick).getLast? =
    some s.authoritativeLoop.tickCounter

/-- The frames of a call go on with the line of ticks. -/
theorem cutFrames_inLine (loop : AuthoritativeLoop F) (count : Nat) :
    (loop.tickCounter :: (loop.cutFrames count).1.map TickFrame.tick).IsChain
        (fun tick next => next = nextTick tick) ∧
      (loop.tickCounter :: (loop.cutFrames count).1.map TickFrame.tick).getLast? =
        some (loop.cutFrames count).2.tickCounter := by
  induction count generalizing loop with
  | zero => exact ⟨.singleton _, rfl⟩
  | succ count ih =>
      obtain ⟨hChain, hLast⟩ := ih loop.cutFrame.2
      refine ⟨.cons_cons rfl hChain, ?_⟩
      change (loop.tickCounter :: loop.cutFrame.2.tickCounter :: _).getLast? = _
      rw [List.getLast?_cons_cons]
      exact hLast

theorem tickCounter_enqueueInput (loop : AuthoritativeLoop F) (input : PlayerInputCommand F) :
    (loop.enqueueInput input).2.tickCounter = loop.tickCounter := by
  unfold AuthoritativeLoop.enqueueInput
  split
  · rfl
  · split
    · rfl
    · split
      · rfl
      · rfl

theorem tickCounter_clearPlayer (loop : AuthoritativeLoop F) (playerId : Nat) :
    (loop.clearPlayer playerId).tickCounter = loop.tickCounter := by
  unfold AuthoritativeLoop.clearPlayer
  split
  · rfl
  · rfl

/-- The tick that was run last, after a deed. -/
def lastTickAfter (lastTick : Nat) : Deed F → Nat
  | .ticked record => record.frame.tick
  | _ => lastTick

/-- A deed keeps the ticks in line. -/
theorem InLine.deed {deed : Deed F} {lastTick : Nat} (h : s.InLine lastTick)
    (hStep : DeedStep s deed t) : t.InLine (lastTickAfter lastTick deed) := by
  cases hStep with
  | idle hIdles =>
      constructor
      · rw [hIdles.tickFrames]
        exact h.chain
      · rw [hIdles.tickFrames, hIdles.authoritativeLoop]
        exact h.counter
  | seat peerToken playerName now playerId status hToken hNew hFree hSlot hSeats =>
      exact ⟨h.chain, h.counter⟩
  | rejoin peerToken playerId hSeat => exact ⟨h.chain, h.counter⟩
  | leave peerToken playerId hIdle hSeat =>
      refine ⟨h.chain, ?_⟩
      change _ = some (s.authoritativeLoop.clearPlayer playerId).tickCounter
      rw [tickCounter_clearPlayer]
      exact h.counter
  | input peerToken command hSeat =>
      refine ⟨h.chain, ?_⟩
      change _ = some (s.authoritativeLoop.enqueueInput command).2.tickCounter
      rw [tickCounter_enqueueInput]
      exact h.counter
  | fire peerToken command hPhase hSeat => exact ⟨h.chain, h.counter⟩
  | pickup peerToken command hPhase hSeat => exact ⟨h.chain, h.counter⟩
  | advance now hIdle =>
      have hCounter := h.counter
      rw [hIdle] at hCounter
      obtain rfl : lastTick = s.authoritativeLoop.tickCounter := Option.some.inj hCounter
      obtain ⟨hChain, hLast⟩ := cutFrames_inLine s.authoritativeLoop _
      exact ⟨hChain, hLast⟩
  | tick frame rest hFrames =>
      have hChain := h.chain
      have hCounter := h.counter
      rw [hFrames, List.map_cons] at hChain hCounter
      rw [List.getLast?_cons_cons] at hCounter
      have hTick : lastTickAfter lastTick (.ticked (s.runFrame frame).1) = frame.tick :=
        congrArg TickFrame.tick (frame_runFrame s frame)
      constructor
      · rw [hTick]
        exact hChain.tail
      · rw [hTick, (s.ticked_runFrame frame rest).authoritativeLoop]
        exact hCounter

/-- The tick that was run last, after an event of the loop. -/
def lastTickOf (lastTick : Nat) : LoopEvent F → Nat
  | .ticked record => record.frame.tick
  | _ => lastTick

/-- The last tick of an event, over its deeds. -/
theorem foldl_lastTickAfter (lastTick : Nat) (event : LoopEvent F) :
    (deedsOf event).foldl lastTickAfter lastTick = lastTickOf lastTick event := by
  cases event with
  | received peerToken packet outcome =>
      cases outcome with
      | join result =>
          unfold deedsOf
          dsimp only
          split
          · rfl
          · split
            · rfl
            · rfl
      | _ => rfl
  | disconnected peerToken session => cases session <;> rfl
  | timedOut sessions =>
      change (sessions.map _).foldl lastTickAfter lastTick = lastTick
      induction sessions with
      | nil => rfl
      | cons session rest ih => exact ih
  | _ => rfl

/-- Every step of the loop keeps the ticks in line. -/
theorem InLine.step {event : LoopEvent F} {lastTick : Nat} (h : s.InLine lastTick)
    (hTables : s.sessionManager.TablesAgree) (hStep : LoopStep s event t) :
    t.InLine (lastTickOf lastTick event) := by
  rw [← foldl_lastTickAfter]
  refine (run_step hTables hStep).history
    (I := fun deeds s => s.InLine (deeds.foldl lastTickAfter lastTick)) ?_ h
  intro deeds s deed t hBefore hDeed
  rw [List.foldl_append]
  exact hBefore.deed hDeed

/-- A tick that is run is the next one. -/
theorem InLine.tick_eq {record : ServerTick F} {lastTick : Nat} (h : s.InLine lastTick)
    (hStep : LoopStep s (.ticked record) t) : record.frame.tick = nextTick lastTick := by
  obtain ⟨frame, rest, hFrames, rfl, -⟩ := ticked_of_step hStep
  have hChain := h.chain
  rw [hFrames, List.map_cons] at hChain
  rw [frame_runFrame]
  exact (List.isChain_cons_cons.mp hChain).1

/-- The line starts with the first tick. -/
theorem inLine_create (setup : ServerSetup F) : (create setup).InLine 0 :=
  ⟨.singleton _, rfl⟩

end DevyFps.Server.MainLoop
