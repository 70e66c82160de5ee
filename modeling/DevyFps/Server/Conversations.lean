import DevyFps.Server.Listeners
import DevyFps.Server.PeerPackets

/-! What one peer hears from the server, as a protocol of its own: answers to its join requests,
and, from an accepted one until its session ends, every tick in the line of ticks. -/

namespace DevyFps.Server

open Foundations Net
open MainLoop (LoopEvent LoopStep nextTick)

variable {F : Type} [SingleFloat F]

/-- How a peer stands with the server: whether it is connected, the player of its session, and
the tick that was run last. -/
structure PeerStanding where
  connected : Bool := false
  playerId : Option Nat := none
  lastTick : Nat := 0

/-- What a player may hear of a tick. The inventories are its own, and one snapshot at most ends
it. -/
structure TickTold (tick playerId : Nat)
    (packets : List (Net.Packet (SingleFloat.Double F))) : Prop where
  parts : ∃ (damages : List DamageResolution) (deltas : List InventorySummary)
      (states snapshots : List (Net.Packet (SingleFloat.Double F))),
    packets = damages.map toDamagePacket ++ deltas.map inventoryUpdatePacket ++ states ++
        snapshots ∧
      (∀ delta ∈ deltas, delta.playerId = playerId) ∧
      (∀ state ∈ states, state.type = .matchState) ∧ states.length ≤ 1 ∧
      (∀ snapshot ∈ snapshots, snapshot.type = .stateSnapshot ∧
        snapshot.payload.member "tick" = some (ofUnsigned tick)) ∧ snapshots.length ≤ 1

/-- The protocol between the server and one peer. -/
inductive ConversationStep (settings : OutboundSettings F) :
    PeerStanding → List (Net.Packet (SingleFloat.Double F)) → PeerStanding → Prop where
  | quiet (standing : PeerStanding) : ConversationStep settings standing [] standing
  | connect (standing : PeerStanding) :
      ConversationStep settings standing [] { standing with connected := true }
  | reject (standing : PeerStanding) (result : JoinResult) (hRejected : result.accepted = false) :
      ConversationStep settings standing [settings.joinRejected result] standing
  | accept (standing : PeerStanding) (result : JoinResult) (state : MatchLifecycleState)
      (scoreboard : List MatchScoreEntry) (hAccepted : result.accepted = true)
      (hSame : ∀ playerId, standing.playerId = some playerId →
        result.session.playerId = playerId) :
      ConversationStep settings standing
        [settings.joinAccepted result, buildMatchStatePacket state scoreboard]
        { standing with playerId := some result.session.playerId }
  | tell (standing : PeerStanding) (playerId : Nat)
      (packets : List (Net.Packet (SingleFloat.Double F)))
      (hConnected : standing.connected = true) (hPlayer : standing.playerId = some playerId)
      (hTold : TickTold (nextTick standing.lastTick) playerId packets) :
      ConversationStep settings standing packets
        { standing with lastTick := nextTick standing.lastTick }
  | skip (standing : PeerStanding) (hAbsent : standing.connected = false ∨ standing.playerId = none) :
      ConversationStep settings standing []
        { standing with lastTick := nextTick standing.lastTick }
  | leave (standing : PeerStanding) :
      ConversationStep settings standing [] { standing with connected := false, playerId := none }

namespace ServerHost

variable {settings : OutboundSettings F} {s t : ServerHost F}

/-- How a peer stands with the host. -/
def standing (s : ServerHost F) (lastTick : Nat) (peerToken : PeerToken) : PeerStanding where
  connected := peerToken ∈ s.loop.peersByToken
  playerId := s.loop.sessionManager.seat peerToken
  lastTick

theorem tickTold_packetsFor (h : s.loop.sessionManager.TablesAgree) {record : ServerTick F}
    (hUpdates : record.frame.snapshotDue = true →
      List.Forall₂ (fun session update => update.playerId = session.playerId)
        s.loop.listeners record.updates)
    {peerToken : PeerToken} {playerId : Nat} (hId : s.loop.listenerId peerToken = some playerId) :
    TickTold record.frame.tick playerId (s.packetsFor settings record playerId) := by
  constructor
  refine ⟨record.combat.damageEvents, record.inventory.inventoryDeltas.filter fun summary =>
    playerId = summary.playerId, record.matchPackets settings.matchStateBroadcastOnSnapshot,
    if record.frame.snapshotDue then
      (record.updates.filter fun update => update.playerId = playerId).map
        (s.loop.snapshotFor settings record (record.appendOutputs s.pendingSnapshotEvents).1)
    else [], rfl, ?_, ?_, ?_, ?_, ?_⟩
  · intro delta hDelta
    exact (of_decide_eq_true (List.mem_filter.mp hDelta).2).symm
  · intro state hState
    unfold ServerTick.matchPackets at hState
    split at hState
    · rw [List.mem_singleton.mp hState]
      rfl
    · cases hState
  · unfold ServerTick.matchPackets
    split
    · exact le_refl 1
    · exact Nat.zero_le 1
  · intro snapshot hSnapshot
    split at hSnapshot
    · obtain ⟨update, -, rfl⟩ := List.mem_map.mp hSnapshot
      exact ⟨rfl, rfl⟩
    · cases hSnapshot
  · split
    · rename_i hDue
      obtain ⟨update, -, hOnly⟩ := exists_update h (hUpdates hDue) hId
      rw [hOnly]
      exact le_refl 1
    · exact Nat.zero_le 1

/-- The standing of a peer after an event, from the standing before it. -/
theorem standing_step {event : LoopEvent F} {lastTick : Nat}
    (hTables : s.loop.sessionManager.TablesAgree) (hStep : LoopStep s.loop event t.loop)
    (peerToken : PeerToken) :
    t.standing (MainLoop.lastTickOf lastTick event) peerToken =
      { connected :=
          MainLoop.connectedAfter peerToken (decide (peerToken ∈ s.loop.peersByToken)) event
        playerId :=
          MainLoop.seatAfter peerToken (s.loop.sessionManager.seat peerToken) event
        lastTick := MainLoop.lastTickOf lastTick event } := by
  obtain ⟨hSeat, hPeer⟩ := MainLoop.peer_step hTables hStep peerToken
  unfold standing
  rw [hSeat, hPeer]

/-- A tick as a peer hears it. -/
theorem conversation_tick {record : ServerTick F} {frame : TickFrame F} {lastTick : Nat}
    (hTables : s.loop.sessionManager.TablesAgree)
    (hRecord : record = (s.loop.runFrame frame).1) (hTick : record.frame.tick = nextTick lastTick)
    (peerToken : PeerToken) :
    ConversationStep settings (s.standing lastTick peerToken)
      (sentTo peerToken (s.tickPackets settings record))
      { s.standing lastTick peerToken with lastTick := record.frame.tick } := by
  have hUpdates : record.frame.snapshotDue = true →
      List.Forall₂ (fun session update => update.playerId = session.playerId)
        s.loop.listeners record.updates := by
    rw [hRecord, MainLoop.frame_runFrame]
    exact updates_of_due s.loop
  rw [hTick, sentTo_tickPackets hTables hUpdates]
  cases hId : s.loop.listenerId peerToken with
  | none =>
      refine .skip _ ?_
      unfold MainLoop.listenerId at hId
      split at hId
      · exact Or.inr hId
      · rename_i hAbsent
        exact Or.inl (decide_eq_false hAbsent)
  | some playerId =>
      have hTold : TickTold _ _ (s.packetsFor settings record playerId) :=
        tickTold_packetsFor hTables hUpdates hId
      rw [hTick] at hTold
      unfold MainLoop.listenerId at hId
      split at hId
      · rename_i hPeer
        exact .tell _ playerId _ (decide_eq_true hPeer) hId hTold
      · cases hId

/-- An answer to a join request, as a peer hears it. -/
theorem conversation_join {asker : PeerToken} {packet : Packet F} {result : JoinResult}
    {loop : MainLoop F} {lastTick : Nat} (hTables : s.loop.sessionManager.TablesAgree)
    (hStep : LoopStep s.loop (.received asker packet (.join result)) loop)
    (peerToken : PeerToken) :
    ConversationStep settings (s.standing lastTick peerToken)
      (sentTo peerToken
        ((settings.joinAnswer result loop).map fun packet => ⟨asker, packet⟩))
      { s.standing lastTick peerToken with
        playerId := MainLoop.seatAfter peerToken (s.loop.sessionManager.seat peerToken)
          (.received asker packet (.join result)) } := by
  obtain ⟨playerName, now, -, hResult, -⟩ := MainLoop.join_step hStep
  rw [sentTo_answer]
  unfold MainLoop.seatAfter OutboundSettings.joinAnswer
  dsimp only
  by_cases hAsker : asker = peerToken
  · rw [if_pos hAsker]
    cases hAccepted : result.accepted with
    | false =>
        rw [if_neg (by simp), if_neg (by simp)]
        exact .reject _ result hAccepted
    | true =>
        rw [if_pos rfl, if_pos ⟨hAsker, rfl⟩]
        refine .accept _ result _ _ hAccepted fun playerId hSeat => ?_
        rw [hResult] at hAccepted ⊢
        exact MainLoop.playerId_of_rejoin hTables (hAsker ▸ hSeat) hAccepted
  · rw [if_neg hAsker, if_neg fun h => hAsker h.1]
    exact .quiet _

/-- A step of the host is a step of the conversation with every peer. -/
theorem HostStep.conversation {event : HostEvent F} {lastTick : Nat}
    (hTables : s.loop.sessionManager.TablesAgree) (hLine : s.loop.InLine lastTick)
    (hStep : HostStep settings s event t) (peerToken : PeerToken) :
    ConversationStep settings (s.standing lastTick peerToken) (sentTo peerToken event.sent)
      (t.standing (MainLoop.lastTickOf lastTick event.event) peerToken) := by
  have hLoop := hStep.loopStep
  rw [standing_step hTables hLoop]
  cases hStep with
  | mk event loop hStep =>
      cases event with
      | received asker packet outcome =>
          cases outcome with
          | join result => exact conversation_join hTables hStep peerToken
          | _ => exact .quiet _
      | ticked record =>
          obtain ⟨frame, rest, -, hRecord, -⟩ := MainLoop.ticked_of_step hStep
          exact conversation_tick hTables hRecord (hLine.tick_eq hStep) peerToken
      | connected other =>
          unfold MainLoop.connectedAfter
          dsimp only
          by_cases hOther : other = peerToken
          · rw [decide_eq_true hOther, Bool.true_or]
            exact .connect _
          · rw [decide_eq_false hOther, Bool.false_or]
            exact .quiet _
      | disconnected other session =>
          unfold MainLoop.connectedAfter MainLoop.seatAfter
          dsimp only
          by_cases hOther : other = peerToken
          · rw [decide_eq_false (not_not.mpr hOther), Bool.false_and, if_pos hOther]
            exact .leave _
          · rw [decide_eq_true hOther, Bool.true_and, if_neg hOther]
            exact .quiet _
      | timedOut sessions =>
          unfold MainLoop.connectedAfter MainLoop.seatAfter
          dsimp only
          by_cases hMem : peerToken ∈ sessions.map SessionView.peerToken
          · rw [decide_eq_false (not_not.mpr hMem), Bool.false_and, if_pos hMem]
            exact .leave _
          · rw [decide_eq_true hMem, Bool.true_and, if_neg hMem]
            exact .quiet _
      | advanced => exact .quiet _
      | reordered => exact .quiet _

/-- The tick that was run last in a run of the host. -/
def lastTickIn (trace : List (HostEvent F)) : Nat :=
  trace.foldl (fun lastTick event => MainLoop.lastTickOf lastTick event.event) 0

theorem tables_run {setup : ServerSetup F} {trace : List (HostEvent F)}
    (run : Run (HostStep settings) (create setup) trace s) :
    s.loop.sessionManager.TablesAgree :=
  (MainLoop.cast_run (run_loop run)).tables

/-- Whatever happens, each peer hears a conversation with the server: nothing but rejections
before a join of it is accepted and after its session has ended, and in between every tick, in
the order of the ticks, with the inventories of its own player. -/
theorem conversations {setup : ServerSetup F} {trace : List (HostEvent F)}
    (run : Run (HostStep settings) (create setup) trace s) (peerToken : PeerToken) :
    Run (ConversationStep settings) {} (trace.map fun event => sentTo peerToken event.sent)
      (s.standing (lastTickIn trace) peerToken) := by
  refine (run.history (I := fun trace s =>
    s.loop.sessionManager.TablesAgree ∧ s.loop.InLine (lastTickIn trace) ∧
      Run (ConversationStep settings) {} (trace.map fun event => sentTo peerToken event.sent)
        (s.standing (lastTickIn trace) peerToken)) ?_
    ⟨(MainLoop.cast_create setup).tables, MainLoop.inLine_create setup, .nil _⟩).2.2
  rintro trace s event t ⟨hTables, hLine, hTalk⟩ hStep
  have hLast : lastTickIn (trace ++ [event]) =
      MainLoop.lastTickOf (lastTickIn trace) event.event := by
    unfold lastTickIn
    rw [List.foldl_append]
    rfl
  rw [hLast, List.map_append]
  exact ⟨(MainLoop.run_deeds (Run.single hStep.loopStep) hTables).1,
    hLine.step hTables hStep.loopStep, .snoc hTalk (hStep.conversation hTables hLine peerToken)⟩

open MainLoop (duel)

def duelSettings : OutboundSettings ℚ where
  maxPlayers := 3
  combatStartingHealth := 100
  matchRespawnsPerPlayer := 3
  worldGenerationProfile := {}

/-- A peer has connected and has been seated. -/
def welcomed : ServerHost ℚ where
  loop := (MainLoop.receive { MainLoop.create duel with peersByToken := {101} } 101
    (.joinRequest [0x61]) 0).2

theorem run_welcomed :
    ∃ trace, Run (HostStep duelSettings) (create duel) trace welcomed ∧ lastTickIn trace = 0 ∧
      trace.map (fun event => (sentTo 101 event.sent).map Net.Packet.type) =
        [[], [.joinAccept, .matchState]] :=
  ⟨_, (Run.single (.mk (create duel) (.connected 101) _
      (.connect (MainLoop.create duel) 101 rfl))).snoc
    (.mk _ (.received 101 (.joinRequest [0x61]) _) _ (.receive _ 101 (.joinRequest [0x61]) 0 rfl
      (by decide))), rfl, by decide +kernel⟩

/-- What a listener hears of a tick without hits and without new inventories. -/
theorem types_sentTo_quiet {record : ServerTick F} {loop : MainLoop F} {peerToken : PeerToken}
    {playerId : Nat} (hTables : s.loop.sessionManager.TablesAgree)
    (hStep : LoopStep s.loop (.ticked record) loop)
    (hId : s.loop.listenerId peerToken = some playerId)
    (hDamages : record.combat.damageEvents = []) (hDeltas : record.inventory.inventoryDeltas = []) :
    (sentTo peerToken (s.tell settings (.ticked record) loop).1).map Net.Packet.type =
      (record.matchPackets settings.matchStateBroadcastOnSnapshot).map Net.Packet.type ++
        if record.frame.snapshotDue then [.stateSnapshot] else [] := by
  obtain ⟨frame, -, -, hRecord, -⟩ := MainLoop.ticked_of_step hStep
  have hUpdates : record.frame.snapshotDue = true →
      List.Forall₂ (fun session update => update.playerId = session.playerId)
        s.loop.listeners record.updates := by
    rw [hRecord, MainLoop.frame_runFrame]
    exact updates_of_due s.loop
  unfold tell
  dsimp only
  rw [sentTo_tickPackets hTables hUpdates, hId]
  unfold packetsFor ServerTick.appendOutputs appendCombatOutputs
  rw [hDamages, hDeltas]
  cases hDue : record.frame.snapshotDue with
  | false => simp
  | true =>
      obtain ⟨update, -, hOnly⟩ := exists_update hTables (hUpdates hDue) hId
      simp only [hOnly, List.map_nil, List.filter_nil, List.nil_append, List.map_append,
        List.map_singleton, if_true]
      rfl

/-- A tick without hits and without new inventories, after which a listener has heard packets of
the given types. -/
def quietTick (tick : Nat) (types : List MessageType) (record : ServerTick ℚ) : Bool :=
  record.combat.damageEvents.isEmpty && record.inventory.inventoryDeltas.isEmpty &&
    record.frame.tick == tick &&
      (record.matchPackets duelSettings.matchStateBroadcastOnSnapshot).map Net.Packet.type ++
        (if record.frame.snapshotDue then [.stateSnapshot] else []) == types

theorem types_of_quietTick {s : ServerHost ℚ} {record : ServerTick ℚ} {loop : MainLoop ℚ}
    {peerToken : PeerToken} {playerId tick : Nat} {types : List MessageType}
    (hTables : s.loop.sessionManager.TablesAgree)
    (hStep : LoopStep s.loop (.ticked record) loop)
    (hId : s.loop.listenerId peerToken = some playerId)
    (hQuiet : quietTick tick types record = true) :
    record.frame.tick = tick ∧
      (sentTo peerToken (s.tell duelSettings (.ticked record) loop).1).map Net.Packet.type =
        types := by
  simp only [quietTick, Bool.and_eq_true, List.isEmpty_iff, beq_iff_eq] at hQuiet
  obtain ⟨⟨⟨hDamages, hDeltas⟩, hTick⟩, hTypes⟩ := hQuiet
  exact ⟨hTick, (types_sentTo_quiet hTables hStep hId hDamages hDeltas).trans hTypes⟩

/-- A run of the host with what the first peer is sent in each step, and its last tick. -/
def HeardIn (types : List (List MessageType)) (s : ServerHost ℚ) (lastTick : Nat) : Prop :=
  ∃ trace, Run (HostStep duelSettings) (create duel) trace s ∧ lastTickIn trace = lastTick ∧
    trace.map (fun event => (sentTo 101 event.sent).map Net.Packet.type) = types

theorem HeardIn.snoc {types : List (List MessageType)} {told : List MessageType}
    {s : ServerHost ℚ} {lastTick : Nat} {event : LoopEvent ℚ} {loop : MainLoop ℚ}
    (h : HeardIn types s lastTick) (hStep : LoopStep s.loop event loop)
    (hTold : (sentTo 101 (s.tell duelSettings event loop).1).map Net.Packet.type = told) :
    HeardIn (types ++ [told]) (s.tell duelSettings event loop).2
      (MainLoop.lastTickOf lastTick event) := by
  obtain ⟨trace, run, hLast, hTypes⟩ := h
  refine ⟨_, run.snoc (.mk s event loop hStep), ?_, ?_⟩
  · rw [← hLast]
    unfold lastTickIn
    rw [List.foldl_append]
    rfl
  · rw [List.map_append, hTypes, List.map_singleton, hTold]

/-- A quiet tick, with what the first peer is sent. -/
theorem HeardIn.tick {types : List (List MessageType)} {s : ServerHost ℚ}
    {lastTick playerId : Nat} (h : HeardIn types s lastTick) (tick : Nat) (told : List MessageType)
    (hId : s.loop.listenerId 101 = some playerId)
    (hQuiet : (s.loop.tickFrames.head?.any fun frame =>
      quietTick tick told (s.loop.runFrame frame).1) = true) :
    ∃ t, HeardIn (types ++ [told]) t tick ∧ t.loop = s.loop.tickNext := by
  obtain ⟨record, hStep, hTest⟩ := MainLoop.exists_tickNext (p := quietTick tick told) hQuiet
  obtain ⟨trace, run, -, -⟩ := id h
  obtain ⟨hTick, hTypes⟩ := types_of_quietTick (ServerHost.tables_run run) hStep hId hTest
  have hNext := h.snoc hStep hTypes
  rw [show MainLoop.lastTickOf lastTick (.ticked record) = tick from hTick] at hNext
  exact ⟨_, hNext, rfl⟩

/-- A peer connects, joins, hears that the match is over, gets the snapshot of the second tick and
disconnects. -/
theorem conversations_left :
    ∃ packets : List (List (Net.Packet (SingleFloat.Double ℚ))),
      packets.map (List.map Net.Packet.type) =
          [[], [.joinAccept, .matchState], [], [.matchState], [.stateSnapshot], []] ∧
        Run (ConversationStep duelSettings) {} packets ⟨false, none, 2⟩ := by
  have hJoined : HeardIn _ welcomed 0 := run_welcomed
  have hDue := hJoined.snoc (.advance welcomed.loop 66666666 rfl) rfl
  have hSeated : (welcomed.loop.advance 66666666).listenerId 101 = some 1 := by decide +kernel
  have hStill : (welcomed.loop.advance 66666666).tickNext.listenerId 101 = some 1 := by
    decide +kernel
  obtain ⟨s, hStarted, hFirst⟩ := hDue.tick 1 [.matchState] hSeated (by decide +kernel)
  obtain ⟨t, hPictured, hSecond⟩ := hStarted.tick 2 [.stateSnapshot]
    (by rw [hFirst]; exact hStill) (by rw [hFirst]; decide +kernel)
  rw [hFirst] at hSecond
  have hIdle : t.loop.tickFrames = [] := by
    rw [hSecond]
    exact List.isEmpty_iff.mp (by decide +kernel)
  obtain ⟨trace, run, hLast, hTypes⟩ := hPictured.snoc (.disconnect t.loop 101 hIdle) rfl
  have hHeard := conversations run 101
  have hStanding : standing (t.tell duelSettings (.disconnected 101 (t.loop.disconnect 101).1)
      (t.loop.disconnect 101).2).2 2 101 = ⟨false, none, 2⟩ := by
    unfold standing
    rw [loop_tell, hSecond]
    exact congrArg₂ (fun connected playerId => PeerStanding.mk connected playerId 2)
      (by decide +kernel) (by decide +kernel)
  refine ⟨_, ?_, hStanding ▸ hLast ▸ hHeard⟩
  rw [List.map_map]
  exact hTypes

end ServerHost

end DevyFps.Server
