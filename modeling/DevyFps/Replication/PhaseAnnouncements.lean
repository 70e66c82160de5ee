import DevyFps.Foundations.Run
import DevyFps.Replication.PhaseReports
import DevyFps.Server.FreshIdentity
import DevyFps.Server.PhaseChanges

/-! The phases of the match on their way to a player's screen. The server tells each change
twice, and the client shows it once as long as a snapshot repeats no phase that is past. -/

namespace DevyFps.Replication

open Foundations Net Client Client.AuthoritativeEventFeed Server MatchLifecycleSimulation
open Server.MainLoop (LoopEvent LoopStep)

variable {F : Type} [SingleFloat F]

/-- The server with the events that wait for its next snapshot, and what one peer was sent since
it joined, with the phases that the match entered since. -/
structure PhaseRelay (F : Type) [SingleFloat F] where
  server : MainLoop F
  pendingSnapshotEvents : List (Document F) := []
  joined : Bool := false
  sent : List (FeedPacket F) := []
  entered : List MatchPhase := []

namespace PhaseRelay

inductive Event (F : Type) [SingleFloat F] where
  | loop (event : LoopEvent F)
  | left

/-- The answer to a join that is accepted. The client resets its feed for it. -/
def joinPackets (server : MainLoop F) : List (FeedPacket F) :=
  [.matchState (buildMatchStatePacket
    (server.matchLifecycleSimulation.state server.tickInterval)
    server.matchLifecycleSimulation.scoreboardSnapshot : Net.Packet _).payload]

/-- What a peer is sent in a tick. -/
def tickPackets (matchStateBroadcastOnSnapshot : Bool) (record : ServerTick F)
    (pendingSnapshotEvents : List (Document F)) (snapshot : Document F) : List (FeedPacket F) :=
  (record.appendOutputs pendingSnapshotEvents).2.map (fun packet => .damageEvent packet.payload) ++
    (record.matchPackets matchStateBroadcastOnSnapshot).map
      (fun packet => .matchState packet.payload) ++
    if record.frame.snapshotDue then [.stateSnapshot snapshot] else []

/-- The peer has joined, and was told of the phase that the match is in. -/
def joinedBy (s : PhaseRelay F) (server : MainLoop F) : PhaseRelay F :=
  { s with
    server
    joined := true
    sent := joinPackets server
    entered := [server.matchLifecycleSimulation.phase] }

/-- A tick was run, and told to the peer if it has joined. -/
def ticked (matchStateBroadcastOnSnapshot : Bool) (s : PhaseRelay F) (record : ServerTick F)
    (server : MainLoop F) (snapshot : Document F) : PhaseRelay F where
  server
  pendingSnapshotEvents :=
    if record.frame.snapshotDue then [] else (record.appendOutputs s.pendingSnapshotEvents).1
  joined := s.joined
  sent := s.sent ++
    if s.joined then
      tickPackets matchStateBroadcastOnSnapshot record s.pendingSnapshotEvents snapshot
    else []
  entered := s.entered ++
    if s.joined then
      s.server.matchLifecycleSimulation.phasesEntered (s.server.matchCall record.frame)
    else []

/-- The steps of the loop, seen by a peer that gets all packets from its join until it leaves. -/
inductive Step (matchStateBroadcastOnSnapshot : Bool) (peerToken : PeerToken) :
    PhaseRelay F → Event F → PhaseRelay F → Prop where
  | quiet (s : PhaseRelay F) (event : LoopEvent F) (server : MainLoop F)
      (hStep : LoopStep s.server event server) (hTick : ∀ record, event ≠ .ticked record)
      (hJoin : ∀ packet result, event = .received peerToken packet (.join result) →
        result.accepted = false) :
      Step matchStateBroadcastOnSnapshot peerToken s (.loop event) { s with server }
  | join (s : PhaseRelay F) (packet : Server.Packet F) (result : JoinResult) (server : MainLoop F)
      (hStep : LoopStep s.server (.received peerToken packet (.join result)) server)
      (hAccepted : result.accepted = true) :
      Step matchStateBroadcastOnSnapshot peerToken s
        (.loop (.received peerToken packet (.join result))) (s.joinedBy server)
  | tick (s : PhaseRelay F) (record : ServerTick F) (server : MainLoop F) (snapshot : Document F)
      (hStep : LoopStep s.server (.ticked record) server)
      (hEvents : snapshot.member "events" =
        some (.array (record.appendOutputs s.pendingSnapshotEvents).1)) :
      Step matchStateBroadcastOnSnapshot peerToken s (.loop (.ticked record))
        (s.ticked matchStateBroadcastOnSnapshot record server snapshot)
  | leave (s : PhaseRelay F) :
      Step matchStateBroadcastOnSnapshot peerToken s .left { s with joined := false }

/-- No tick that the peer hears of starts the match and ends it, and what waits for a snapshot
tells of no phase but the one that the match is in by then. -/
def Separate (s : PhaseRelay F) : Event F → Prop
  | .loop (.ticked record) =>
      s.joined = true →
        ¬ (s.server.matchLifecycleSimulation.phase = .preMatch ∧
            record.lifecycle.state.phase = .postMatch) ∧
          (record.frame.snapshotDue = true →
            ∀ event ∈ s.pendingSnapshotEvents, isPhaseChange event = true →
              Carries event record.lifecycle.state.phase)
  | _ => True

def SeparateStep (matchStateBroadcastOnSnapshot : Bool) (peerToken : PeerToken)
    (s : PhaseRelay F) (event : Event F) (t : PhaseRelay F) : Prop :=
  Step matchStateBroadcastOnSnapshot peerToken s event t ∧ s.Separate event

/-- However many of the packets have arrived, the announcements are one for each of the phases,
in their order, up to some phase; they are all of them once all packets are there. -/
def AnnouncedOnce (localPlayerId : Nat) (s : PhaseRelay F) : Prop :=
  ∀ arrived later, s.sent = arrived ++ later →
    ∃ shown feed told untold, consumePackets localPlayerId {} arrived = .ok (shown, feed) ∧
      s.entered = told ++ untold ∧ List.Forall₂ Announces (announcements shown) told ∧
      (later = [] → untold = [])

/-! One tick, from a client that knows the phase before it. -/

section Tick

variable {localPlayerId : Nat} {feed : AuthoritativeEventFeed}

theorem consume_damage (localPlayerId : Nat) (events : List DamageResolution)
    (feed : AuthoritativeEventFeed) :
    ∃ shown next, consumePackets localPlayerId feed
        ((events.map toDamagePacket).map fun packet : Net.Packet (SingleFloat.Double F) =>
          .damageEvent packet.payload) = .ok (shown, next) ∧
      announcements shown = [] ∧ next.lastMatchState = feed.lastMatchState := by
  induction events generalizing feed with
  | nil => exact ⟨[], feed, rfl, rfl, rfl⟩
  | cons event rest ih =>
      have hFlag : FlagIfPresent
          (toDamagePacket event : Net.Packet (SingleFloat.Double F)).payload "lethal" :=
        flag_of_member rfl
      obtain ⟨answer, hAnswer⟩ := (returns_consumeDamageEvent_iff feed
        (toDamagePacket event : Net.Packet (SingleFloat.Double F)).payload localPlayerId).mpr
          fun _ _ => hFlag
      obtain ⟨hSilent, hSame⟩ := lastMatchState_consumeDamageEvent hAnswer
      obtain ⟨shown, next, hRest, hNone, hLast⟩ := ih answer.2
      refine ⟨answer.1.toList ++ shown, next, ?_, ?_, hLast.trans hSame⟩
      · rw [List.map_cons, List.map_cons, consumePackets, consumePacket, consumeReliable,
          consumeReliableDamageEvent, hAnswer]
        change (consumePackets localPlayerId answer.2 _ >>= _) = _
        rw [hRest]
        rfl
      · rw [announcements_append, hSilent, hNone]
        rfl

/-- The packet with a phase announces it to a client that knows another one. -/
theorem consume_matchState (localPlayerId : Nat) (feed : AuthoritativeEventFeed)
    {payload : Document F} {phase : MatchPhase} (h : Carries payload phase) :
    ∃ shown next, consumePackets localPlayerId feed [.matchState payload] = .ok (shown, next) ∧
      next.lastMatchState = phase.toString ∧
      (feed.lastMatchState = phase.toString → announcements shown = []) ∧
      (feed.lastMatchState ≠ phase.toString →
        List.Forall₂ Announces (announcements shown) [phase]) := by
  obtain ⟨seconds, hRead⟩ := consumeReliableMatchState_eq h feed
  have hOne : consumePackets localPlayerId feed [.matchState payload] =
      .ok ((feed.phaseMessage phase.toString seconds).1.toList,
        (feed.phaseMessage phase.toString seconds).2) := by
    rw [consumePackets, consumePacket, hRead]
    exact congrArg Except.ok (congrArg (·, _) (List.append_nil _))
  by_cases hKnown : feed.lastMatchState = phase.toString
  · rw [phaseMessage_of_known hKnown] at hOne
    exact ⟨[], feed, hOne, hKnown, fun _ => rfl, fun hNew => absurd hKnown hNew⟩
  · obtain ⟨message, hAnnounces, hMessage⟩ := phaseMessage_of_new hKnown seconds
    rw [hMessage] at hOne
    refine ⟨[message], _, hOne, rfl, fun hSame => absurd hSame hKnown, fun _ => ?_⟩
    rw [announcements, List.filter_cons_of_pos hAnnounces.isAnnouncement]
    exact .cons hAnnounces .nil

/-- A snapshot whose changes are all to the phase that is known. -/
theorem consume_snapshot {snapshot : Document F} {events : List (Document F)} {phase : MatchPhase}
    (hEvents : snapshot.member "events" = some (.array events))
    (hReadable : ∀ event ∈ events, Readable localPlayerId event)
    (hCarries : ∀ event ∈ events, isPhaseChange event = true → Carries event phase)
    (hKnown : feed.lastMatchState = phase.toString) :
    ∃ shown next, consumePackets localPlayerId feed [.stateSnapshot snapshot] = .ok (shown, next) ∧
      announcements shown = [] ∧ next.lastMatchState = phase.toString := by
  have hPayload : snapshotEvents snapshot = events := by
    unfold snapshotEvents Json.value
    rw [hEvents]
    rfl
  obtain ⟨answer, hAnswer⟩ :=
    (returns_consumeSnapshotEvents_iff feed snapshot localPlayerId).mpr (by
      intro before event after hSplit
      rw [hPayload] at hSplit
      exact hReadable event (hSplit ▸ List.mem_append_right _ List.mem_cons_self) _)
  have hOne : consumePackets localPlayerId feed [.stateSnapshot snapshot] = .ok answer := by
    rw [consumePackets, consumePacket, hAnswer]
    exact congrArg Except.ok (congrArg (·, _) (List.append_nil _))
  rw [consumeSnapshotEvents_eq, hPayload] at hAnswer
  obtain ⟨answers, hEach, rfl⟩ := ok_of_map hAnswer
  obtain ⟨hSilent, hLast⟩ := consumeEach_known hCarries hKnown hEach
  exact ⟨_, _, hOne, hSilent, hLast⟩

/-- The packets of a tick before its snapshot: one announcement where the match enters a phase,
and none otherwise. -/
theorem consume_reports (localPlayerId : Nat) {record : ServerTick F} {phase : MatchPhase}
    (matchStateBroadcastOnSnapshot : Bool) (hKnown : feed.lastMatchState = phase.toString)
    (hChanged : record.lifecycle.state.phase ≠ phase → record.lifecycle.stateChanged = true)
    (pending : List (Document F)) :
    ∃ shown next, consumePackets localPlayerId feed
        ((record.appendOutputs pending).2.map (fun packet => .damageEvent packet.payload) ++
          (record.matchPackets matchStateBroadcastOnSnapshot).map
            fun packet => .matchState packet.payload) = .ok (shown, next) ∧
      next.lastMatchState = record.lifecycle.state.phase.toString ∧
      List.Forall₂ Announces (announcements shown)
        (if record.lifecycle.state.phase = phase then [] else [record.lifecycle.state.phase]) := by
  obtain ⟨hits, afterHits, hHits, hNoHit, hSameHits⟩ :=
    consume_damage (F := F) localPlayerId record.combat.damageEvents feed
  have hBefore : afterHits.lastMatchState = phase.toString := hSameHits.trans hKnown
  have hPackets : ∃ shown next, consumePackets localPlayerId afterHits
        ((record.matchPackets matchStateBroadcastOnSnapshot).map fun packet =>
          .matchState packet.payload) = .ok (shown, next) ∧
      next.lastMatchState = record.lifecycle.state.phase.toString ∧
      List.Forall₂ Announces (announcements shown)
        (if record.lifecycle.state.phase = phase then [] else [record.lifecycle.state.phase]) := by
    unfold ServerTick.matchPackets
    split
    · obtain ⟨shown, next, hShown, hNow, hOld, hNew⟩ := consume_matchState localPlayerId afterHits
        (carries_matchStatePacket (F := F) record.lifecycle.state record.lifecycle.scoreboard)
      refine ⟨shown, next, hShown, hNow, ?_⟩
      split_ifs with hSame
      · rw [hOld (by rw [hBefore, hSame])]
        exact .nil
      · exact hNew fun hText => hSame (toString_inj (hText.symm.trans hBefore))
    · rename_i hQuiet
      have hSame : record.lifecycle.state.phase = phase := by
        by_contra hMoved
        exact hQuiet (by rw [hChanged hMoved, Bool.true_or])
      rw [if_pos hSame, hSame]
      exact ⟨[], afterHits, rfl, hBefore, .nil⟩
  obtain ⟨told, afterPackets, hTold, hNow, hAnnounced⟩ := hPackets
  refine ⟨hits ++ told, afterPackets, consumePackets_append_iff.mpr ⟨_, _, _, hHits, hTold, rfl⟩, hNow, ?_⟩
  rw [announcements_append, hNoHit, List.nil_append]
  exact hAnnounced

/-- All packets of a tick whose snapshot tells of no past phase. -/
theorem consume_tick {record : ServerTick F} {pending : List (Document F)} {snapshot : Document F}
    {phase : MatchPhase} (matchStateBroadcastOnSnapshot : Bool)
    (hKnown : feed.lastMatchState = phase.toString)
    (hChanged : record.lifecycle.state.phase ≠ phase → record.lifecycle.stateChanged = true)
    (hEvents : snapshot.member "events" = some (.array (record.appendOutputs pending).1))
    (hReadable : ∀ event ∈ pending, Readable localPlayerId event)
    (hCarries : record.frame.snapshotDue = true → ∀ event ∈ pending, isPhaseChange event = true →
      Carries event record.lifecycle.state.phase) :
    ∃ shown next, consumePackets localPlayerId feed
        (tickPackets matchStateBroadcastOnSnapshot record pending snapshot) = .ok (shown, next) ∧
      next.lastMatchState = record.lifecycle.state.phase.toString ∧
      List.Forall₂ Announces (announcements shown)
        (if record.lifecycle.state.phase = phase then [] else [record.lifecycle.state.phase]) := by
  obtain ⟨told, afterReports, hTold, hNow, hAnnounced⟩ :=
    consume_reports localPlayerId matchStateBroadcastOnSnapshot hKnown hChanged pending
  unfold tickPackets
  cases hDue : record.frame.snapshotDue with
  | false =>
      refine ⟨told, afterReports, ?_, hNow, hAnnounced⟩
      rw [if_neg Bool.false_ne_true, List.append_nil]
      exact hTold
  | true =>
      obtain ⟨again, last, hAgain, hSilent, hLast⟩ := consume_snapshot hEvents
        (readable_appendOutputs hReadable) (carries_appendOutputs (hCarries hDue)) hNow
      refine ⟨told ++ again, last, ?_, hLast, ?_⟩
      · rw [if_pos rfl]
        exact consumePackets_append_iff.mpr ⟨_, _, _, hTold, hAgain, rfl⟩
      · rw [announcements_append, hSilent, List.append_nil]
        exact hAnnounced

/-- A snapshot that tells of a past phase announces something. -/
theorem announcements_of_past {snapshot : Document F} {events : List (Document F)}
    {phase : MatchPhase} (hEvents : snapshot.member "events" = some (.array events))
    (hWaiting : ∀ event ∈ events, isPhaseChange event = true → ∃ phase, Carries event phase)
    (hPast : ∃ event ∈ events, isPhaseChange event = true ∧ ¬ Carries event phase)
    (hKnown : feed.lastMatchState = phase.toString) {shown : List String}
    {next : AuthoritativeEventFeed}
    (h : consumePackets localPlayerId feed [.stateSnapshot snapshot] = .ok (shown, next)) :
    announcements shown ≠ [] := by
  have hPayload : snapshotEvents snapshot = events := by
    unfold snapshotEvents Json.value
    rw [hEvents]
    rfl
  rw [consumePackets, consumePacket, consumeSnapshotEvents_eq, hPayload] at h
  obtain ⟨answer, hAnswer, hRest⟩ := ok_of_bind h
  obtain ⟨answers, hEach, rfl⟩ := ok_of_map hAnswer
  cases hRest
  rw [List.append_nil]
  exact consumeEach_new hWaiting hPast hKnown hEach

end Tick

/-! Whole runs. -/

/-- What holds for a peer in a run whose snapshots repeat no phase that is past. -/
structure Followed (localPlayerId : Nat) (s : PhaseRelay F) : Prop where
  tables : s.server.sessionManager.TablesAgree
  readable : ∀ event ∈ s.pendingSnapshotEvents, Readable localPlayerId event
  waiting : ∀ event ∈ s.pendingSnapshotEvents, isPhaseChange event = true →
    ∃ phase, Carries event phase
  heard : ∃ shown feed, consumePackets localPlayerId {} s.sent = .ok (shown, feed) ∧
    List.Forall₂ Announces (announcements shown) s.entered ∧
    (s.joined = true →
      feed.lastMatchState = s.server.matchLifecycleSimulation.phase.toString)
  moves : s.entered.IsChain PhaseMove
  last : s.joined = true → s.entered.getLast? = some s.server.matchLifecycleSimulation.phase

theorem followed_create (localPlayerId : Nat) (setup : ServerSetup F) :
    Followed localPlayerId ({ server := .create setup } : PhaseRelay F) where
  tables := SessionManager.tablesAgree_create setup.session
  readable event hEvent := by cases hEvent
  waiting event hEvent := by cases hEvent
  heard := ⟨[], {}, rfl, .nil, fun h => by cases h⟩
  moves := .nil
  last h := by cases h

theorem Followed.quiet {localPlayerId : Nat} {s : PhaseRelay F} (h : Followed localPlayerId s)
    {event : LoopEvent F} {server : MainLoop F} (hStep : LoopStep s.server event server)
    (hTick : ∀ record, event ≠ .ticked record) :
    Followed localPlayerId { s with server } := by
  have hPhase := MainLoop.phase_of_step h.tables hStep hTick
  obtain ⟨shown, feed, hShown, hTold, hKnown⟩ := h.heard
  refine ⟨MainLoop.tables_of_step h.tables hStep, h.readable, h.waiting,
    ⟨shown, feed, hShown, hTold, ?_⟩, h.moves, ?_⟩
  · dsimp only
    rw [hPhase]
    exact hKnown
  · dsimp only
    rw [hPhase]
    exact h.last

/-- The answer to a join announces the phase that the match is in. -/
theorem Followed.join {localPlayerId : Nat} {s : PhaseRelay F} (h : Followed localPlayerId s)
    {event : LoopEvent F} {server : MainLoop F} (hStep : LoopStep s.server event server) :
    Followed localPlayerId (s.joinedBy server) := by
  refine ⟨MainLoop.tables_of_step h.tables hStep, h.readable, h.waiting, ?_, .singleton _,
    fun _ => rfl⟩
  obtain ⟨shown, feed, hShown, hKnown, -, hNew⟩ := consume_matchState localPlayerId {}
    (carries_matchStatePacket (F := F) (server.matchLifecycleSimulation.state server.tickInterval)
      server.matchLifecycleSimulation.scoreboardSnapshot)
  have hUnknown : ({} : AuthoritativeEventFeed).lastMatchState ≠
      (server.matchLifecycleSimulation.state server.tickInterval).phase.toString := by
    cases (server.matchLifecycleSimulation.state server.tickInterval).phase <;> decide
  exact ⟨shown, feed, hShown, hNew hUnknown, fun _ => hKnown⟩

theorem Followed.tick {localPlayerId : Nat} {s : PhaseRelay F} (h : Followed localPlayerId s)
    {record : ServerTick F} {server : MainLoop F} {snapshot : Document F}
    (matchStateBroadcastOnSnapshot : Bool)
    (hStep : LoopStep s.server (.ticked record) server)
    (hEvents : snapshot.member "events" =
      some (.array (record.appendOutputs s.pendingSnapshotEvents).1))
    (hSeparate : s.Separate (.loop (.ticked record))) :
    Followed localPlayerId (s.ticked matchStateBroadcastOnSnapshot record server snapshot) := by
  obtain ⟨shown, feed, hShown, hTold, hKnown⟩ := h.heard
  have hTables := MainLoop.tables_of_step h.tables hStep
  have hReadable : ∀ event ∈ (if record.frame.snapshotDue then []
      else (record.appendOutputs s.pendingSnapshotEvents).1 : List (Document F)),
      Readable localPlayerId event := by
    split
    · intro event hEvent
      cases hEvent
    · exact readable_appendOutputs h.readable
  have hWaiting : ∀ event ∈ (if record.frame.snapshotDue then []
      else (record.appendOutputs s.pendingSnapshotEvents).1 : List (Document F)),
      isPhaseChange event = true → ∃ phase, Carries event phase := by
    split
    · intro event hEvent
      cases hEvent
    · exact waiting_appendOutputs h.waiting
  unfold ticked
  cases hJoined : s.joined with
  | false =>
      simp only [Bool.false_eq_true, if_false, List.append_nil]
      exact ⟨hTables, hReadable, hWaiting, ⟨shown, feed, hShown, hTold, fun hIn => by cases hIn⟩,
        h.moves, fun hIn => by cases hIn⟩
  | true =>
      simp only [if_true]
      obtain ⟨hOnce, hCarries⟩ := hSeparate hJoined
      obtain ⟨hLeft, hChanged⟩ := MainLoop.reported_of_ticked hStep
      obtain ⟨hEntered, hMoves⟩ := (MainLoop.entered_of_ticked hStep).2 hOnce
      obtain ⟨later, next, hLater, hNow, hAnnounced⟩ := consume_tick matchStateBroadcastOnSnapshot
        (hKnown hJoined) hChanged hEvents h.readable hCarries
      rw [hEntered]
      refine ⟨hTables, hReadable, hWaiting,
        ⟨shown ++ later, next, consumePackets_append_iff.mpr ⟨_, _, _, hShown, hLater, rfl⟩, ?_, ?_⟩, ?_, ?_⟩
      · rw [announcements_append]
        exact List.rel_append hTold hAnnounced
      · intro _
        rw [hLeft]
        exact hNow
      · refine List.isChain_append.mpr ⟨h.moves, ?_, ?_⟩
        · split_ifs
          · exact .nil
          · exact .singleton _
        · intro old hOld new hNew
          rw [h.last hJoined] at hOld
          cases hOld
          split_ifs at hNew with hSame
          · cases hNew
          · cases hNew
            exact hMoves hSame
      · intro _
        dsimp only
        split_ifs with hSame
        · rw [List.append_nil, hLeft, hSame]
          exact h.last hJoined
        · rw [List.getLast?_append_of_ne_nil _ (List.cons_ne_nil _ _), hLeft]
          rfl

theorem followed_step {matchStateBroadcastOnSnapshot : Bool} {peerToken : PeerToken}
    {localPlayerId : Nat} {s t : PhaseRelay F} {event : Event F} (h : Followed localPlayerId s)
    (hStep : Step matchStateBroadcastOnSnapshot peerToken s event t) (hSeparate : s.Separate event) :
    Followed localPlayerId t := by
  cases hStep with
  | quiet event server hStep hTick hJoin => exact h.quiet hStep hTick
  | join packet result server hStep hAccepted => exact h.join hStep
  | tick record server snapshot hStep hEvents =>
      exact h.tick matchStateBroadcastOnSnapshot hStep hEvents hSeparate
  | leave =>
      obtain ⟨shown, feed, hShown, hTold, -⟩ := h.heard
      exact ⟨h.tables, h.readable, h.waiting, ⟨shown, feed, hShown, hTold, fun hIn => by cases hIn⟩,
        h.moves, fun hIn => by cases hIn⟩

/-- The packets that have arrived announce the first of the phases. -/
theorem Followed.announcedOnce {localPlayerId : Nat} {s : PhaseRelay F}
    (h : Followed localPlayerId s) : s.AnnouncedOnce localPlayerId := by
  intro arrived later hSent
  obtain ⟨shown, feed, hShown, hTold, -⟩ := h.heard
  by_cases hDone : later = []
  · rw [hDone, List.append_nil] at hSent
    exact ⟨shown, feed, s.entered, [], hSent ▸ hShown, (List.append_nil _).symm, hTold,
      fun _ => rfl⟩
  · rw [hSent] at hShown
    obtain ⟨early, late, middle, hEarly, -, rfl⟩ := consumePackets_append_iff.mp hShown
    rw [announcements_append] at hTold
    have hFirst := List.forall₂_take_append _ _ _ hTold.flip
    exact ⟨early, middle, _, _, hEarly, (List.take_append_drop _ s.entered).symm, hFirst.flip,
      fun hAll => absurd hAll hDone⟩

/-- What a tick adds to the announcements, if they are still one for each phase after it. -/
theorem Followed.added {localPlayerId : Nat} {s : PhaseRelay F} (h : Followed localPlayerId s)
    {packets : List (FeedPacket F)} {phases : List MatchPhase} {t : PhaseRelay F}
    (hSent : t.sent = s.sent ++ packets) (hEntered : t.entered = s.entered ++ phases)
    (hJoined : s.joined = true) (hOnce : t.AnnouncedOnce localPlayerId) :
    ∃ feed shown last,
      feed.lastMatchState = s.server.matchLifecycleSimulation.phase.toString ∧
      consumePackets localPlayerId feed packets = .ok (shown, last) ∧
      List.Forall₂ Announces (announcements shown) phases := by
  obtain ⟨before, feed, hBefore, hTold, hKnown⟩ := h.heard
  obtain ⟨shown, last, told, untold, hShown, hAll, hForAll, hDone⟩ :=
    hOnce t.sent [] (List.append_nil _).symm
  rw [hDone rfl, List.append_nil, hEntered] at hAll
  rw [hSent] at hShown
  obtain ⟨early, late, middle, hEarly, hLate, rfl⟩ := consumePackets_append_iff.mp hShown
  have hSame := hBefore.symm.trans hEarly
  cases hSame
  refine ⟨feed, late, last, hKnown hJoined, hLate, ?_⟩
  rw [announcements_append, ← hAll] at hForAll
  have hRest := List.forall₂_drop_append _ _ _ hForAll
  rw [← hTold.length_eq, List.drop_left] at hRest
  exact hRest

/-- No other tick keeps the announcements one for each phase. -/
theorem Followed.separate {matchStateBroadcastOnSnapshot : Bool} {peerToken : PeerToken}
    {localPlayerId : Nat} {s t : PhaseRelay F} {event : Event F} (h : Followed localPlayerId s)
    (hStep : Step matchStateBroadcastOnSnapshot peerToken s event t)
    (hOnce : t.AnnouncedOnce localPlayerId) : s.Separate event := by
  cases hStep with
  | tick record server snapshot hStep hEvents =>
      intro hJoined
      obtain ⟨feed, shown, last, hKnown, hShown, hForAll⟩ := h.added
        (t := s.ticked matchStateBroadcastOnSnapshot record server snapshot) rfl rfl hJoined hOnce
      rw [if_pos hJoined] at hShown hForAll
      obtain ⟨-, hChanged⟩ := MainLoop.reported_of_ticked hStep
      obtain ⟨hBoth, hEntered⟩ := MainLoop.entered_of_ticked hStep
      obtain ⟨told, middle, hTold, hNow, hAnnounced⟩ :=
        consume_reports localPlayerId matchStateBroadcastOnSnapshot hKnown hChanged
          s.pendingSnapshotEvents
      obtain ⟨early, late, middle', hEarly, hLate, rfl⟩ := consumePackets_append_iff.mp hShown
      have hSame := hTold.symm.trans hEarly
      cases hSame
      rw [announcements_append] at hForAll
      have hOne : ¬ (s.server.matchLifecycleSimulation.phase = .preMatch ∧
          record.lifecycle.state.phase = .postMatch) := by
        rintro ⟨hPre, hPost⟩
        rw [hBoth hPre hPost] at hForAll
        rw [hPost, hPre, if_neg (by decide)] at hAnnounced
        generalize announcements told = heard at hAnnounced hForAll
        cases hAnnounced with
        | cons hLast _ =>
            cases hForAll with
            | cons hFirst _ => exact absurd (hFirst.unique hLast) (by decide)
      refine ⟨hOne, fun hDue event hEvent hChange => ?_⟩
      by_contra hPast
      rw [(hEntered hOne).1] at hForAll
      rw [if_pos hDue] at hLate
      have hSilent : announcements late = [] := by
        have hLength := hForAll.length_eq
        rw [List.length_append, hAnnounced.length_eq] at hLength
        exact List.length_eq_zero_iff.mp (by omega)
      exact announcements_of_past hEvents (waiting_appendOutputs h.waiting)
        ⟨event, mem_appendOutputs_of_pending hEvent, hChange, hPast⟩ hNow hLate hSilent
  | quiet event server hStep hTick hJoin =>
      cases event with
      | ticked record => exact absurd rfl (hTick record)
      | _ => trivial
  | _ => trivial

/-- Every phase that the match enters while a peer is there is announced to it once, in order,
in every run in which no tick starts and ends the match and no snapshot tells of a phase that is
past. The first step that is not of this kind ends that. -/
theorem phases_announced_once_iff {setup : ServerSetup F} {matchStateBroadcastOnSnapshot : Bool}
    {peerToken : PeerToken} {trace : List (Event F)} {s : PhaseRelay F}
    (run : Run (SeparateStep matchStateBroadcastOnSnapshot peerToken)
      { server := .create setup } trace s) (localPlayerId : Nat) :
    s.entered.Nodup ∧ s.entered.IsChain PhaseMove ∧ s.AnnouncedOnce localPlayerId ∧
      ∀ event t, Step matchStateBroadcastOnSnapshot peerToken s event t →
        (t.AnnouncedOnce localPlayerId ↔ s.Separate event) := by
  have hFollowed := run.invariant (I := Followed localPlayerId)
    (fun _ _ _ hBefore hStep => followed_step hBefore hStep.1 hStep.2)
    (followed_create localPlayerId setup)
  refine ⟨nodup_of_moves hFollowed.moves, hFollowed.moves, hFollowed.announcedOnce,
    fun event t hStep => ⟨hFollowed.separate hStep, fun hSeparate => ?_⟩⟩
  exact (followed_step hFollowed hStep hSeparate).announcedOnce

/-- The next tick, with a snapshot of the events alone. -/
def tickNext (s : PhaseRelay F) : PhaseRelay F :=
  match s.server.tickFrames with
  | [] => s
  | frame :: _ =>
      s.ticked false (s.server.runFrame frame).1 s.server.tickNext
        (.object [("events",
          .array ((s.server.runFrame frame).1.appendOutputs s.pendingSnapshotEvents).1)])

/-- The time of the next tick has come. -/
def wait (s : PhaseRelay F) (now : TimePoint) : PhaseRelay F :=
  { s with server := s.server.advance now }

def received (s : PhaseRelay F) (peerToken : PeerToken) (packet : Server.Packet F) : PhaseRelay F :=
  { s with server := (s.server.receive peerToken packet 0).2 }

open SessionManager (alpha bravo)
open Server.MainLoop (create duel)

/-- A duel in which a shot is deadly and nobody respawns. -/
def showdown : ServerSetup ℚ :=
  { duel with
    weapons := [{ id := Bytes.ofString "rifle", type := Bytes.ofString "hitscan", damage := 100,
                  rangeUnits := 10 }]
    lifecycle := { preMatchTicks := 1, respawnsPerPlayer := 0 } }

/-- Its first player joins, and the second one after it. -/
def showdownJoined : PhaseRelay ℚ :=
  (({ server := create showdown } : PhaseRelay ℚ).joinedBy
    ((create showdown).receive 101 (.joinRequest alpha) 0).2).received 102 (.joinRequest bravo)

/-- The match starts. -/
def showdownStarted : PhaseRelay ℚ := (showdownJoined.wait 33333333).tickNext

/-- A snapshot follows. -/
def showdownShown : PhaseRelay ℚ := (showdownStarted.wait 66666666).tickNext

def deadlyShot : Server.Packet ℚ :=
  .message (.weaponFire (some
    { attackerId := 1, shotSeq := 1, weaponId := Bytes.ofString "rifle", directionX := 1 }))

/-- The first player shoots the second one before that snapshot. -/
def showdownEnded : PhaseRelay ℚ := ((showdownStarted.received 101 deadlyShot).wait 66666666).tickNext

theorem step_wait (s : PhaseRelay F) (peerToken : PeerToken) (now : TimePoint)
    (hIdle : s.server.tickFrames = []) :
    SeparateStep false peerToken s (.loop .advanced) (s.wait now) :=
  ⟨.quiet s .advanced _ (.advance s.server now hIdle) (fun _ hEvent => by cases hEvent)
    (fun _ _ hEvent => by cases hEvent), trivial⟩

/-- A packet from somebody else, or one that is no join request. -/
theorem step_received (s : PhaseRelay F) (peerToken other : PeerToken) (packet : Server.Packet F)
    (hIdle : s.server.tickFrames = []) (hToken : other ≠ 0)
    (hOther : other ≠ peerToken ∨ ∀ playerName, packet ≠ .joinRequest playerName) :
    SeparateStep false peerToken s
      (.loop (.received other packet (s.server.receive other packet 0).1))
      (s.received other packet) := by
  have hStep := LoopStep.receive s.server other packet 0 hIdle hToken
  refine ⟨.quiet s _ _ hStep (fun _ hEvent => by cases hEvent) fun packet' result hEvent => ?_,
    trivial⟩
  injection hEvent with hPeer hPacket hOutcome
  rcases hOther with hElse | hMessage
  · exact absurd hPeer hElse
  · rw [hOutcome] at hStep
    obtain ⟨playerName, -, hJoin, -⟩ := MainLoop.join_step hStep
    exact absurd hJoin (hMessage playerName)

/-- The next tick, from the phase that it leaves the match in. -/
theorem step_tickNext {s : PhaseRelay F} (peerToken : PeerToken) (phase : MatchPhase)
    (hPhase : (s.server.tickFrames.head?.map fun frame =>
      (s.server.runFrame frame).1.lifecycle.state.phase) = some phase) :
    ∃ record, record.lifecycle.state.phase = phase ∧
      Step false peerToken s (.loop (.ticked record)) s.tickNext ∧
      s.tickNext.pendingSnapshotEvents =
        if record.frame.snapshotDue then []
        else (record.appendOutputs s.pendingSnapshotEvents).1 := by
  unfold tickNext
  cases hFrames : s.server.tickFrames with
  | nil =>
      rw [hFrames] at hPhase
      cases hPhase
  | cons frame rest =>
      rw [hFrames] at hPhase
      refine ⟨(s.server.runFrame frame).1, Option.some.inj hPhase, .tick s _ _ _ ?_ rfl, rfl⟩
      unfold MainLoop.tickNext
      rw [hFrames]
      exact .tick s.server frame rest hFrames

/-- The steps up to the start of the match. -/
theorem run_showdownStarted :
    ∃ trace, Run (SeparateStep false 101) { server := create showdown } trace showdownStarted ∧
      ∀ event ∈ showdownStarted.pendingSnapshotEvents, isPhaseChange event = true →
        Carries event .inMatch := by
  have hAlpha := (Run.nil ({ server := create showdown } : PhaseRelay ℚ)).snoc
    (show SeparateStep false 101 _ _ _ from
      ⟨.join _ (.joinRequest alpha) ((create showdown).receiveJoin 101 alpha 0).1 _
        (.receive (create showdown) 101 (.joinRequest alpha) 0 rfl (by decide)) (by decide +kernel),
        trivial⟩)
  have hBravo := hAlpha.snoc
    (step_received _ 101 102 (.joinRequest bravo) rfl (by decide) (Or.inl (by decide)))
  have hDue := hBravo.snoc (step_wait _ 101 33333333 rfl)
  obtain ⟨record, hPhase, hTick, hPending⟩ :=
    step_tickNext (s := showdownJoined.wait 33333333) 101 .inMatch (by decide +kernel)
  have hSeparate : (showdownJoined.wait 33333333).Separate (.loop (.ticked record)) := by
    refine fun _ => ⟨fun hEnds => ?_, fun _ event hEvent => by cases hEvent⟩
    rw [hPhase] at hEnds
    cases hEnds.2
  refine ⟨_, hDue.snoc ⟨hTick, hSeparate⟩, fun event hEvent hChange => ?_⟩
  change event ∈ (showdownJoined.wait 33333333).tickNext.pendingSnapshotEvents at hEvent
  rw [hPending] at hEvent
  split at hEvent
  · cases hEvent
  · rw [← hPhase]
    exact carries_appendOutputs (fun other hOther => by cases hOther) event hEvent hChange

/-- A snapshot repeats the start of the match, and it is announced once. -/
theorem phases_announced_once_showdown :
    showdownShown.entered = [.preMatch, .inMatch] ∧ showdownShown.AnnouncedOnce 1 := by
  obtain ⟨trace, run, hWaiting⟩ := run_showdownStarted
  have hIdle : showdownStarted.server.tickFrames = [] := List.isEmpty_iff.mp (by decide +kernel)
  obtain ⟨record, hPhase, hTick, -⟩ :=
    step_tickNext (s := showdownStarted.wait 66666666) 101 .inMatch (by decide +kernel)
  have hSeparate : (showdownStarted.wait 66666666).Separate (.loop (.ticked record)) := by
    intro _
    rw [hPhase]
    exact ⟨fun hEnds => (by cases hEnds.2), fun _ => hWaiting⟩
  have hShown := (run.snoc (step_wait _ 101 66666666 hIdle)).snoc ⟨hTick, hSeparate⟩
  exact ⟨by decide +kernel, (phases_announced_once_iff hShown 1).2.2.1⟩

/-- A match that starts and ends between two snapshots is announced over again by the second of
them. -/
theorem phases_announced_again :
    ¬ ∀ (setup : ServerSetup ℚ) (matchStateBroadcastOnSnapshot : Bool) (peerToken : PeerToken)
      (trace : List (Event ℚ)) (s : PhaseRelay ℚ),
      Run (Step matchStateBroadcastOnSnapshot peerToken) { server := create setup } trace s →
        ∀ localPlayerId, s.AnnouncedOnce localPlayerId := by
  intro hClaim
  obtain ⟨trace, run, -⟩ := run_showdownStarted
  have hStarted : Run (Step false 101) { server := create showdown } trace showdownStarted :=
    run.mono fun _ _ _ hStep => hStep.1
  have hIdle : showdownStarted.server.tickFrames = [] := List.isEmpty_iff.mp (by decide +kernel)
  have hShot := hStarted.snoc (step_received _ 101 101 deadlyShot hIdle (by decide)
    (Or.inr fun _ hSame => by cases hSame)).1
  have hDue := hShot.snoc (step_wait _ 101 66666666
    (List.isEmpty_iff.mp (by decide +kernel))).1
  obtain ⟨record, -, hTick, -⟩ := step_tickNext
    (s := (showdownStarted.received 101 deadlyShot).wait 66666666) 101 .postMatch (by decide +kernel)
  obtain ⟨shown, feed, told, untold, hShown, hEntered, hTold, hAll⟩ :=
    hClaim showdown false 101 _ showdownEnded (hDue.snoc hTick) 1 showdownEnded.sent []
      (List.append_nil _).symm
  have hAnnounced : ((consumePackets 1 {} showdownEnded.sent).map fun answer =>
      announcements answer.1).toOption =
        some ["Phase: pre_match (1s)", "Phase: in_match (600s)", "Phase: post_match (0s)",
          "Phase: in_match (600s)", "Phase: post_match (0s)"] := by
    decide +kernel
  have hPhases : showdownEnded.entered = [.preMatch, .inMatch, .postMatch] := by decide +kernel
  rw [hAll rfl, List.append_nil] at hEntered
  rw [hShown] at hAnnounced
  injection hAnnounced with hTexts
  dsimp only at hTexts
  have hLength := hTold.length_eq
  rw [hTexts, ← hEntered, hPhases] at hLength
  exact absurd hLength (by decide)

end PhaseRelay

end DevyFps.Replication
