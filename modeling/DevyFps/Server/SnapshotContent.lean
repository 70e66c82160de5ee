import DevyFps.Foundations.KeyedTable
import DevyFps.Server.Conversations
import DevyFps.Server.FinalScores
import DevyFps.Server.SessionAdmission

/-! What a snapshot tells in a run of the server. The lists from which it is put together are
those of the components as the tick leaves them, and so it is a picture of that state. -/

namespace DevyFps.Server

open Foundations Net
open MainLoop (LoopEvent LoopStep)

variable {F : Type} [SingleFloat F]

namespace SnapshotPlayerView

/-- What is written for a player that a component knows. -/
def writeFound {α : Type} (write : α → SnapshotPlayerView F → SnapshotPlayerView F)
    (state : Option α) (player : SnapshotPlayerView F) : SnapshotPlayerView F :=
  match state with
  | some found => write found player
  | none => player

end SnapshotPlayerView

/-- An inventory is found in the list as it is in the table. -/
theorem InventoryLootSimulation.Lawful.find?_inventorySnapshot {s : InventoryLootSimulation F}
    (h : s.Lawful) (playerId : Nat) :
    s.inventorySnapshot.find? (fun summary => summary.playerId = playerId) =
      s.summaryFor playerId := by
  cases hFind : s.summaryFor playerId with
  | some summary =>
      obtain ⟨player, hPlayer, hSummary⟩ := Option.map_eq_some_iff.mp hFind
      obtain rfl : summary.playerId = playerId := by
        rw [← hSummary]
        exact (h.players playerId player hPlayer).1
      exact find?_key h.snapshot_nodup (h.mem_inventorySnapshot.mpr hFind)
  | none =>
      rw [List.find?_eq_none]
      intro summary hSummary hId
      have hKnown := h.mem_inventorySnapshot.mp hSummary
      rw [of_decide_eq_true hId, hFind] at hKnown
      cases hKnown

namespace MainLoop

variable {s t : MainLoop F}

/-! The session manager within the loop. -/

theorem sessionManager_evictAll (sessions : List SessionView) (s : MainLoop F) :
    (sessions.foldl evict s).sessionManager = s.sessionManager := by
  induction sessions generalizing s with
  | nil => rfl
  | cons session rest ih => exact ih (s.evict session)

theorem sessions_served {peerToken : PeerToken} {session : SessionView} {now : TimePoint}
    {outcome : PacketOutcome F} (h : s.Served peerToken session now outcome t) :
    t.sessionManager = s.sessionManager ∨
      t.sessionManager = (s.sessionManager.handleHeartbeat peerToken now).2 := by
  cases h with
  | refused => exact Or.inl rfl
  | _ => exact Or.inr rfl

/-- A step of the loop makes one call on the session manager at most. -/
theorem sessions_step {event : LoopEvent F} (hStep : LoopStep s event t) :
    ∃ calls, Run SessionManager.SessionStep s.sessionManager calls t.sessionManager := by
  cases hStep with
  | connect peerToken hIdle => exact ⟨[], .nil _⟩
  | receive peerToken packet now hIdle hToken =>
      cases packet with
      | joinRequest playerName =>
          refine ⟨[.join peerToken playerName now], .single ?_⟩
          unfold receive
          rw [sessionManager_receiveJoin]
          exact .join s.sessionManager peerToken playerName now hToken
      | message message =>
          unfold receive
          dsimp only
          split
          · exact ⟨[], .nil _⟩
          · rename_i session hSession
            rcases sessions_served (s.served_receiveMessage peerToken session message now) with
              hSame | hHeard
            · rw [hSame]
              exact ⟨[], .nil _⟩
            · rw [hHeard]
              exact ⟨_, .single (.heartbeat s.sessionManager peerToken now)⟩
  | disconnect peerToken hIdle =>
      refine ⟨[.disconnect peerToken], .single ?_⟩
      unfold disconnect
      dsimp only
      split
      · exact .disconnect s.sessionManager peerToken
      · exact .disconnect s.sessionManager peerToken
  | timeOut now hIdle =>
      refine ⟨[.collect now], .single ?_⟩
      unfold timeOut
      dsimp only
      rw [sessionManager_evictAll]
      exact .collect s.sessionManager now
  | advance now hIdle => exact ⟨[], .nil _⟩
  | tick frame rest hFrames => exact ⟨[], .nil _⟩
  | reorder t hSame => exact ⟨_, .single (.reorder s.sessionManager t.sessionManager hSame.sessions)⟩

/-- The session manager of a loop is in a state that calls on it lead to. -/
theorem reachable_sessions {setup : ServerSetup F} {trace : List (LoopEvent F)}
    (run : Run LoopStep (create setup) trace s) :
    SessionManager.Reachable setup.session s.sessionManager := by
  refine run.invariant (I := fun s => SessionManager.Reachable setup.session s.sessionManager)
    ?_ ⟨[], .nil _⟩
  rintro s event t ⟨calls, hCalls⟩ hStep
  obtain ⟨more, hMore⟩ := sessions_step hStep
  exact ⟨calls ++ more, hCalls.trans hMore⟩

/-! The snapshot of a tick and the state that the tick leaves. -/

/-- The sources of a snapshot, read from a state of the loop. -/
def sources (t : MainLoop F) (settings : OutboundSettings F) : SnapshotSources F where
  maxPlayers := settings.maxPlayers
  combatStartingHealth := settings.combatStartingHealth
  matchRespawnsPerPlayer := settings.matchRespawnsPerPlayer
  activeSessions := t.sessionManager.activeSessions
  movementStates := t.movementSimulation.snapshot
  combatStates := t.combatSimulation.snapshot
  inventoryStates := t.inventoryLootSimulation.inventorySnapshot
  scoreboard := t.matchLifecycleSimulation.buildScoreboard

theorem scoreboard_playedIn (s : MainLoop F) (frame : TickFrame F) :
    (s.playedIn frame).1.scoreboard = (s.playedIn frame).2.buildScoreboard := by
  rw [playedIn_eq, MatchLifecycleSimulation.scoreboard_tickWith]

theorem snapshotSources_eq (settings : OutboundSettings F) {frame : TickFrame F}
    (hTicked : s.Ticked frame t) : s.snapshotSources settings frame = t.sources settings := by
  unfold snapshotSources sources
  rw [hTicked.sessionManager, hTicked.movementSimulation, hTicked.combatSimulation,
    hTicked.inventoryLootSimulation, hTicked.matchLifecycleSimulation, scoreboard_playedIn]

/-- The settings are those of the server that is set up. -/
structure Meant (settings : OutboundSettings F) (setup : ServerSetup F) : Prop where
  maxPlayers : settings.maxPlayers = setup.session.maxPlayers
  limit : settings.maxPlayers < 2 ^ 31

/-- In every state that the loop reaches the sources of a snapshot are distinct. -/
theorem distinct_sources {setup : ServerSetup F} {settings : OutboundSettings F}
    (hMeant : Meant settings setup) {trace : List (LoopEvent F)}
    (run : Run LoopStep (create setup) trace t) : (t.sources settings).Distinct where
  limit := hMeant.limit
  range session hSession := by
    have hSeat := SessionManager.seat_of_mem_activeSessions hSession
    obtain ⟨record, hFind, hId⟩ := SessionManager.seat_eq_some.mp hSeat
    have hRange := (cast_run run).tables.slot_range _ _ hFind
    rw [(reachable_sessions run).config_eq, hId] at hRange
    change 1 ≤ session.playerId ∧ session.playerId ≤ settings.maxPlayers
    rw [hMeant.maxPlayers]
    exact hRange
  sessions := (cast_run run).tables.nodup_playerId_activeSessions
  motions := CarriesKeys.nodup_sortBy (cast_run run).moverIds _
  combats := CarriesKeys.nodup_sortBy (cast_run run).fighterIds _
  inventories := (booked_run run).lawful.snapshot_nodup
  scores := (booked_run run).keyed.ranking.ids

open SnapshotPlayerView (writeFound writeMotion writeCombat writeInventory writeScore)

/-- What the components hold of the player of a session. -/
def viewOf (t : MainLoop F) (settings : OutboundSettings F) (session : SessionView) :
    SnapshotPlayerView F :=
  let playerId := session.playerId
  writeFound writeScore
    (t.matchLifecycleSimulation.buildScoreboard.find? fun score => score.playerId = playerId) <|
  writeFound writeInventory (t.inventoryLootSimulation.summaryFor playerId) <|
  writeFound writeCombat (t.combatSimulation.playersById.find playerId) <|
  writeFound writeMotion (t.movementSimulation.statesByPlayer.find playerId) <|
  (t.sources settings).freshView session

/-- The join of the sources by player id reads the tables of the components. -/
theorem joined_sources {setup : ServerSetup F} {settings : OutboundSettings F}
    {trace : List (LoopEvent F)} (run : Run LoopStep (create setup) trace t)
    (session : SessionView) : (t.sources settings).joined session = t.viewOf settings session := by
  have hMotion : t.movementSimulation.snapshot.find?
      (fun state => state.playerId = session.playerId) =
        t.movementSimulation.statesByPlayer.find session.playerId :=
    CarriesKeys.find?_sortBy (cast_run run).moverIds _ _
  have hCombat : t.combatSimulation.snapshot.find?
      (fun state => state.playerId = session.playerId) =
        t.combatSimulation.playersById.find session.playerId :=
    CarriesKeys.find?_sortBy (cast_run run).fighterIds _ _
  have hInventory : t.inventoryLootSimulation.inventorySnapshot.find?
      (fun state => state.playerId = session.playerId) =
        t.inventoryLootSimulation.summaryFor session.playerId :=
    (booked_run run).lawful.find?_inventorySnapshot _
  unfold SnapshotSources.joined viewOf sources
  dsimp only
  rw [hMotion, hCombat, hInventory]
  generalize t.movementSimulation.statesByPlayer.find session.playerId = motion
  generalize t.combatSimulation.playersById.find session.playerId = combat
  generalize t.inventoryLootSimulation.summaryFor session.playerId = inventory
  generalize t.matchLifecycleSimulation.buildScoreboard.find?
    (fun score => score.playerId = session.playerId) = score
  cases motion <;> cases combat <;> cases inventory <;> cases score <;> rfl

/-- Each component knows the player. -/
structure KnownTo (t : MainLoop F) (playerId : Nat) : Prop where
  movement : t.movementSimulation.knows playerId = true
  combat : t.combatSimulation.knows playerId = true
  inventory : t.inventoryLootSimulation.summaryFor playerId ≠ none
  scoreboard : Lists t.matchLifecycleSimulation.buildScoreboard playerId

/-- Every player with a session is known everywhere. -/
theorem known_of_active {setup : ServerSetup F} {trace : List (LoopEvent F)}
    (run : Run LoopStep (create setup) trace t) {session : SessionView}
    (hSession : session ∈ t.sessionManager.activeSessions) : t.KnownTo session.playerId := by
  have hKept := consistent_run run
  have hSeated : t.sessionManager.Seated session.playerId :=
    ⟨_, SessionManager.seat_of_mem_activeSessions hSession⟩
  have hOwner := hKept.roll.owners _ hSeated
  constructor
  · exact (hKept.cast.movers _).mpr hSeated
  · exact (hKept.cast.fighters _).mpr hSeated
  · unfold InventoryLootSimulation.summaryFor
    rw [Ne, Option.map_eq_none_iff]
    exact hOwner
  · by_contra hUnlisted
    exact hKept.roll.recorded _ hOwner (hKept.booked.not_recorded_of_unlisted hUnlisted)

end MainLoop

namespace ServerHost

variable {settings : OutboundSettings F} {setup : ServerSetup F} {s t : ServerHost F}

/-- The snapshot that shows a state of the loop. -/
def picture (t : MainLoop F) (settings : OutboundSettings F) (tick : Nat)
    (events : List (Document F)) (update : PlayerWorldUpdate) :
    Net.Packet (SingleFloat.Double F) :=
  snapshotPacket tick
    (t.sessionManager.activeSessions.map fun session =>
      playerToJson (t.viewOf settings session) session)
    events (spawnsToJson t.inventoryLootSimulation.activeSpawns)
    (buildMatchStatePayload (t.matchLifecycleSimulation.state t.tickInterval)
      t.matchLifecycleSimulation.buildScoreboard settings.snapshotIncludeMatchScoreboard)
    update

/-- The snapshot of a tick shows the state that the tick leaves. -/
theorem snapshotFor_eq (hMeant : MainLoop.Meant settings setup) {trace : List (LoopEvent F)}
    {loop after : MainLoop F} (run : Run LoopStep (MainLoop.create setup) trace loop)
    {record : ServerTick F} (hStep : LoopStep loop (.ticked record) after)
    (events : List (Document F)) (update : PlayerWorldUpdate) :
    loop.snapshotFor settings record events update =
      picture after settings record.frame.tick events update := by
  obtain ⟨frame, rest, -, hRecord, hTicked⟩ := MainLoop.ticked_of_step hStep
  have hAfter := run.snoc hStep
  have hPlayers : (loop.snapshotSources settings frame).players =
      after.sessionManager.activeSessions.map fun session =>
        playerToJson (after.viewOf settings session) session := by
    rw [MainLoop.snapshotSources_eq settings hTicked, SnapshotSources.players,
      (MainLoop.distinct_sources hMeant hAfter).snapshotPlayers_eq]
    change List.zipWith playerToJson
      (after.sessionManager.activeSessions.map (after.sources settings).joined)
      after.sessionManager.activeSessions = _
    rw [List.zipWith_map_left, List.zipWith_self]
    exact List.map_congr_left fun session _ => by
      rw [MainLoop.joined_sources hAfter]
  have hState : record.lifecycle.state = after.matchLifecycleSimulation.state after.tickInterval := by
    have hInterval : after.tickInterval = loop.tickInterval := by
      unfold MainLoop.tickInterval
      rw [hTicked.authoritativeLoop]
    rw [hRecord, MainLoop.lifecycle_runFrame, MainLoop.playedIn_eq,
      MatchLifecycleSimulation.state_tickWith, hTicked.matchLifecycleSimulation, hInterval,
      MainLoop.playedIn_eq]
    rfl
  have hBoard : record.lifecycle.scoreboard = after.matchLifecycleSimulation.buildScoreboard := by
    rw [hRecord]
    exact (MainLoop.told_of_ticked hTicked).1
  have hFrame : record.frame = frame := by
    rw [hRecord, MainLoop.frame_runFrame]
  unfold MainLoop.snapshotFor picture
  rw [hFrame, hPlayers, hState, hBoard, hTicked.inventoryLootSimulation]

/-- In every run, a snapshot that is due is a picture of the state that its tick leaves: for each
active session what the components hold of its player, who is known to all of them, the treasure
that lies about and the match. Every connected player gets one, with the events that are pending
and the chunk update that replication makes for that player where it now stands. -/
theorem snapshot_shows_state (hMeant : MainLoop.Meant settings setup)
    {trace : List (HostEvent F)} (run : Run (HostStep settings) (create setup) trace s)
    {record : ServerTick F} {sent : List (SentPacket F)}
    (hStep : HostStep settings s ⟨.ticked record, sent⟩ t)
    (hDue : record.frame.snapshotDue = true) :
    (∀ session ∈ t.loop.sessionManager.activeSessions, t.loop.KnownTo session.playerId) ∧
    ∀ peerToken playerId, s.loop.listenerId peerToken = some playerId →
      (sentTo peerToken sent).filter (fun packet => packet.type = .stateSnapshot) =
        [picture t.loop settings record.frame.tick
          (record.appendOutputs s.pendingSnapshotEvents).1
          (s.loop.updateFor t.loop.movementSimulation.snapshot playerId)] := by
  have hLoop := hStep.loopStep
  have hTables := tables_run run
  refine ⟨fun session hSession =>
    MainLoop.known_of_active ((run_loop run).snoc hLoop) hSession, fun peerToken playerId hId => ?_⟩
  obtain ⟨frame, rest, -, hRecord, hTicked⟩ := MainLoop.ticked_of_step hLoop
  have hFrame : frame.snapshotDue = true := by
    rw [hRecord, MainLoop.frame_runFrame] at hDue
    exact hDue
  have hUpdates : List.Forall₂ (fun session update => update.playerId = session.playerId)
      s.loop.listeners record.updates := by
    rw [hRecord]
    exact updates_of_due s.loop hFrame
  have hOnly : record.updates.filter (fun update => update.playerId = playerId) =
      [s.loop.updateFor t.loop.movementSimulation.snapshot playerId] := by
    rw [hRecord, hTicked.movementSimulation]
    exact exists_own_update hTables hFrame hId
  rw [hStep.sent_ticked, sentTo_tickPackets hTables fun _ => hUpdates, hId]
  dsimp only
  rw [filter_packetsFor, if_pos hDue, hOnly, List.map_singleton,
    snapshotFor_eq hMeant (run_loop run) hLoop]

/-- The second tick after a join sends a snapshot. -/
theorem step_due :
    ∃ (trace : List (HostEvent ℚ)) (s t : ServerHost ℚ) (record : ServerTick ℚ)
      (sent : List (SentPacket ℚ)),
      Run (HostStep duelSettings) (create MainLoop.duel) trace s ∧
        HostStep duelSettings s ⟨.ticked record, sent⟩ t ∧ record.frame.snapshotDue = true ∧
        s.loop.listenerId 101 = some 1 := by
  obtain ⟨before, hBefore, -⟩ := run_welcomed
  obtain ⟨first, hFirst⟩ :=
    MainLoop.step_tickNext (s := welcomed.loop.advance 66666666) (by decide +kernel)
  obtain ⟨second, hSecond, hDue⟩ := MainLoop.exists_tickNext
    (s := (welcomed.loop.advance 66666666).tickNext) (p := fun record => record.frame.snapshotDue)
    (by decide +kernel)
  have hAdvance : HostStep duelSettings welcomed _ _ :=
    .mk welcomed .advanced _ (.advance welcomed.loop 66666666 rfl)
  have hListens : (welcomed.loop.advance 66666666).tickNext.listenerId 101 = some 1 := by
    decide +kernel
  exact ⟨_, _, _, second, _, (hBefore.snoc hAdvance).snoc (.mk _ (.ticked first) _ hFirst),
    .mk _ (.ticked second) _ hSecond, hDue, by rw [loop_tell]; exact hListens⟩

theorem meant_duel : MainLoop.Meant duelSettings MainLoop.duel := ⟨rfl, by decide⟩

theorem snapshot_shows_state_welcomed :
    ∃ (s t : ServerHost ℚ) (record : ServerTick ℚ) (sent : List (SentPacket ℚ)),
      record.frame.snapshotDue = true ∧ t.loop.KnownTo 1 ∧
        (sentTo 101 sent).filter (fun packet => packet.type = .stateSnapshot) =
          [picture t.loop duelSettings record.frame.tick
            (record.appendOutputs s.pendingSnapshotEvents).1
            (s.loop.updateFor t.loop.movementSimulation.snapshot 1)] := by
  obtain ⟨trace, s, t, record, sent, run, hStep, hDue, hListens⟩ := step_due
  obtain ⟨hKnown, hSent⟩ := snapshot_shows_state meant_duel run hStep hDue
  obtain ⟨frame, -, -, -, hTicked⟩ := MainLoop.ticked_of_step hStep.loopStep
  obtain ⟨session, hMem, -, hId⟩ := MainLoop.exists_listener hListens
  have hActive : session ∈ t.loop.sessionManager.activeSessions := by
    rw [hTicked.sessionManager]
    exact (List.mem_filter.mp hMem).1
  exact ⟨s, t, record, sent, hDue, hId ▸ hKnown session hActive, hSent 101 1 hListens⟩

end ServerHost

end DevyFps.Server
