import DevyFps.Client.ClientRuns
import DevyFps.Replication.Reception
import DevyFps.Server.AmountBounds
import DevyFps.Server.SnapshotContent
import Mathlib.Data.List.Find

/-! The head-up display of a player and the state of the server. A snapshot brings the display up
to date, and the messages of the ticks keep it so, until the player is respawned. -/

namespace DevyFps.Replication

open Foundations Net Client Server
open Server.MainLoop (LoopEvent LoopStep PlayerFacts Displayable Meant)
open Server.ServerHost (HostStep picture)
open Server.InventoryLootSimulation (overwrite)

variable {F : Type} [SingleFloat F]

/-- The display shows what the server holds of the player. -/
structure Shows (hud : AuthoritativeHudModel) (facts : PlayerFacts) : Prop where
  hasPlayerState : hud.hasPlayerState = true
  vitals : facts.vitals = some (hud.health, hud.alive)
  coins : hud.coins = facts.totals.totalValue
  inventoryItems : hud.inventoryItems = facts.totals.itemCount
  matchState : hud.matchState = facts.phase.toString

/-! The readers of the display on a document that arrives. -/

/-- A text is read exactly if the field holds one. -/
theorem readText_eq_some_iff {payload : Document F} {field text : String} :
    readText payload field = some text ↔ payload.member field = some (.string text) := by
  unfold readText
  split
  · rename_i found hMember
    rw [hMember]
    simp
  · rename_i hOther
    exact iff_of_false (by simp) (hOther text)

/-- A flag is read exactly if the field holds one. -/
theorem readFlag_eq_some_iff {payload : Document F} {field : String} {flag : Bool} :
    readFlag payload field = some flag ↔ payload.member field = some (.boolean flag) := by
  unfold readFlag
  split
  · rename_i found hMember
    rw [hMember]
    simp
  · rename_i hOther
    exact iff_of_false (by simp) (hOther flag)

/-- A text arrives as it was sent. -/
theorem readText_arrived (payload : Document F) (field : String) :
    readText (arrived payload) field = readText payload field := by
  ext text
  rw [readText_eq_some_iff, readText_eq_some_iff, Json.member_delivered, Option.map_eq_some_iff]
  simp only [Json.delivered_eq_string_iff, exists_eq_right]

theorem readFlag_arrived (payload : Document F) (field : String) :
    readFlag (arrived payload) field = readFlag payload field := by
  ext flag
  rw [readFlag_eq_some_iff, readFlag_eq_some_iff, Json.member_delivered, Option.map_eq_some_iff]
  simp only [Json.delivered_eq_boolean_iff, exists_eq_right]

/-- An `int` that was sent. -/
theorem readI32_fits {n : Int} (h : FitsInt n) : readI32 (ofSigned n : Document F) = some n :=
  readI32_ofSigned ⟨h.1, by have := h.2; omega⟩

/-! The display on the packets of the server. -/

section Packets

variable {hud : AuthoritativeHudModel} {playerId : Nat}

/-- A hit changes the health of its victim on the display. -/
theorem read_toDamagePacket {event : DamageResolution} (hVictim : event.victimId < 2 ^ 32)
    (hHealth : FitsInt event.victimHealth) :
    hud.read playerId (toDamagePacket event : Net.Packet (SingleFloat.Double F)) =
      if event.victimId = playerId then
        { hud with
          health := event.victimHealth, hasPlayerState := true, alive := !event.lethal }
      else hud := by
  have hId : readU32 ((toDamagePacket event : Net.Packet (SingleFloat.Double F)).payload.value
      "victim_id" .null) = some event.victimId := readU32_ofUnsigned hVictim
  have hLeft : readI32 ((toDamagePacket event : Net.Packet (SingleFloat.Double F)).payload.value
      "victim_health" .null) = some event.victimHealth := readI32_fits hHealth
  have hLethal : readFlag (toDamagePacket event : Net.Packet (SingleFloat.Double F)).payload
      "lethal" = some event.lethal := rfl
  unfold AuthoritativeHudModel.read
  rw [(taken_toDamagePacket event).carried]
  change (hud.applyDamageEvent (arrived (toDamagePacket event).payload) playerId).2 = _
  unfold AuthoritativeHudModel.applyDamageEvent
  have hObject : (arrived (toDamagePacket event : Net.Packet (SingleFloat.Double F)).payload).isObject
      = true := rfl
  rw [hObject, Json.value_delivered, Json.value_delivered, readU32_arrived, readI32_arrived,
    readFlag_arrived, hId, hLeft, hLethal]
  by_cases hMine : event.victimId = playerId
  · simp [hMine, assignRead_eq]
  · simp [hMine]

/-- An inventory changes coins and items. -/
theorem read_inventoryUpdatePacket {summary : InventorySummary} (hPlayer : summary.playerId < 2 ^ 32)
    (hValue : FitsInt summary.totalValue) (hItems : summary.itemCount < 2 ^ 32) :
    hud.read summary.playerId
        (inventoryUpdatePacket summary : Net.Packet (SingleFloat.Double F)) =
      { hud with
        hasPlayerState := true
        coins := summary.totalValue
        inventoryItems := summary.itemCount } := by
  have hId : readU32 ((inventoryUpdatePacket summary :
      Net.Packet (SingleFloat.Double F)).payload.value "player_id" .null) =
        some summary.playerId := readU32_ofUnsigned hPlayer
  have hCoins : readI32 ((inventoryUpdatePacket summary :
      Net.Packet (SingleFloat.Double F)).payload.value "coins" .null) =
        some summary.totalValue := readI32_fits hValue
  have hCount : readU32 ((inventoryUpdatePacket summary :
      Net.Packet (SingleFloat.Double F)).payload.value "item_count" .null) =
        some summary.itemCount := readU32_ofUnsigned hItems
  have hObject : (arrived (inventoryUpdatePacket summary :
      Net.Packet (SingleFloat.Double F)).payload).isObject = true := rfl
  unfold AuthoritativeHudModel.read
  rw [(taken_inventoryUpdatePacket summary).carried]
  change (hud.applyInventoryUpdate (arrived (inventoryUpdatePacket summary).payload) _).2 = _
  unfold AuthoritativeHudModel.applyInventoryUpdate
  rw [hObject, Json.value_delivered, Json.value_delivered, Json.value_delivered, readU32_arrived,
    readU32_arrived, readI32_arrived, hId, hCoins, hCount]
  simp [assignRead_eq, assignIfChanged_eq]

/-- The phase is shown from whatever tells of the state of the match. -/
theorem applyMatchState_arrived (state : MatchLifecycleState) (scoreboard : List MatchScoreEntry)
    (includeScoreboard : Bool) :
    ∃ seconds, (hud.applyMatchState (arrived
        (buildMatchStatePayload state scoreboard includeScoreboard : Document F))).2 =
      { hud with matchState := state.phase.toString, matchRemainingSeconds := seconds } := by
  have hObject : (arrived (buildMatchStatePayload state scoreboard includeScoreboard :
      Document F)).isObject = true := rfl
  have hPhase : readText (buildMatchStatePayload state scoreboard includeScoreboard :
      Document F) "state" = some state.phase.toString := by
    unfold buildMatchStatePayload
    cases includeScoreboard <;> rfl
  rw [hud.applyMatchState_eq hObject, readText_arrived, hPhase, Option.getD_some]
  exact ⟨_, rfl⟩

/-- A match state changes the phase, and the time that is left. -/
theorem read_buildMatchStatePacket (state : MatchLifecycleState)
    (scoreboard : List MatchScoreEntry) :
    ∃ seconds, hud.read playerId
        (buildMatchStatePacket state scoreboard : Net.Packet (SingleFloat.Double F)) =
      { hud with matchState := state.phase.toString, matchRemainingSeconds := seconds } := by
  unfold AuthoritativeHudModel.read
  rw [(taken_buildMatchStatePacket state scoreboard).carried]
  exact applyMatchState_arrived state scoreboard true

end Packets

/-! A snapshot. -/

section Picture

variable {settings : OutboundSettings F} {setup : ServerSetup F} {t : MainLoop F}
  {session : SessionView}

theorem playerId_viewOf (t : MainLoop F) (settings : OutboundSettings F) (session : SessionView) :
    (t.viewOf settings session).playerId = session.playerId := by
  unfold MainLoop.viewOf
  dsimp only
  generalize t.movementSimulation.statesByPlayer.find session.playerId = motion
  generalize t.combatSimulation.playersById.find session.playerId = combat
  generalize t.inventoryLootSimulation.summaryFor session.playerId = inventory
  generalize t.matchLifecycleSimulation.buildScoreboard.find?
    (fun score => score.playerId = session.playerId) = score
  cases motion <;> cases combat <;> cases inventory <;> cases score <;> rfl

/-- What a snapshot tells of a player is what is held of it. -/
theorem facts_viewOf (settings : OutboundSettings F)
    (hKnown : t.combatSimulation.vitals session.playerId ≠ none) :
    t.combatSimulation.vitals session.playerId =
        some ((t.viewOf settings session).health, (t.viewOf settings session).alive) ∧
      (t.viewOf settings session).coins =
        (t.inventoryLootSimulation.totalsFor session.playerId).totalValue ∧
      (t.viewOf settings session).inventoryItems =
        (t.inventoryLootSimulation.totalsFor session.playerId).itemCount := by
  unfold CombatSimulation.vitals at hKnown ⊢
  unfold MainLoop.viewOf InventoryLootSimulation.totalsFor
  dsimp only
  generalize t.movementSimulation.statesByPlayer.find session.playerId = motion
  generalize t.combatSimulation.playersById.find session.playerId = combat at hKnown ⊢
  generalize t.inventoryLootSimulation.summaryFor session.playerId = inventory
  generalize t.matchLifecycleSimulation.buildScoreboard.find?
    (fun score => score.playerId = session.playerId) = score
  cases combat with
  | none => exact absurd rfl hKnown
  | some state =>
      cases motion <;> cases inventory <;> cases score <;> exact ⟨rfl, rfl, rfl⟩

/-- The display finds the entry of its player among the others. -/
theorem localPlayer_picture (hMeant : Meant settings setup) {trace : List (LoopEvent F)}
    (run : Run LoopStep (MainLoop.create setup) trace t)
    (hSession : session ∈ t.sessionManager.activeSessions) (tick : Nat)
    (events : List (Document F)) (update : PlayerWorldUpdate) :
    AuthoritativeHudModel.localPlayer (arrived (picture t settings tick events update).payload)
        session.playerId =
      some (arrived (playerToJson (t.viewOf settings session) session)) := by
  have hDistinct := MainLoop.distinct_sources hMeant run
  have hSmall : ∀ other ∈ t.sessionManager.activeSessions, other.playerId < 2 ^ 32 := by
    intro other hOther
    have hRange := (hDistinct.range other hOther).2
    have hLimit := hMeant.limit
    change other.playerId ≤ settings.maxPlayers at hRange
    omega
  have hElements : ((arrived (picture t settings tick events update).payload).value "players"
      .null).elements = t.sessionManager.activeSessions.map fun other =>
        arrived (playerToJson (t.viewOf settings other) other) := by
    rw [Json.value_delivered, Json.elements_delivered]
    exact List.map_map
  unfold AuthoritativeHudModel.localPlayer
  rw [hElements, List.find?_map]
  have hFind : t.sessionManager.activeSessions.find?
      (fun other => other.playerId = session.playerId) = some session :=
    find?_key hDistinct.sessions hSession
  have hSame : ∀ other ∈ t.sessionManager.activeSessions,
      (((fun player : Document F => player.isObject &&
          readU32 (player.value "player_id" .null) == some session.playerId) ∘
        fun other => arrived (playerToJson (t.viewOf settings other) other)) other) =
          decide (other.playerId = session.playerId) := by
    intro other hOther
    have hId : readU32 ((playerToJson (t.viewOf settings other) other).value "player_id" .null) =
        some other.playerId := by
      refine (readU32_ofUnsigned ?_).trans (congrArg some (playerId_viewOf t settings other))
      rw [playerId_viewOf]
      exact hSmall other hOther
    change (true && readU32 ((arrived (playerToJson (t.viewOf settings other) other)).value
      "player_id" .null) == some session.playerId) = _
    rw [Json.value_delivered, readU32_arrived, hId]
    simp [Bool.beq_eq_decide_eq]
  rw [List.find?_congr hSame, hFind]
  rfl

/-- A snapshot brings the display up to date. -/
theorem shows_picture (hMeant : Meant settings setup) (hDisplayable : Displayable setup)
    {trace : List (LoopEvent F)} (run : Run LoopStep (MainLoop.create setup) trace t)
    (hSession : session ∈ t.sessionManager.activeSessions) (tick : Nat)
    {events : List (Document F)} (hEvents : PlainEvents events) (update : PlayerWorldUpdate)
    (hud : AuthoritativeHudModel) :
    Shows (hud.read session.playerId (picture t settings tick events update))
      (t.factsOf session.playerId) := by
  have hKnown := (MainLoop.cast_run run).vitals_ne_none
    (SessionManager.seat_of_mem_activeSessions hSession)
  obtain ⟨hVitals, hCoins, hItems⟩ := facts_viewOf settings hKnown
  obtain ⟨hHealth, hValue⟩ := MainLoop.fits_run hDisplayable run session.playerId
  have hCount := MainLoop.itemCount_totalsFor t.inventoryLootSimulation session.playerId
  let view := t.viewOf settings session
  let player : Document F := playerToJson view session
  have hReadHealth : readI32 (player.value "health" .null) = some view.health :=
    readI32_fits (hHealth _ _ hVitals)
  have hReadAlive : readFlag player "alive" = some view.alive := rfl
  have hReadCoins : readI32 (player.value "coins" .null) = some view.coins :=
    readI32_fits (hCoins ▸ hValue)
  have hReadItems : readU32 (player.value "inventory_items" .null) = some view.inventoryItems :=
    readU32_ofUnsigned (hItems ▸ hCount)
  have hPlayer := (hud.applyPlayer_eq (arrived player))
  rw [Json.value_delivered, Json.value_delivered, Json.value_delivered, Json.value_delivered,
    readI32_arrived, readI32_arrived, readU32_arrived, readU32_arrived, readFlag_arrived,
    hReadHealth, hReadAlive, hReadCoins, hReadItems] at hPlayer
  simp only [Option.getD_some] at hPlayer
  have hPhase : ∃ seconds, ((hud.applyPlayer (arrived player)).2.applyMatchState (arrived
      (buildMatchStatePayload (t.matchLifecycleSimulation.state t.tickInterval)
        t.matchLifecycleSimulation.buildScoreboard settings.snapshotIncludeMatchScoreboard :
          Document F))).2 = { (hud.applyPlayer (arrived player)).2 with
            matchState := t.matchLifecycleSimulation.phase.toString
            matchRemainingSeconds := seconds } :=
    applyMatchState_arrived _ _ _
  obtain ⟨seconds, hState⟩ := hPhase
  have hRead : hud.read session.playerId (picture t settings tick events update) =
      ((hud.applyPlayer (arrived player)).2.applyMatchState (arrived (buildMatchStatePayload
        (t.matchLifecycleSimulation.state t.tickInterval)
        t.matchLifecycleSimulation.buildScoreboard settings.snapshotIncludeMatchScoreboard :
          Document F))).2 := by
    have hTaken : Taken (picture t settings tick events update) :=
      taken_snapshotPacket tick _ hEvents _ _ update
    unfold AuthoritativeHudModel.read
    rw [hTaken.carried]
    change (hud.applySnapshot (arrived (picture t settings tick events update).payload)
      session.playerId).2 = _
    unfold AuthoritativeHudModel.applySnapshot
    rw [localPlayer_picture hMeant run hSession]
    rfl
  rw [hRead, hState, hPlayer]
  exact
    { hasPlayerState := rfl
      vitals := hVitals
      coins := hCoins
      inventoryItems := hItems
      matchState := rfl }

end Picture

/-! The messages between two snapshots. -/

section Messages

variable {hud : AuthoritativeHudModel} {facts : PlayerFacts}

/-- Every strike on the player is shown, and no other one is. -/
theorem shows_strikes (playerId : Nat) {events : List DamageResolution}
    (hFits : ∀ event ∈ events, event.victimId < 2 ^ 32 ∧ FitsInt event.victimHealth)
    (h : Shows hud facts) :
    Shows ((events.map (toDamagePacket (F := F))).foldl (AuthoritativeHudModel.read playerId) hud)
      { facts with vitals := events.foldl (struck playerId) facts.vitals } := by
  induction events generalizing hud facts with
  | nil => exact h
  | cons event rest ih =>
      obtain ⟨hVictim, hHealth⟩ := hFits event List.mem_cons_self
      rw [List.map_cons, List.foldl_cons, List.foldl_cons, read_toDamagePacket hVictim hHealth]
      have hNow : Shows
          (if event.victimId = playerId then
            { hud with
              health := event.victimHealth, hasPlayerState := true, alive := !event.lethal }
          else hud)
          { facts with vitals := struck playerId facts.vitals event } := by
        unfold struck
        split
        · exact ⟨rfl, rfl, h.coins, h.inventoryItems, h.matchState⟩
        · exact h
      have hRest := ih (fun other hOther => hFits other (List.mem_cons_of_mem _ hOther)) hNow
      exact hRest

/-- So is every change of its inventory, of which it alone is told. -/
theorem shows_deltas {playerId : Nat} {deltas : List InventorySummary} (hPlayer : playerId < 2 ^ 32)
    (hFits : ∀ delta ∈ deltas, delta.playerId = playerId →
      FitsInt delta.totalValue ∧ delta.itemCount < 2 ^ 32)
    (h : Shows hud facts) :
    Shows (((deltas.filter fun delta => playerId = delta.playerId).map
        (inventoryUpdatePacket (F := F))).foldl (AuthoritativeHudModel.read playerId) hud)
      { facts with totals := deltas.foldl (overwrite playerId) facts.totals } := by
  induction deltas generalizing hud facts with
  | nil => exact h
  | cons delta rest ih =>
      have hRest := fun other hOther => hFits other (List.mem_cons_of_mem _ hOther)
      rw [List.foldl_cons]
      by_cases hMine : delta.playerId = playerId
      · obtain ⟨hValue, hItems⟩ := hFits delta List.mem_cons_self hMine
        have hHere : hud.read delta.playerId (inventoryUpdatePacket (F := F) delta) = _ :=
          read_inventoryUpdatePacket (hMine ▸ hPlayer) hValue hItems
        have hTold : overwrite playerId facts.totals delta = delta.totals := if_pos hMine
        rw [hMine] at hHere
        rw [List.filter_cons_of_pos (by simp [hMine]), List.map_cons, List.foldl_cons, hHere, hTold]
        have hNow : Shows
            { hud with
              hasPlayerState := true
              coins := delta.totalValue
              inventoryItems := delta.itemCount }
            { facts with totals := delta.totals } :=
          ⟨rfl, h.vitals, rfl, rfl, h.matchState⟩
        have hLater := ih hRest hNow
        exact hLater
      · have hTold : overwrite playerId facts.totals delta = facts.totals := if_neg hMine
        rw [List.filter_cons_of_neg (by simpa using Ne.symm hMine), hTold]
        exact ih hRest h

/-- Only the phase of what is shown changes with a match state. -/
theorem shows_state (playerId : Nat) (state : MatchLifecycleState)
    (scoreboard : List MatchScoreEntry) (h : Shows hud facts) :
    Shows (hud.read playerId (buildMatchStatePacket (F := F) state scoreboard))
      { facts with phase := state.phase } := by
  have hState : ∃ seconds, hud.read playerId (buildMatchStatePacket (F := F) state scoreboard) =
      { hud with matchState := state.phase.toString, matchRemainingSeconds := seconds } :=
    read_buildMatchStatePacket state scoreboard
  obtain ⟨seconds, hRead⟩ := hState
  rw [hRead]
  exact ⟨h.hasPlayerState, h.vitals, h.coins, h.inventoryItems, rfl⟩

end Messages

/-! The ticks of the server, as the display follows them. -/

section Ticks

variable {settings : OutboundSettings F} {setup : ServerSetup F} {s t : ServerHost F}
  {peerToken : PeerToken} {playerId : Nat}

/-- Whoever listens has a seat. -/
theorem seat_of_listener {loop : MainLoop F} (h : loop.listenerId peerToken = some playerId) :
    loop.sessionManager.seat peerToken = some playerId := by
  unfold MainLoop.listenerId at h
  split at h
  · exact h
  · cases h

/-- A snapshot that is due shows the state that its tick leaves, whatever was shown before. -/
theorem shows_due (hMeant : Meant settings setup) (hDisplayable : Displayable setup)
    {trace : List (HostEvent F)} (run : Run (HostStep settings) (ServerHost.create setup) trace s)
    {record : ServerTick F} {sent : List (SentPacket F)}
    (hStep : HostStep settings s ⟨.ticked record, sent⟩ t)
    (hListens : s.loop.listenerId peerToken = some playerId)
    (hDue : record.frame.snapshotDue = true) (hud : AuthoritativeHudModel) :
    Shows ((sentTo peerToken sent).foldl (AuthoritativeHudModel.read playerId) hud)
      (t.loop.factsOf playerId) := by
  have hLoop := hStep.loopStep
  have hTables := ServerHost.tables_run run
  have hPlain : PlainEvents (record.appendOutputs s.pendingSnapshotEvents).1 := by
    rw [appendOutputs_eq]
    intro event hEvent
    exact (List.mem_append.mp hEvent).elim ((taken_run run).1 event) (plain_tickEvents record event)
  obtain ⟨frame, rest, -, hRecord, hTicked⟩ := MainLoop.ticked_of_step hLoop
  have hUpdates : List.Forall₂ (fun session update => update.playerId = session.playerId)
      s.loop.listeners record.updates := by
    rw [hRecord, MainLoop.frame_runFrame] at hDue
    rw [hRecord]
    exact ServerHost.updates_of_due s.loop hDue
  obtain ⟨update, -, hOnly⟩ := ServerHost.exists_update hTables hUpdates hListens
  obtain ⟨session, hSession, -, hId⟩ :=
    SessionManager.exists_activeSession (seat_of_listener hListens)
  rw [hStep.sent_ticked, ServerHost.sentTo_tickPackets hTables fun _ => hUpdates, hListens]
  dsimp only
  unfold ServerHost.packetsFor
  dsimp only
  rw [if_pos hDue, hOnly, List.map_singleton, List.foldl_append, List.foldl_cons, List.foldl_nil,
    ServerHost.snapshotFor_eq hMeant (ServerHost.run_loop run) hLoop, ← hId]
  rw [← hTicked.sessionManager] at hSession
  exact shows_picture hMeant hDisplayable ((ServerHost.run_loop run).snoc hLoop) hSession _ hPlain
    update _

/-- Without a snapshot the messages of the tick do, as long as the player is not respawned. -/
theorem shows_tick (hMeant : Meant settings setup) (hDisplayable : Displayable setup)
    {trace : List (HostEvent F)} (run : Run (HostStep settings) (ServerHost.create setup) trace s)
    {record : ServerTick F} {sent : List (SentPacket F)}
    (hStep : HostStep settings s ⟨.ticked record, sent⟩ t)
    (hListens : s.loop.listenerId peerToken = some playerId)
    (hDue : record.frame.snapshotDue = false)
    (hStays : playerId ∉ record.lifecycle.respawnedPlayers) {hud : AuthoritativeHudModel}
    (h : Shows hud (s.loop.factsOf playerId)) :
    Shows ((sentTo peerToken sent).foldl (AuthoritativeHudModel.read playerId) hud)
      (t.loop.factsOf playerId) := by
  have hLoop := hStep.loopStep
  have hBefore := ServerHost.run_loop run
  have hTables := ServerHost.tables_run run
  have hSeat := seat_of_listener hListens
  have hSmall : ∀ id, s.loop.sessionManager.Seated id → id < 2 ^ 32 := by
    rintro id ⟨peer, hPeer⟩
    obtain ⟨session, hSession, -, rfl⟩ := SessionManager.exists_activeSession hPeer
    have hRange := ((MainLoop.distinct_sources hMeant hBefore).range session hSession).2
    have hLimit := hMeant.limit
    change session.playerId ≤ settings.maxPlayers at hRange
    omega
  obtain ⟨hVitals, hTotals⟩ := MainLoop.facts_tick (MainLoop.cast_run hBefore)
    (MainLoop.booked_run hBefore) hLoop hSeat hStays
  obtain ⟨hPhase, hChanged⟩ := MainLoop.reported_of_ticked hLoop
  have hStrikes : ∀ event ∈ record.combat.damageEvents,
      event.victimId < 2 ^ 32 ∧ FitsInt event.victimHealth := fun event hEvent =>
    have hStrike := MainLoop.fits_strike hDisplayable hBefore hLoop hEvent
    ⟨hSmall _ hStrike.1, hStrike.2⟩
  have hDeltas : ∀ delta ∈ record.inventory.inventoryDeltas, delta.playerId = playerId →
      FitsInt delta.totalValue ∧ delta.itemCount < 2 ^ 32 := fun delta hDelta _ =>
    MainLoop.fits_delta hDisplayable hBefore hLoop hDelta
  rw [hStep.sent_ticked, ServerHost.sentTo_tickPackets hTables fun hNow => absurd hNow (by simp [hDue]),
    hListens]
  dsimp only
  unfold ServerHost.packetsFor
  dsimp only
  have hHeld := shows_deltas (F := F) (hSmall playerId ⟨peerToken, hSeat⟩) hDeltas
    (shows_strikes (F := F) playerId hStrikes h)
  have hFacts : t.loop.factsOf playerId =
      { vitals := record.combat.damageEvents.foldl (struck playerId)
          (s.loop.combatSimulation.vitals playerId)
        totals := record.inventory.inventoryDeltas.foldl (overwrite playerId)
          (s.loop.inventoryLootSimulation.totalsFor playerId)
        phase := record.lifecycle.state.phase } := by
    unfold MainLoop.factsOf
    rw [hVitals, hTotals, hPhase]
  rw [hDue, if_neg Bool.false_ne_true, List.append_nil, List.foldl_append, List.foldl_append, hFacts]
  unfold ServerTick.matchPackets
  rw [hDue, Bool.false_and, Bool.or_false]
  cases hMoved : record.lifecycle.stateChanged with
  | true => exact shows_state (F := F) playerId _ _ hHeld
  | false =>
      have hSame : record.lifecycle.state.phase = s.loop.matchLifecycleSimulation.phase := by
        by_contra hOther
        rw [hChanged hOther] at hMoved
        cases hMoved
      rw [hSame]
      exact hHeld

/-- An event that neither ends the stay of a peer nor is a new join of it. -/
def Undisturbed (peerToken : PeerToken) (event : LoopEvent F) : Prop :=
  StaysIn peerToken event ∧ ∀ packet result, event ≠ .received peerToken packet (.join result)

/-- The peer goes on listening under the same id. -/
theorem listenerId_step {event : HostEvent F} (hTables : s.loop.sessionManager.TablesAgree)
    (hStep : HostStep settings s event t) (hUndisturbed : Undisturbed peerToken event.event)
    (hListens : s.loop.listenerId peerToken = some playerId) :
    t.loop.listenerId peerToken = some playerId := by
  have hStill := listens_step hTables hStep hUndisturbed.1 (by rw [hListens]; rfl)
  obtain ⟨id, hId⟩ := Option.isSome_iff_exists.mp hStill
  have hSeat := seat_of_listener hId
  rw [(MainLoop.peer_step hTables hStep.loopStep peerToken).1, seat_of_listener hListens] at hSeat
  rw [hId, ← hSeat]
  obtain ⟨hStays, hNoJoin⟩ := hUndisturbed
  cases hEvent : event.event with
  | received asker packet outcome =>
      rw [hEvent] at hNoJoin
      cases outcome with
      | join result =>
          refine if_neg fun hMine => ?_
          exact hNoJoin packet result (by rw [hMine.1])
      | _ => rfl
  | disconnected other session =>
      rw [hEvent] at hStays
      exact if_neg hStays
  | timedOut sessions =>
      rw [hEvent] at hStays
      exact if_neg hStays
  | _ => rfl

/-- Between two ticks the peer is told nothing. -/
theorem sentTo_quiet {event : HostEvent F} (hStep : HostStep settings s event t)
    (hNoJoin : ∀ packet result, event.event ≠ .received peerToken packet (.join result))
    (hQuiet : ∀ record, event.event ≠ .ticked record) : sentTo peerToken event.sent = [] := by
  cases hStep with
  | mk event loop hLoop =>
      cases event with
      | ticked record => exact absurd rfl (hQuiet record)
      | received asker packet outcome =>
          cases outcome with
          | join result =>
              refine (sentTo_answer peerToken asker _).trans (if_neg fun hMine => ?_)
              exact hNoJoin packet result (by rw [hMine])
          | _ => rfl
      | _ => rfl

/-- No packet of a step that does not answer a join is the answer to one. -/
theorem type_ne_joinAccept {event : HostEvent F} (hTables : s.loop.sessionManager.TablesAgree)
    (hStep : HostStep settings s event t)
    (hNoJoin : ∀ packet result, event.event ≠ .received peerToken packet (.join result)) :
    ∀ packet ∈ sentTo peerToken event.sent, packet.type ≠ .joinAccept := by
  intro packet hPacket
  by_cases hTick : ∃ record, event.event = .ticked record
  · obtain ⟨record, hRecord⟩ := hTick
    obtain ⟨happened, sent⟩ := event
    obtain rfl : happened = .ticked record := hRecord
    have hUpdates : record.frame.snapshotDue = true →
        List.Forall₂ (fun session update => update.playerId = session.playerId)
          s.loop.listeners record.updates := by
      obtain ⟨frame, rest, -, rfl, -⟩ := MainLoop.ticked_of_step hStep.loopStep
      rw [MainLoop.frame_runFrame]
      exact ServerHost.updates_of_due s.loop
    rw [hStep.sent_ticked, ServerHost.sentTo_tickPackets hTables hUpdates] at hPacket
    cases hListens : s.loop.listenerId peerToken with
    | none =>
        rw [hListens] at hPacket
        cases hPacket
    | some playerId =>
        have hTold : TickTold record.frame.tick playerId (s.packetsFor settings record playerId) :=
          ServerHost.tickTold_packetsFor hTables hUpdates hListens
        obtain ⟨damages, deltas, states, snapshots, hParts, -, hStates, -, hSnapshots, -⟩ :=
          hTold.parts
        rw [hListens] at hPacket
        dsimp only at hPacket
        rw [hParts, List.mem_append, List.mem_append, List.mem_append] at hPacket
        rcases hPacket with ((hDamage | hDelta) | hState) | hSnapshot
        · obtain ⟨event, -, rfl⟩ := List.mem_map.mp hDamage
          exact MessageType.noConfusion
        · obtain ⟨delta, -, rfl⟩ := List.mem_map.mp hDelta
          exact MessageType.noConfusion
        · rw [hStates packet hState]
          exact MessageType.noConfusion
        · rw [(hSnapshots packet hSnapshot).1]
          exact MessageType.noConfusion
  · rw [sentTo_quiet hStep hNoJoin (not_exists.mp hTick)] at hPacket
    cases hPacket

/-- One step of the server. A respawn that no snapshot follows at once is left out. -/
theorem shows_step (hMeant : Meant settings setup) (hDisplayable : Displayable setup)
    {trace : List (HostEvent F)} (run : Run (HostStep settings) (ServerHost.create setup) trace s)
    {event : HostEvent F} (hStep : HostStep settings s event t)
    (hListens : s.loop.listenerId peerToken = some playerId)
    (hUndisturbed : Undisturbed peerToken event.event)
    (hRespawns : ∀ record, event.event = .ticked record →
      playerId ∈ record.lifecycle.respawnedPlayers → record.frame.snapshotDue = true)
    {hud : AuthoritativeHudModel} (h : Shows hud (s.loop.factsOf playerId)) :
    Shows ((sentTo peerToken event.sent).foldl (AuthoritativeHudModel.read playerId) hud)
      (t.loop.factsOf playerId) := by
  by_cases hTick : ∃ record, event.event = .ticked record
  · obtain ⟨record, hRecord⟩ := hTick
    obtain ⟨happened, sent⟩ := event
    obtain rfl : happened = .ticked record := hRecord
    cases hDue : record.frame.snapshotDue with
    | true => exact shows_due hMeant hDisplayable run hStep hListens hDue hud
    | false =>
        refine shows_tick hMeant hDisplayable run hStep hListens hDue (fun hRespawned => ?_) h
        rw [hRespawns record rfl hRespawned] at hDue
        cases hDue
  · rw [not_exists] at hTick
    rw [sentTo_quiet hStep hUndisturbed.2 hTick]
    have hCast := MainLoop.cast_run (ServerHost.run_loop run)
    have hSame := MainLoop.facts_step hCast hStep.loopStep (seat_of_listener hListens)
      (fun hLeft => ?_) hTick
    · rw [hSame]
      exact h
    · rcases MainLoop.left_mem_deedsOf hLeft with ⟨session, hGone⟩ | ⟨sessions, hGone, hMem⟩
      · have hStays := hUndisturbed.1
        rw [hGone] at hStays
        exact hStays rfl
      · have hStays := hUndisturbed.1
        rw [hGone] at hStays
        exact hStays hMem

/-- Over every undisturbed run the display follows the packets, by induction on its steps. -/
theorem shows_run (hMeant : Meant settings setup) (hDisplayable : Displayable setup)
    {before trace : List (HostEvent F)}
    (hBefore : Run (HostStep settings) (ServerHost.create setup) before s)
    (run : Run (HostStep settings) s trace t)
    (hListens : s.loop.listenerId peerToken = some playerId)
    (hUndisturbed : ∀ event ∈ trace, Undisturbed peerToken event.event)
    (hRespawns : ∀ event ∈ trace, ∀ record, event.event = .ticked record →
      playerId ∈ record.lifecycle.respawnedPlayers → record.frame.snapshotDue = true)
    {hud : AuthoritativeHudModel} (h : Shows hud (s.loop.factsOf playerId)) :
    t.loop.listenerId peerToken = some playerId ∧
      (∀ packet ∈ trace.flatMap fun event => sentTo peerToken event.sent,
        packet.type ≠ .joinAccept) ∧
      Shows ((trace.flatMap fun event => sentTo peerToken event.sent).foldl
        (AuthoritativeHudModel.read playerId) hud) (t.loop.factsOf playerId) := by
  induction run with
  | nil => exact ⟨hListens, fun _ hNone => absurd hNone List.not_mem_nil, h⟩
  | @snoc m t trace event prior last ih =>
      have hLast : event ∈ trace ++ [event] := List.mem_append_right _ (List.mem_singleton_self _)
      obtain ⟨hStill, hTypes, hShown⟩ := ih
        (fun other hOther => hUndisturbed other (List.mem_append_left _ hOther))
        (fun other hOther => hRespawns other (List.mem_append_left _ hOther))
      have hRun := hBefore.trans prior
      have hTables := ServerHost.tables_run hRun
      rw [List.flatMap_append, List.flatMap_singleton, List.foldl_append]
      refine ⟨listenerId_step hTables last (hUndisturbed event hLast) hStill,
        fun packet hPacket => ?_, ?_⟩
      · rcases List.mem_append.mp hPacket with hOld | hNew
        · exact hTypes packet hOld
        · exact type_ne_joinAccept hTables last (hUndisturbed event hLast).2 packet hNew
      · exact shows_step hMeant hDisplayable hRun last hStill (hUndisturbed event hLast)
          (hRespawns event hLast) hShown

end Ticks

section Mirror

variable {settings : OutboundSettings F} {setup : ServerSetup F} {clientSettings : ClientSettings}
  {s t u : ServerHost F} {client shown : ClientLoop F} {peerToken : PeerToken} {playerId : Nat}

/-- Once a client has read a snapshot and all that it was sent since, whatever else it has done in
between, its head-up display shows what the server holds of its player: health and life, coins and
items, and the phase of the match. The player must not have been respawned after the snapshot. -/
theorem hud_mirrors_player (hMeant : Meant settings setup) (hDisplayable : Displayable setup)
    {before trace : List (HostEvent F)}
    (hBefore : Run (HostStep settings) (ServerHost.create setup) before s)
    (hListens : s.loop.listenerId peerToken = some playerId)
    {record : ServerTick F} {sent : List (SentPacket F)}
    (hSnapshot : HostStep settings s ⟨.ticked record, sent⟩ t)
    (hDue : record.frame.snapshotDue = true)
    (run : Run (HostStep settings) t trace u)
    (hUndisturbed : ∀ event ∈ trace, Undisturbed peerToken event.event)
    (hRespawns : ∀ event ∈ trace, ∀ record, event.event = .ticked record →
      playerId ∈ record.lifecycle.respawnedPlayers → record.frame.snapshotDue = true)
    (hPlaying : client.isPlaying = true) (hId : client.localPlayerId = playerId)
    {deeds : List (ClientEvent F)} (hClient : Run (ClientStep clientSettings) client deeds shown)
    (hConnected : .disconnected ∉ deeds)
    (hRead : packetsRead deeds =
      sentTo peerToken sent ++ trace.flatMap fun event => sentTo peerToken event.sent) :
    Shows shown.authoritativeHud (u.loop.factsOf playerId) := by
  have hTables := ServerHost.tables_run hBefore
  have hTick : Undisturbed (F := F) peerToken (.ticked record) := ⟨trivial, by simp⟩
  have hFirst := shows_due hMeant hDisplayable hBefore hSnapshot hListens hDue client.authoritativeHud
  obtain ⟨-, hTypes, hLast⟩ := shows_run hMeant hDisplayable (hBefore.snoc hSnapshot) run
    (listenerId_step hTables hSnapshot hTick hListens) hUndisturbed hRespawns hFirst
  have hReads := ClientLoop.reads_run hClient hPlaying hConnected fun packet hPacket => ?_
  · rw [hReads.authoritativeHud, hRead, hId, List.foldl_append]
    exact hLast
  · rw [hRead] at hPacket
    rcases List.mem_append.mp hPacket with hTold | hLater
    · exact type_ne_joinAccept hTables hSnapshot hTick.2 packet hTold
    · exact hTypes packet hLater

end Mirror

/-- A client can read whatever it is sent that it takes. -/
theorem exists_reading {packets : List (Net.Packet (SingleFloat.Double F))}
    (hTaken : ∀ packet ∈ packets, Taken packet) (settings : ClientSettings)
    (client : ClientLoop F) :
    ∃ deeds shown, Run (ClientStep settings) client deeds shown ∧ packetsRead deeds = packets ∧
      .disconnected ∉ deeds := by
  induction packets using List.reverseRecOn with
  | nil => exact ⟨[], client, .nil _, rfl, List.not_mem_nil⟩
  | append_singleton packets packet ih =>
      obtain ⟨deeds, shown, run, hRead, hConnected⟩ := ih fun other hOther =>
        hTaken other (List.mem_append_left _ hOther)
      have hLast := hTaken packet (List.mem_append_right _ (List.mem_singleton_self _))
      obtain ⟨next, hNext⟩ := hLast.digestible.returns_receive shown settings 0
      refine ⟨deeds ++ [.read packet], next, run.snoc (.read shown next 0 packet hNext), ?_, ?_⟩
      · unfold packetsRead at hRead ⊢
        rw [List.filterMap_append, hRead]
        rfl
      · simpa using hConnected

open Server.ServerHost (duelSettings)

/-- A duel with light treasure that appears where the players stand. -/
def treasureHunt : ServerSetup ℚ :=
  { MainLoop.duel with
    treasures := InventoryLootSimulation.lightDefinitions
    inventory := { spawnIntervalTicks := 1, worldSizeXUnits := 1, worldSizeYUnits := 1 } }

/-- The hunt has as many seats as it tells the clients. -/
theorem meant_treasureHunt : Meant duelSettings treasureHunt := ⟨rfl, by decide⟩

theorem displayable_treasureHunt : Displayable treasureHunt where
  health := by decide +kernel
  loads := InventoryLootSimulation.bearable_lightDefinitions

/-- Two peers are connected and seated, and two ticks are due. -/
def huntDue : MainLoop ℚ :=
  ((({ MainLoop.create treasureHunt with peersByToken := {102, 101} }).receive 101
    (.joinRequest SessionManager.alpha) 0).2.receive 102 (.joinRequest SessionManager.bravo) 0).2.advance
      66666666

/-- The second player has been sent a snapshot, asks for the treasure, and the next ticks are
due. -/
def huntAsked : MainLoop ℚ :=
  (huntDue.tickNext.tickNext.receive 102 (.message (.treasurePickup (some
    { playerId := 2, pickupSeq := 1, spawnId := 1 }))) 0).2.advance 133333333

/-- The peers connect and join. -/
theorem run_huntDue : ∃ (trace : List (HostEvent ℚ)),
    Run (HostStep duelSettings) (ServerHost.create treasureHunt) trace ⟨huntDue, []⟩ := by
  have hFirst : HostStep duelSettings (ServerHost.create treasureHunt) _ _ :=
    .mk _ (.connected 101) _ (.connect (MainLoop.create treasureHunt) 101 rfl)
  have hSecond := (Run.single hFirst).snoc (.mk _ (.connected 102) _ (.connect _ 102 rfl))
  have hAlpha := hSecond.snoc (.mk _ (.received 101 (.joinRequest SessionManager.alpha) _) _
    (.receive _ 101 (.joinRequest SessionManager.alpha) 0 rfl (by decide)))
  have hBravo := hAlpha.snoc (.mk _ (.received 102 (.joinRequest SessionManager.bravo) _) _
    (.receive _ 102 (.joinRequest SessionManager.bravo) 0 rfl (by decide)))
  exact ⟨_, hBravo.snoc (.mk _ .advanced _ (.advance _ 66666666 rfl))⟩

/-- The hunt until the second tick, which sends a snapshot. -/
theorem exists_hunt_snapshot :
    ∃ (before : List (HostEvent ℚ)) (s t : ServerHost ℚ) (record : ServerTick ℚ)
      (sent : List (SentPacket ℚ)),
      Run (HostStep duelSettings) (ServerHost.create treasureHunt) before s ∧
        HostStep duelSettings s ⟨.ticked record, sent⟩ t ∧ record.frame.snapshotDue = true ∧
        s.loop.listenerId 102 = some 2 ∧ t.loop = huntDue.tickNext.tickNext := by
  obtain ⟨early, hEarly⟩ := run_huntDue
  obtain ⟨first, hFirst⟩ := MainLoop.step_tickNext (s := huntDue) (by decide +kernel)
  obtain ⟨second, hSecond, hDue⟩ := MainLoop.exists_tickNext (s := huntDue.tickNext)
    (p := fun record => record.frame.snapshotDue) (by decide +kernel)
  have hListens : huntDue.tickNext.listenerId 102 = some 2 := by decide +kernel
  exact ⟨_, _, _, second, _, hEarly.snoc (.mk _ (.ticked first) _ hFirst),
    .mk _ (.ticked second) _ hSecond, hDue, hListens, rfl⟩

/-- The rest of the hunt after the snapshot: the second player asks for the treasure, and a tick
is run. -/
theorem exists_hunt_later {s : ServerHost ℚ} (hLoop : s.loop = huntDue.tickNext.tickNext) :
    ∃ (later : List (HostEvent ℚ)) (t : ServerHost ℚ) (record : ServerTick ℚ),
      Run (HostStep duelSettings) s later t ∧ t.loop = huntAsked.tickNext ∧
      record.lifecycle.respawnedPlayers = [] ∧
      ∀ event ∈ later, Undisturbed 102 event.event ∧
        ∀ other, event.event = .ticked other → other = record := by
  obtain ⟨loop, pending⟩ := s
  subst hLoop
  have hIdle : huntDue.tickNext.tickNext.tickFrames = [] := List.isEmpty_iff.mp (by decide +kernel)
  obtain ⟨record, hTick, hNone⟩ := MainLoop.exists_tickNext (s := huntAsked)
    (p := fun record => record.lifecycle.respawnedPlayers.isEmpty) (by decide +kernel)
  let ask : Message ℚ := .treasurePickup (some { playerId := 2, pickupSeq := 1, spawnId := 1 })
  have hNoJoin := huntDue.tickNext.tickNext.receive_message_ne_join 102 ask 0
  have hLoop := ((Run.single
    (LoopStep.receive huntDue.tickNext.tickNext 102 (.message ask) 0 hIdle (by decide))).snoc
      (.advance _ 133333333 (List.isEmpty_iff.mp (by decide +kernel)))).snoc hTick
  obtain ⟨later, t, run, hEvents, hReached⟩ :=
    ServerHost.exists_run_of_loop duelSettings (s := ⟨huntDue.tickNext.tickNext, pending⟩) hLoop
  refine ⟨later, t, record, run, hReached, List.isEmpty_iff.mp hNone, fun event hEvent => ?_⟩
  have hMem := List.mem_map_of_mem (f := HostEvent.event) hEvent
  rw [hEvents] at hMem
  simp only [List.cons_append, List.nil_append, List.mem_cons, List.not_mem_nil, or_false] at hMem
  rcases hMem with hEq | hEq | hEq
  · rw [hEq]
    refine ⟨⟨trivial, fun packet result hJoin => hNoJoin result ?_⟩, fun other hOther => ?_⟩
    · injection hJoin
    · cases hOther
  · rw [hEq]
    exact ⟨⟨trivial, fun _ _ hJoin => by cases hJoin⟩, fun other hOther => by cases hOther⟩
  · rw [hEq]
    exact ⟨⟨trivial, fun _ _ hJoin => by cases hJoin⟩, fun other hOther => by cases hOther; rfl⟩

/-- A client that plays reads the snapshot of the second tick, and then of the coin that its
player has collected. -/
theorem hud_mirrors_player_collected :
    ∃ (hud : AuthoritativeHudModel) (t : ServerHost ℚ),
      Shows hud (t.loop.factsOf 2) ∧ hud.coins = 5 := by
  obtain ⟨before, s, told, record, sent, hBefore, hSnapshot, hDue, hListens, hPictured⟩ :=
    exists_hunt_snapshot
  obtain ⟨later, t, last, run, hLoop, hNone, hLater⟩ := exists_hunt_later hPictured
  let client : ClientLoop ℚ := { ClientLoop.create {} {} with joined := true, localPlayerId := 2 }
  have hTaken : ∀ packet ∈ sentTo 102 sent ++ later.flatMap fun event => sentTo 102 event.sent,
      Taken packet := by
    have hSent := (taken_run ((hBefore.snoc hSnapshot).trans run)).2
    intro packet hPacket
    rcases List.mem_append.mp hPacket with hTold | hThen
    · obtain ⟨entry, hEntry, rfl⟩ := List.mem_map.mp hTold
      exact hSent _ (List.mem_append_left _ (List.mem_append_right _ (List.mem_singleton_self _)))
        entry (List.mem_of_mem_filter hEntry)
    · obtain ⟨event, hEvent, hFrom⟩ := List.mem_flatMap.mp hThen
      obtain ⟨entry, hEntry, rfl⟩ := List.mem_map.mp hFrom
      exact hSent event (List.mem_append_right _ hEvent) entry (List.mem_of_mem_filter hEntry)
  obtain ⟨deeds, shown, hClient, hRead, hConnected⟩ := exists_reading hTaken {} client
  have hShows := hud_mirrors_player meant_treasureHunt displayable_treasureHunt hBefore
    hListens hSnapshot hDue run
    (fun event hEvent => (hLater event hEvent).1)
    (fun event hEvent other hOther hRespawned => by
      rw [(hLater event hEvent).2 other hOther, hNone] at hRespawned
      cases hRespawned)
    (by decide +kernel) rfl hClient hConnected hRead
  refine ⟨_, t, hShows, ?_⟩
  rw [hShows.coins, hLoop]
  decide +kernel

end DevyFps.Replication
