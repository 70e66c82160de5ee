import DevyFps.Foundations.Addressed
import DevyFps.Server.Outbound
import DevyFps.Server.LoopTicks
import DevyFps.Server.ServerCast

/-! What one peer hears of a tick. A connected session gets every broadcast once, the inventory
updates of its own player and the chunks of its own position; any other peer gets nothing. -/

namespace DevyFps.Server

open Foundations Net
open MainLoop (LoopEvent LoopStep)

variable {F : Type} [SingleFloat F]

/-- The packets that were sent to one peer. -/
def sentTo (peerToken : PeerToken) (sent : List (SentPacket F)) :
    List (Net.Packet (SingleFloat.Double F)) :=
  (sent.filter fun entry => entry.peerToken = peerToken).map SentPacket.packet

@[simp] theorem sentTo_nil (peerToken : PeerToken) :
    sentTo peerToken ([] : List (SentPacket F)) = [] := rfl

@[simp] theorem sentTo_append (peerToken : PeerToken) (first later : List (SentPacket F)) :
    sentTo peerToken (first ++ later) = sentTo peerToken first ++ sentTo peerToken later := by
  simp [sentTo]

/-- An answer goes to the peer that asked, and to nobody else. -/
theorem sentTo_answer (peerToken asker : PeerToken)
    (packets : List (Net.Packet (SingleFloat.Double F))) :
    sentTo peerToken (packets.map fun packet => ⟨asker, packet⟩) =
      if asker = peerToken then packets else [] := by
  unfold sentTo
  rw [List.filter_map]
  split
  · rename_i hAsker
    simp [Function.comp_def, hAsker]
  · rename_i hOther
    simp [Function.comp_def, hOther]

namespace SessionManager

variable {s : SessionManager}

/-- Each peer with a session has one active session. -/
theorem nodup_peerToken_activeSessions (s : SessionManager) :
    (s.activeSessions.map SessionView.peerToken).Nodup := by
  unfold activeSessions
  rw [((sortBy_perm sessionLess _).map _).nodup_iff, List.map_map]
  exact (UnorderedMap.map_fst_items s.sessionsByPeer).symm ▸ s.sessionsByPeer.keys_nodup

/-- The active sessions are the seats. -/
theorem seat_of_mem_activeSessions {session : SessionView} (h : session ∈ s.activeSessions) :
    s.seat session.peerToken = some session.playerId := by
  unfold activeSessions at h
  obtain ⟨item, hItem, rfl⟩ := List.mem_map.mp (mem_sortBy.mp h)
  exact seat_eq_some.mpr ⟨item.2, UnorderedMap.mem_items_iff.mp hItem, rfl⟩

/-- A seat is that of an active session. -/
theorem exists_activeSession {peerToken : PeerToken} {playerId : Nat}
    (h : s.seat peerToken = some playerId) :
    ∃ session ∈ s.activeSessions, session.peerToken = peerToken ∧ session.playerId = playerId := by
  obtain ⟨record, hFind, rfl⟩ := seat_eq_some.mp h
  refine ⟨{ record.view with peerToken }, ?_, rfl, rfl⟩
  unfold activeSessions
  exact mem_sortBy.mpr
    (List.mem_map.mpr ⟨(peerToken, record), UnorderedMap.mem_items_iff.mpr hFind, rfl⟩)

/-- No two active sessions have the same player id. -/
theorem TablesAgree.nodup_playerId_activeSessions (h : s.TablesAgree) :
    (s.activeSessions.map SessionView.playerId).Nodup := by
  have hPeers := nodup_peerToken_activeSessions s
  have hNodup : s.activeSessions.Nodup := List.Nodup.of_map _ hPeers
  rw [List.nodup_map_iff_inj_on hNodup] at hPeers ⊢
  intro first hFirst second hSecond hSame
  refine hPeers first hFirst second hSecond (h.seat_unique (seat_of_mem_activeSessions hFirst) ?_)
  rw [hSame]
  exact seat_of_mem_activeSessions hSecond

end SessionManager

namespace MainLoop

variable {s : MainLoop F}

/-- The player id under which a peer is told what happens, if it is told. -/
def listenerId (s : MainLoop F) (peerToken : PeerToken) : Option Nat :=
  if peerToken ∈ s.peersByToken then s.sessionManager.seat peerToken else none

/-- A listener is an active session whose peer is connected. -/
theorem mem_listeners {session : SessionView} :
    session ∈ s.listeners ↔
      session ∈ s.sessionManager.activeSessions ∧ session.peerToken ∈ s.peersByToken := by
  simp [listeners]

/-- The player that a peer listens for is that of its session. -/
theorem listenerId_of_mem {session : SessionView} (h : session ∈ s.listeners) :
    s.listenerId session.peerToken = some session.playerId := by
  obtain ⟨hActive, hPeer⟩ := mem_listeners.mp h
  unfold listenerId
  rw [if_pos hPeer]
  exact SessionManager.seat_of_mem_activeSessions hActive

/-- Whoever listens is among the listeners. -/
theorem exists_listener {peerToken : PeerToken} {playerId : Nat}
    (h : s.listenerId peerToken = some playerId) :
    ∃ session ∈ s.listeners, session.peerToken = peerToken ∧ session.playerId = playerId := by
  unfold listenerId at h
  split at h
  · rename_i hPeer
    obtain ⟨session, hActive, hToken, hId⟩ := SessionManager.exists_activeSession h
    exact ⟨session, mem_listeners.mpr ⟨hActive, hToken ▸ hPeer⟩, hToken, hId⟩
  · cases h

/-- No peer listens twice. -/
theorem nodup_peerToken_listeners (s : MainLoop F) :
    (s.listeners.map SessionView.peerToken).Nodup :=
  (SessionManager.nodup_peerToken_activeSessions s.sessionManager).sublist
    (List.filter_sublist.map _)

/-- No player is listened for twice. -/
theorem nodup_playerId_listeners (h : s.sessionManager.TablesAgree) :
    (s.listeners.map SessionView.playerId).Nodup :=
  h.nodup_playerId_activeSessions.sublist (List.filter_sublist.map _)

/-- The peer of a player is that of its session. -/
theorem find_peersByPlayerId (h : s.sessionManager.TablesAgree) {session : SessionView}
    (hMem : session ∈ s.listeners) :
    s.peersByPlayerId.find session.playerId = some session.peerToken := by
  have hKeys := nodup_playerId_listeners h
  have hOnly := filter_key hKeys hMem
  unfold peersByPlayerId
  rw [find_foldl_set s.listeners ∅ hKeys, ← List.head?_filter, hOnly]
  rfl

/-- Who is told about an inventory. -/
theorem find_peersByPlayerId_iff (h : s.sessionManager.TablesAgree) {playerId : Nat}
    {peerToken : PeerToken} :
    s.peersByPlayerId.find playerId = some peerToken ↔
      s.listenerId peerToken = some playerId := by
  constructor
  · intro hFind
    unfold peersByPlayerId at hFind
    rw [find_foldl_set s.listeners ∅ (nodup_playerId_listeners h)] at hFind
    split at hFind
    · rename_i session hSession
      obtain rfl := Option.some.inj hFind
      have hId : session.playerId = playerId := by simpa using List.find?_some hSession
      exact hId ▸ listenerId_of_mem (List.mem_of_find?_eq_some hSession)
    · rw [UnorderedMap.find_empty] at hFind
      cases hFind
  · intro hId
    obtain ⟨session, hMem, rfl, rfl⟩ := exists_listener hId
    exact find_peersByPlayerId h hMem

/-! The packets of a tick, as one peer gets them. -/

/-- A broadcast reaches every listener once. -/
theorem sentTo_broadcast (s : MainLoop F) (peerToken : PeerToken)
    (packets : List (Net.Packet (SingleFloat.Double F))) :
    sentTo peerToken (s.broadcast packets) =
      if (s.listenerId peerToken).isSome then packets else [] := by
  have hOne : ∀ packet : Net.Packet (SingleFloat.Double F),
      sentTo peerToken (s.listeners.map fun session => ⟨session.peerToken, packet⟩) =
        if (s.listenerId peerToken).isSome then [packet] else [] := by
    intro packet
    unfold sentTo
    rw [List.filter_map, List.map_map]
    cases hId : s.listenerId peerToken with
    | none =>
        have hNone : s.listeners.filter (fun session => session.peerToken = peerToken) = [] := by
          refine filter_key_of_absent fun session hMem hSame => ?_
          rw [← hSame, listenerId_of_mem hMem] at hId
          cases hId
        simp [Function.comp_def, hNone]
    | some playerId =>
        obtain ⟨session, hMem, rfl, -⟩ := exists_listener hId
        have hOnly := filter_key (nodup_peerToken_listeners s) hMem
        simp [Function.comp_def, hOnly]
  unfold broadcast
  induction packets with
  | nil => simp
  | cons packet rest ih =>
      rw [List.flatMap_cons, sentTo_append, hOne, ih]
      split <;> simp

/-- An inventory is sent to its own player only. -/
theorem sentTo_inventoryPackets (h : s.sessionManager.TablesAgree) (peerToken : PeerToken)
    (inventoryDeltas : List InventorySummary) :
    sentTo peerToken (s.inventoryPackets inventoryDeltas) =
      (inventoryDeltas.filter fun summary =>
        s.listenerId peerToken = some summary.playerId).map inventoryUpdatePacket := by
  unfold inventoryPackets
  induction inventoryDeltas with
  | nil => rfl
  | cons summary rest ih =>
      rw [List.filterMap_cons]
      have hTold : s.peersByPlayerId.find summary.playerId = some peerToken ↔
          s.listenerId peerToken = some summary.playerId := find_peersByPlayerId_iff h
      cases hFind : s.peersByPlayerId.find summary.playerId with
      | none =>
          have hOther : s.listenerId peerToken ≠ some summary.playerId := by
            intro hId
            rw [hFind] at hTold
            cases hTold.mpr hId
          rw [List.filter_cons_of_neg (by simpa using hOther)]
          exact ih
      | some owner =>
          rw [hFind, Option.some.injEq] at hTold
          by_cases hOwner : owner = peerToken
          · rw [List.filter_cons_of_pos (by simpa using hTold.mp hOwner), List.map_cons, ← ih]
            simp [sentTo, hOwner]
          · rw [List.filter_cons_of_neg (by simpa using fun hId => hOwner (hTold.mpr hId)), ← ih]
            simp [sentTo, hOwner]

theorem playerId_buildPlayerUpdate (replication : WorldReplication) (playerId : Nat)
    (worldX worldZ : F) (world : Voxel.World F) :
    (replication.buildPlayerUpdate playerId worldX worldZ world).1.playerId = playerId := by
  have hRemoved : ∀ coords : List Voxel.ChunkCoord, ∀ state,
      (coords.foldl WorldReplication.unsubscribe state).2.playerId = state.2.playerId := by
    intro coords
    induction coords with
    | nil => exact fun _ => rfl
    | cons coord rest ih =>
        intro state
        rw [List.foldl_cons, ih]
        rfl
  have hFilled : ∀ coords : List Voxel.ChunkCoord, ∀ state,
      (coords.foldl replication.subscribe state).2.playerId = state.2.playerId := by
    intro coords
    induction coords with
    | nil => exact fun _ => rfl
    | cons coord rest ih =>
        intro state
        rw [List.foldl_cons, ih]
        unfold WorldReplication.subscribe
        dsimp only
        split
        · rfl
        · split
          · rfl
          · rfl
  unfold WorldReplication.buildPlayerUpdate
  simp only [hFilled, hRemoved]

/-- One world update for each connected session. -/
theorem updates_sendUpdates (s : MainLoop F) (movementStates : List (PlayerMotionState F))
    (sessions : List SessionView) (replication : WorldReplication) :
    List.Forall₂ (fun session update => update.playerId = session.playerId)
      (sessions.filter fun session => session.peerToken ∈ s.peersByToken)
      (s.sendUpdates movementStates sessions replication).1 := by
  induction sessions generalizing replication with
  | nil => exact .nil
  | cons session rest ih =>
      unfold sendUpdates
      by_cases hPeer : session.peerToken ∈ s.peersByToken
      · rw [List.filter_cons_of_pos (by simpa using hPeer), if_pos hPeer]
        refine .cons ?_ (ih _)
        exact playerId_buildPlayerUpdate replication session.playerId _ _ s.world
      · rw [List.filter_cons_of_neg (by simpa using hPeer), if_neg hPeer]
        exact ih _

/-- The world update of a player, for the place where the movement has it. -/
def updateFor (s : MainLoop F) (movementStates : List (PlayerMotionState F)) (playerId : Nat) :
    PlayerWorldUpdate :=
  let position := s.snapshotPosition movementStates playerId
  (s.worldReplication.buildPlayerUpdate playerId position.1 position.2 s.world).1

/-- The update of one player does not depend on what the others know. -/
theorem buildPlayerUpdate_congr {replication replication' : WorldReplication} {playerId : Nat}
    (hSame : replication' = { replication with playerStates := replication'.playerStates })
    (hState : replication'.playerState playerId = replication.playerState playerId)
    (x z : F) (world : Voxel.World F) :
    (replication'.buildPlayerUpdate playerId x z world).1 =
      (replication.buildPlayerUpdate playerId x z world).1 := by
  have hRelevant : replication'.gatherRelevantChunks x z world =
      replication.gatherRelevantChunks x z world := by
    rw [hSame]
    rfl
  have hSubscribe : replication'.subscribe = replication.subscribe := by
    rw [hSame]
    rfl
  unfold WorldReplication.buildPlayerUpdate
  dsimp only
  rw [hState, hRelevant, hSubscribe]

/-- The updates of different players are those that each would get alone. -/
theorem updateFor_sendUpdates (s : MainLoop F) (movementStates : List (PlayerMotionState F))
    (sessions : List SessionView) (hIds : (sessions.map SessionView.playerId).Nodup)
    (replication : WorldReplication)
    (hSame : replication = { s.worldReplication with playerStates := replication.playerStates })
    (hStates : ∀ session ∈ sessions, replication.playerState session.playerId =
      s.worldReplication.playerState session.playerId) :
    ∀ update ∈ (s.sendUpdates movementStates sessions replication).1,
      ∃ session ∈ sessions, update = s.updateFor movementStates session.playerId := by
  induction sessions generalizing replication with
  | nil => exact fun update hUpdate => nomatch hUpdate
  | cons session rest ih =>
      rw [List.map_cons, List.nodup_cons] at hIds
      have hLater : ∀ (after : WorldReplication),
          after = { s.worldReplication with playerStates := after.playerStates } →
          (∀ other ∈ rest, after.playerState other.playerId =
            s.worldReplication.playerState other.playerId) →
          ∀ update ∈ (s.sendUpdates movementStates rest after).1,
            ∃ session' ∈ session :: rest, update = s.updateFor movementStates session'.playerId := by
        intro after hAfter hOthers update hUpdate
        obtain ⟨other, hOther, hIts⟩ := ih hIds.2 after hAfter hOthers update hUpdate
        exact ⟨other, List.mem_cons_of_mem session hOther, hIts⟩
      have hRest : ∀ other ∈ rest, replication.playerState other.playerId =
          s.worldReplication.playerState other.playerId :=
        fun other hOther => hStates other (List.mem_cons_of_mem session hOther)
      unfold sendUpdates
      split
      · dsimp only
        intro update hUpdate
        rcases List.mem_cons.mp hUpdate with rfl | hUpdate
        · refine ⟨session, List.mem_cons_self, ?_⟩
          exact buildPlayerUpdate_congr hSame (hStates session List.mem_cons_self) _ _ s.world
        · refine hLater _ ?_ (fun other hOther => ?_) update hUpdate
          · unfold WorldReplication.buildPlayerUpdate
            rw [hSame]
          · have hNe : other.playerId ≠ session.playerId := fun hId =>
              hIds.1 (hId ▸ List.mem_map_of_mem hOther)
            rw [← hRest other hOther]
            unfold WorldReplication.buildPlayerUpdate WorldReplication.playerState
            dsimp only
            rw [UnorderedMap.find_set_ne _ _ hNe]
      · exact hLater replication hSame hRest

/-- A tick builds updates exactly if its snapshot is due. -/
theorem updates_runFrame (s : MainLoop F) (frame : TickFrame F) :
    (s.runFrame frame).1.updates =
      if frame.snapshotDue then
        (s.sendUpdates (s.movedIn frame).snapshot s.sessionManager.activeSessions
          s.worldReplication).1
      else [] := by
  unfold runFrame
  dsimp only
  split
  · rfl
  · rfl

end MainLoop

namespace ServerHost

/-- The packets of a tick for the player of a connected session. -/
def packetsFor (s : ServerHost F) (settings : OutboundSettings F) (record : ServerTick F)
    (playerId : Nat) : List (Net.Packet (SingleFloat.Double F)) :=
  let outputs := record.appendOutputs s.pendingSnapshotEvents
  outputs.2 ++
    (record.inventory.inventoryDeltas.filter fun summary =>
      playerId = summary.playerId).map inventoryUpdatePacket ++
    record.matchPackets settings.matchStateBroadcastOnSnapshot ++
    if record.frame.snapshotDue then
      (record.updates.filter fun update => update.playerId = playerId).map
        (s.loop.snapshotFor settings record outputs.1)
    else []

variable {s : ServerHost F} {settings : OutboundSettings F}

/-- A snapshot that is due goes with one world update for every connected session. -/
theorem updates_of_due (loop : MainLoop F) {frame : TickFrame F}
    (hDue : frame.snapshotDue = true) :
    List.Forall₂ (fun session update => update.playerId = session.playerId)
      loop.listeners (loop.runFrame frame).1.updates := by
  rw [MainLoop.updates_runFrame, if_pos hDue]
  exact loop.updates_sendUpdates _ _ _

/-- A snapshot reaches each listener with its own update. -/
theorem sentTo_snapshotPackets (h : s.loop.sessionManager.TablesAgree) {record : ServerTick F}
    (hUpdates : List.Forall₂ (fun session update => update.playerId = session.playerId)
      s.loop.listeners record.updates) (events : List (Document F)) (peerToken : PeerToken) :
    sentTo peerToken (s.loop.snapshotPackets settings record events) =
      match s.loop.listenerId peerToken with
      | none => []
      | some playerId =>
          (record.updates.filter fun update => update.playerId = playerId).map
            (s.loop.snapshotFor settings record events) := by
  unfold MainLoop.snapshotPackets sentTo
  cases hId : s.loop.listenerId peerToken with
  | none =>
      rw [filter_key_of_absent, List.map_nil]
      intro entry hEntry hSame
      obtain ⟨session, hMem, update, -, rfl⟩ := exists_of_mem_zipWith hEntry
      rw [← hSame, MainLoop.listenerId_of_mem hMem] at hId
      cases hId
  | some playerId =>
      obtain ⟨session, hMem, rfl, rfl⟩ := MainLoop.exists_listener hId
      rw [filter_zipWith SessionView.peerToken SentPacket.peerToken
        (fun _ _ => rfl) hUpdates (MainLoop.nodup_peerToken_listeners s.loop)
        (MainLoop.nodup_playerId_listeners h) hMem, List.map_map]
      rfl

/-- What a peer hears of a tick is what the player of its session is told, and nothing without
a session or a connection. -/
theorem sentTo_tickPackets (h : s.loop.sessionManager.TablesAgree) {record : ServerTick F}
    (hUpdates : record.frame.snapshotDue = true →
      List.Forall₂ (fun session update => update.playerId = session.playerId)
        s.loop.listeners record.updates) (peerToken : PeerToken) :
    sentTo peerToken (s.tickPackets settings record) =
      match s.loop.listenerId peerToken with
      | none => []
      | some playerId => s.packetsFor settings record playerId := by
  unfold tickPackets packetsFor
  simp only [sentTo_append, MainLoop.sentTo_broadcast, MainLoop.sentTo_inventoryPackets h]
  cases hDue : record.frame.snapshotDue with
  | false =>
      cases s.loop.listenerId peerToken with
      | none => simp
      | some playerId => simp
  | true =>
      simp only [if_true, sentTo_snapshotPackets h (hUpdates hDue)]
      cases s.loop.listenerId peerToken with
      | none => simp
      | some playerId => simp

/-- A due snapshot holds one world update for the player of a connected session. -/
theorem exists_update (h : s.loop.sessionManager.TablesAgree) {record : ServerTick F}
    (hUpdates : List.Forall₂ (fun session update => update.playerId = session.playerId)
      s.loop.listeners record.updates) {peerToken : PeerToken} {playerId : Nat}
    (hId : s.loop.listenerId peerToken = some playerId) :
    ∃ update, update.playerId = playerId ∧
      record.updates.filter (fun update => update.playerId = playerId) = [update] := by
  obtain ⟨session, hMem, -, rfl⟩ := MainLoop.exists_listener hId
  have hIds : record.updates.map PlayerWorldUpdate.playerId =
      s.loop.listeners.map SessionView.playerId := map_eq_map_of_forall₂ hUpdates
  have hNodup := MainLoop.nodup_playerId_listeners h
  obtain ⟨update, hUpdate, hSame⟩ :=
    List.mem_map.mp (hIds ▸ List.mem_map_of_mem (f := SessionView.playerId) hMem)
  refine ⟨update, hSame, ?_⟩
  rw [← hSame]
  exact filter_key (hIds ▸ hNodup) hUpdate

/-- That update is the one that replication makes for this very player. -/
theorem exists_own_update (h : s.loop.sessionManager.TablesAgree) {frame : TickFrame F}
    (hDue : frame.snapshotDue = true) {peerToken : PeerToken} {playerId : Nat}
    (hId : s.loop.listenerId peerToken = some playerId) :
    (s.loop.runFrame frame).1.updates.filter (fun update => update.playerId = playerId) =
      [s.loop.updateFor (s.loop.movedIn frame).snapshot playerId] := by
  obtain ⟨update, rfl, hOnly⟩ := exists_update h (updates_of_due s.loop hDue) hId
  have hMem := List.mem_filter.mp (hOnly ▸ List.mem_singleton_self update)
  have hUpdate := hMem.1
  rw [MainLoop.updates_runFrame, if_pos hDue] at hUpdate
  obtain ⟨session, -, hIts⟩ := s.loop.updateFor_sendUpdates (s.loop.movedIn frame).snapshot
    s.loop.sessionManager.activeSessions h.nodup_playerId_activeSessions s.loop.worldReplication rfl
    (fun _ _ => rfl) update hUpdate
  have hSession : update.playerId = session.playerId := by
    rw [hIts]
    exact MainLoop.playerId_buildPlayerUpdate s.loop.worldReplication session.playerId _ _
      s.loop.world
  rw [hOnly, hSession, ← hIts]

/-- The snapshots among the packets of a tick. -/
theorem filter_packetsFor (s : ServerHost F) (settings : OutboundSettings F)
    (record : ServerTick F) (playerId : Nat) :
    (s.packetsFor settings record playerId).filter (fun packet => packet.type = .stateSnapshot) =
      if record.frame.snapshotDue then
        (record.updates.filter fun update => update.playerId = playerId).map
          (s.loop.snapshotFor settings record (record.appendOutputs s.pendingSnapshotEvents).1)
      else [] := by
  have hDamages : (record.appendOutputs s.pendingSnapshotEvents).2.filter
      (fun packet => packet.type = .stateSnapshot) = [] := by
    rw [List.filter_eq_nil_iff]
    intro packet hPacket
    obtain ⟨event, -, rfl⟩ := List.mem_map.mp hPacket
    simp [toDamagePacket]
  have hStates : (record.matchPackets settings.matchStateBroadcastOnSnapshot).filter
      (fun packet => packet.type = .stateSnapshot) = [] := by
    unfold ServerTick.matchPackets
    split
    · simp [buildMatchStatePacket]
    · rfl
  have hInventories : ∀ deltas : List InventorySummary,
      (deltas.map (inventoryUpdatePacket (F := F))).filter
        (fun packet => packet.type = .stateSnapshot) = [] := by
    intro deltas
    rw [List.filter_eq_nil_iff]
    intro packet hPacket
    obtain ⟨delta, -, rfl⟩ := List.mem_map.mp hPacket
    simp [inventoryUpdatePacket]
  unfold ServerHost.packetsFor
  simp only [List.filter_append, hDamages, hInventories, hStates, List.nil_append]
  split
  · rw [List.filter_eq_self]
    intro packet hPacket
    obtain ⟨update, -, rfl⟩ := List.mem_map.mp hPacket
    rfl
  · rfl

end ServerHost

end DevyFps.Server
