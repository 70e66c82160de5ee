import DevyFps.Foundations.Run
import DevyFps.Server.SessionManager
import Mathlib.Order.Interval.Finset.Nat

/-! The three session tables stay consistent through any sequence of joins,
heartbeats, disconnects and evictions, and admission follows from them. -/

namespace DevyFps.Server.SessionManager

/-- The same tables, possibly iterated in another order. -/
structure SameTables (s s' : SessionManager) : Prop where
  config : s'.config = s.config
  slotOwners : s'.slotOwners = s.slotOwners
  sessions : s.sessionsByPeer.SameContents s'.sessionsByPeer
  names : s.slotByPlayerName.SameContents s'.slotByPlayerName

inductive SessionEvent where
  | join (peerToken : PeerToken) (playerName : PlayerName) (now : TimePoint)
  | heartbeat (peerToken : PeerToken) (now : TimePoint)
  | disconnect (peerToken : PeerToken)
  | collect (now : TimePoint)
  | reorder

/-- One call on the manager. A peer that joins has a nonzero token, being an
address. Between calls the hash maps may be iterated in any other order. -/
inductive SessionStep : SessionManager → SessionEvent → SessionManager → Prop where
  | join (s : SessionManager) (peerToken : PeerToken) (playerName : PlayerName) (now : TimePoint)
      (hToken : peerToken ≠ 0) :
      SessionStep s (.join peerToken playerName now) (s.handleJoinRequest peerToken playerName now).2
  | heartbeat (s : SessionManager) (peerToken : PeerToken) (now : TimePoint) :
      SessionStep s (.heartbeat peerToken now) (s.handleHeartbeat peerToken now).2
  | disconnect (s : SessionManager) (peerToken : PeerToken) :
      SessionStep s (.disconnect peerToken) (s.handleDisconnect peerToken).2
  | collect (s : SessionManager) (now : TimePoint) :
      SessionStep s (.collect now) (s.collectTimedOut now).2
  | reorder (s s' : SessionManager) (hSame : s.SameTables s') : SessionStep s .reorder s'

/-- The states a manager reaches from its constructor. -/
def Reachable (config : SessionConfig) (s : SessionManager) : Prop :=
  ∃ trace, Run SessionStep (create config) trace s

/-- The working invariant. `name_slot` is what makes active names distinct: the
reservation of a name outlives the session and can only move to a free slot. -/
structure TablesAgree (s : SessionManager) : Prop where
  owners_length : s.slotOwners.length = s.config.maxPlayers + 1
  token : ∀ peer r, s.sessionsByPeer.find peer = some r → peer ≠ 0 ∧ r.peerToken = peer
  slot_range : ∀ peer r, s.sessionsByPeer.find peer = some r →
    1 ≤ r.playerId ∧ r.playerId ≤ s.config.maxPlayers
  slot_owner : ∀ peer r, s.sessionsByPeer.find peer = some r →
    s.slotOwners[r.playerId]? = some peer
  name_slot : ∀ peer r, s.sessionsByPeer.find peer = some r →
    s.slotByPlayerName.find r.playerName = some r.playerId
  owner_session : ∀ slot peer, s.slotOwners[slot]? = some peer → peer ≠ 0 →
    ∃ r, s.sessionsByPeer.find peer = some r ∧ r.playerId = slot
  name_range : ∀ name slot, s.slotByPlayerName.find name = some slot →
    1 ≤ slot ∧ slot ≤ s.config.maxPlayers

/-- Empty tables agree. -/
theorem tablesAgree_create (config : SessionConfig) : (create config).TablesAgree := by
  refine ⟨by simp [create], ?_, ?_, ?_, ?_, ?_, ?_⟩
  case refine_5 =>
    intro slot peer hOwner hPeer
    have hZero := List.eq_of_mem_replicate (List.mem_of_getElem? hOwner)
    exact absurd hZero hPeer
  all_goals simp [create]

/-- Whether tables agree does not depend on their order. -/
theorem TablesAgree.of_sameTables {s s' : SessionManager} (h : s.TablesAgree)
    (hSame : s.SameTables s') : s'.TablesAgree where
  owners_length := by rw [hSame.slotOwners, hSame.config]; exact h.owners_length
  token peer r hr := h.token peer r ((hSame.sessions peer).trans hr)
  slot_range peer r hr := by
    rw [hSame.config]; exact h.slot_range peer r ((hSame.sessions peer).trans hr)
  slot_owner peer r hr := by
    rw [hSame.slotOwners]; exact h.slot_owner peer r ((hSame.sessions peer).trans hr)
  name_slot peer r hr := by
    rw [← hSame.names]; exact h.name_slot peer r ((hSame.sessions peer).trans hr)
  owner_session slot peer hOwner hPeer := by
    rw [hSame.slotOwners] at hOwner
    obtain ⟨r, hr, hSlot⟩ := h.owner_session slot peer hOwner hPeer
    exact ⟨r, (hSame.sessions peer).symm.trans hr, hSlot⟩
  name_range name slot hName := by
    rw [hSame.config]; exact h.name_range name slot ((hSame.names name).trans hName)

/-- A refreshed session keeps its seat and its name. -/
theorem TablesAgree.refresh {s : SessionManager} (h : s.TablesAgree) {peerToken : PeerToken}
    {session : SessionRecord} (hSession : s.sessionsByPeer.find peerToken = some session)
    (now : TimePoint) : (s.refresh peerToken session now).TablesAgree := by
  -- every record keeps its fields other than the heartbeat
  have hOld : ∀ peer r, (s.refresh peerToken session now).sessionsByPeer.find peer = some r →
      ∃ old, s.sessionsByPeer.find peer = some old ∧ r.playerId = old.playerId ∧
        r.playerName = old.playerName ∧ r.peerToken = old.peerToken := by
    intro peer r hr
    rw [find_refresh] at hr
    split_ifs at hr with hPeer
    · obtain rfl := Option.some.inj hr
      exact ⟨session, hPeer ▸ hSession, rfl, rfl, rfl⟩
    · exact ⟨r, hr, rfl, rfl, rfl⟩
  refine ⟨h.owners_length, ?_, ?_, ?_, ?_, ?_, h.name_range⟩
  · intro peer r hr
    obtain ⟨old, hFind, -, -, hToken⟩ := hOld peer r hr
    exact ⟨(h.token peer old hFind).1, hToken.trans (h.token peer old hFind).2⟩
  · intro peer r hr
    obtain ⟨old, hFind, hSlot, -, -⟩ := hOld peer r hr
    rw [hSlot]; exact h.slot_range peer old hFind
  · intro peer r hr
    obtain ⟨old, hFind, hSlot, -, -⟩ := hOld peer r hr
    rw [hSlot]; exact h.slot_owner peer old hFind
  · intro peer r hr
    obtain ⟨old, hFind, hSlot, hName, -⟩ := hOld peer r hr
    rw [hSlot, hName]; exact h.name_slot peer old hFind
  · intro slot peer hOwner hPeer
    obtain ⟨r, hr, hSlot⟩ := h.owner_session slot peer hOwner hPeer
    rw [find_refresh]
    split_ifs with hEq
    · subst hEq
      rw [hSession] at hr
      obtain rfl := Option.some.inj hr
      exact ⟨_, rfl, hSlot⟩
    · exact ⟨r, hr, hSlot⟩

/-- A session found next to a free slot does not own that slot. -/
theorem TablesAgree.ne_of_free {s : SessionManager} (h : s.TablesAgree) {slot : Nat}
    (hFree : s.slotOwners[slot]? = some 0) {peer : PeerToken} {r : SessionRecord}
    (hr : s.sessionsByPeer.find peer = some r) : r.playerId ≠ slot := by
  intro hEq
  have hOwner := h.slot_owner peer r hr
  rw [hEq, hFree] at hOwner
  exact (h.token peer r hr).1 (Option.some.inj hOwner).symm

/-- No active session bears a name that may be given the chosen slot. -/
theorem TablesAgree.name_ne_of_chooseSlot {s : SessionManager} (h : s.TablesAgree)
    {playerName : PlayerName} {status : JoinStatus} {slot : Nat}
    (hChoose : s.chooseSlot playerName = .ok (status, slot)) {peer : PeerToken}
    {r : SessionRecord} (hr : s.sessionsByPeer.find peer = some r) : r.playerName ≠ playerName := by
  obtain ⟨-, -, hFree, hReserved⟩ := chooseSlot_ok hChoose
  intro hName
  have hSlot := h.name_slot peer r hr
  rw [hName] at hSlot
  rcases hReserved with ⟨-, hFind⟩ | ⟨-, hNone, -⟩
  · rw [hFind] at hSlot
    exact h.ne_of_free hFree hr (Option.some.inj hSlot).symm
  · rw [hNone] at hSlot
    cases hSlot

/-- A new session takes a slot that was free or its own. -/
theorem TablesAgree.seatSession {s : SessionManager} (h : s.TablesAgree) {playerName : PlayerName}
    {peerToken : PeerToken} {status : JoinStatus} {slot : Nat} {now : TimePoint}
    (hToken : peerToken ≠ 0) (hNew : s.sessionsByPeer.find peerToken = none)
    (hChoose : s.chooseSlot playerName = .ok (status, slot)) :
    (s.seatSession { playerId := slot, playerName, peerToken, lastHeartbeat := now }).TablesAgree := by
  obtain ⟨hOne, hLt, hFree, -⟩ := chooseSlot_ok hChoose
  have hLength := h.owners_length
  have hSlots : (s.seatSession { playerId := slot, playerName, peerToken, lastHeartbeat := now }).slotOwners =
      s.slotOwners.set slot peerToken := rfl
  have hNames : (s.seatSession { playerId := slot, playerName, peerToken, lastHeartbeat := now }).slotByPlayerName =
      s.slotByPlayerName.set playerName slot := rfl
  refine ⟨by rw [hSlots, List.length_set]; exact hLength, ?_, ?_, ?_, ?_, ?_, ?_⟩
  · intro peer r hr
    rw [find_seatSession _ _ _ hNew] at hr
    split_ifs at hr with hPeer
    · obtain rfl := Option.some.inj hr
      exact ⟨hPeer ▸ hToken, hPeer.symm⟩
    · exact h.token peer r hr
  · intro peer r hr
    rw [find_seatSession _ _ _ hNew] at hr
    split_ifs at hr with hPeer
    · obtain rfl := Option.some.inj hr
      exact ⟨hOne, by show slot ≤ s.config.maxPlayers; omega⟩
    · exact h.slot_range peer r hr
  · intro peer r hr
    rw [find_seatSession _ _ _ hNew] at hr
    rw [hSlots, List.getElem?_set]
    split_ifs at hr with hPeer
    · obtain rfl := Option.some.inj hr
      simp [hLt, hPeer]
    · have hNe := (h.ne_of_free hFree hr).symm
      simpa [hNe] using h.slot_owner peer r hr
  · intro peer r hr
    rw [find_seatSession _ _ _ hNew] at hr
    rw [hNames]
    split_ifs at hr with hPeer
    · obtain rfl := Option.some.inj hr
      simp
    · rw [UnorderedMap.find_set_ne _ _ (h.name_ne_of_chooseSlot hChoose hr)]
      exact h.name_slot peer r hr
  · intro slot' peer hOwner hPeer
    rw [hSlots, List.getElem?_set] at hOwner
    rw [find_seatSession _ _ _ hNew]
    split_ifs at hOwner with hSlot
    · obtain rfl := Option.some.inj hOwner
      exact ⟨_, if_pos rfl, hSlot⟩
    · obtain ⟨r, hr, hId⟩ := h.owner_session slot' peer hOwner hPeer
      have hNe : peer ≠ peerToken := by
        rintro rfl
        rw [hNew] at hr
        cases hr
      exact ⟨r, by simp [hNe, hr], hId⟩
  · intro name slot' hName
    rw [hNames, UnorderedMap.find_set] at hName
    split_ifs at hName with hEq
    · obtain rfl := Option.some.inj hName
      exact ⟨hOne, by show slot ≤ s.config.maxPlayers; omega⟩
    · exact h.name_range name slot' hName

/-- A disconnect frees the slot of the session. -/
theorem TablesAgree.handleDisconnect {s : SessionManager} (h : s.TablesAgree)
    (peerToken : PeerToken) : (s.handleDisconnect peerToken).2.TablesAgree := by
  cases hFind : s.sessionsByPeer.find peerToken with
  | none => rw [handleDisconnect_none hFind]; exact h
  | some session =>
      have hRange := h.slot_range peerToken session hFind
      have hLength := h.owners_length
      have hRelease : s.releaseSlot session.playerId =
          { s with slotOwners := s.slotOwners.set session.playerId 0 } := by
        rw [releaseSlot, if_neg (by omega)]
      have hOwner := h.slot_owner peerToken session hFind
      rw [handleDisconnect_some hFind, hRelease]
      -- a surviving session is another peer's, so it owns another slot
      have hKept : ∀ peer r, (s.sessionsByPeer.erase peerToken).find peer = some r →
          peer ≠ peerToken ∧ s.sessionsByPeer.find peer = some r ∧ r.playerId ≠ session.playerId := by
        intro peer r hr
        rw [UnorderedMap.find_erase] at hr
        split_ifs at hr with hPeer
        refine ⟨hPeer, hr, fun hEq => hPeer ?_⟩
        have hOther := h.slot_owner peer r hr
        rw [hEq, hOwner] at hOther
        exact (Option.some.inj hOther).symm
      refine ⟨by simpa using hLength, ?_, ?_, ?_, ?_, ?_, h.name_range⟩
      · intro peer r hr
        exact h.token peer r (hKept peer r hr).2.1
      · intro peer r hr
        exact h.slot_range peer r (hKept peer r hr).2.1
      · intro peer r hr
        obtain ⟨-, hOld, hNe⟩ := hKept peer r hr
        simpa [List.getElem?_set, hNe.symm] using h.slot_owner peer r hOld
      · intro peer r hr
        exact h.name_slot peer r (hKept peer r hr).2.1
      · intro slot peer hSlot hPeer
        simp only [List.getElem?_set] at hSlot
        split_ifs at hSlot with hEq
        · obtain rfl := Option.some.inj hSlot
          exact absurd rfl hPeer
        · obtain ⟨r, hr, hId⟩ := h.owner_session slot peer hSlot hPeer
          have hNe : peer ≠ peerToken := by
            rintro rfl
            rw [hFind] at hr
            obtain rfl := Option.some.inj hr
            exact hEq hId
          exact ⟨r, by simp [UnorderedMap.find_erase, hNe, hr], hId⟩

/-- Several disconnects, one after the other. -/
theorem TablesAgree.disconnectAll {s : SessionManager} (h : s.TablesAgree)
    (peers : List PeerToken) : (s.disconnectAll peers).2.TablesAgree := by
  induction peers generalizing s with
  | nil => exact h
  | cons peer rest ih => exact ih (h.handleDisconnect peer)

/-- A join request is refused, refreshes a session or seats a new one. -/
theorem TablesAgree.handleJoinRequest {s : SessionManager} (h : s.TablesAgree)
    {peerToken : PeerToken} (hToken : peerToken ≠ 0) (playerName : PlayerName) (now : TimePoint) :
    (s.handleJoinRequest peerToken playerName now).2.TablesAgree := by
  rcases s.handleJoinRequest_cases peerToken playerName now with
    ⟨-, hEq⟩ | ⟨-, existing, -, -, hEq⟩ | ⟨-, existing, hFind, -, hEq⟩ | ⟨-, -, error, -, hEq⟩ |
      ⟨-, hNew, status, slot, hChoose, hEq⟩ <;> rw [hEq]
  · exact h
  · exact h
  · exact h.refresh hFind now
  · exact h
  · exact h.seatSession hToken hNew hChoose

/-- Every operation keeps the tables in agreement. -/
theorem TablesAgree.step {s s' : SessionManager} {event : SessionEvent} (h : s.TablesAgree)
    (hStep : SessionStep s event s') : s'.TablesAgree := by
  cases hStep with
  | join peerToken playerName now hToken => exact h.handleJoinRequest hToken playerName now
  | heartbeat peerToken now =>
      unfold handleHeartbeat
      cases hFind : s.sessionsByPeer.find peerToken with
      | none => exact h
      | some session => exact h.refresh hFind now
  | disconnect peerToken => exact h.handleDisconnect peerToken
  | collect now => exact h.disconnectAll _
  | reorder _ hSame => exact h.of_sameTables hSame

/-- The tables agree in every reachable state. -/
theorem Reachable.tablesAgree {config : SessionConfig} {s : SessionManager}
    (h : Reachable config s) : s.TablesAgree := by
  obtain ⟨trace, run⟩ := h
  exact run.invariant (fun _ _ _ hInv hStep => hInv.step hStep) (tablesAgree_create config)

/-! ## Eviction -/

/-- The disconnected peers have no session any more. -/
theorem find_disconnectAll (s : SessionManager) (peers : List PeerToken) (peer : PeerToken) :
    (s.disconnectAll peers).2.sessionsByPeer.find peer =
      if peer ∈ peers then none else s.sessionsByPeer.find peer := by
  induction peers generalizing s with
  | nil => simp [disconnectAll]
  | cons head rest ih =>
      simp only [disconnectAll, ih, find_handleDisconnect, List.mem_cons]
      by_cases hRest : peer ∈ rest <;> by_cases hHead : peer = head <;> simp [hRest, hHead]

/-- Disconnecting distinct peers returns the views of their sessions in order. -/
theorem disconnectAll_views (s : SessionManager) (evicted : List (PeerToken × SessionRecord))
    (hNodup : (evicted.map Prod.fst).Nodup)
    (hFind : ∀ item ∈ evicted, s.sessionsByPeer.find item.1 = some item.2) :
    (s.disconnectAll (evicted.map Prod.fst)).1 = evicted.map fun item => item.2.view := by
  induction evicted generalizing s with
  | nil => rfl
  | cons item rest ih =>
      have hHead := hFind item List.mem_cons_self
      simp only [List.map_cons, List.nodup_cons] at hNodup
      have hTail := ih (s.handleDisconnect item.1).2 hNodup.2 (by
        intro other hOther
        have hNe : other.1 ≠ item.1 := fun hEq =>
          hNodup.1 (hEq ▸ List.mem_map_of_mem hOther)
        rw [find_handleDisconnect, if_neg hNe]
        exact hFind other (List.mem_cons_of_mem _ hOther))
      simp only [List.map_cons, disconnectAll, hTail]
      rw [handleDisconnect_some hHead]
      rfl

/-- A peer has timed out if its session has. -/
theorem mem_timedOutPeers {s : SessionManager} {now : TimePoint} {peer : PeerToken} :
    peer ∈ ((s.sessionsByPeer.items.filter fun item => s.isTimedOut now item.2).map Prod.fst) ↔
      ∃ r, s.sessionsByPeer.find peer = some r ∧ s.isTimedOut now r = true := by
  simp only [List.mem_map, List.mem_filter, Prod.exists, exists_and_right, exists_eq_right,
    UnorderedMap.mem_items_iff]

/-- `collect_timed_out` removes the sessions whose last heartbeat is older than
the timeout, reports each of them once, and leaves every other session alone. -/
structure EvictsExactly (s : SessionManager) (now : TimePoint) : Prop where
  find : ∀ peer, (s.collectTimedOut now).2.sessionsByPeer.find peer =
    (s.sessionsByPeer.find peer).filter fun r =>
      !decide (now - r.lastHeartbeat > s.config.heartbeatTimeoutMs * 1000000)
  views : (s.collectTimedOut now).1.Perm
    ((s.sessionsByPeer.values.filter fun r =>
      decide (now - r.lastHeartbeat > s.config.heartbeatTimeoutMs * 1000000)).map SessionRecord.view)

/-- The sessions that time out are those that are past their time, in any order of the table. -/
theorem evictsExactly (s : SessionManager) (now : TimePoint) : s.EvictsExactly now where
  find peer := by
    rw [collectTimedOut, find_disconnectAll]
    simp only [mem_timedOutPeers]
    cases hFind : s.sessionsByPeer.find peer with
    | none => simp
    | some r =>
        by_cases hLate : now - r.lastHeartbeat > s.config.heartbeatTimeoutMs * 1000000 <;>
          simp [isTimedOut, Option.filter, hLate]
  views := by
    have hNodup : ((s.sessionsByPeer.items.filter fun item => s.isTimedOut now item.2).map
        Prod.fst).Nodup := by
      refine List.Nodup.sublist (List.filter_sublist.map _) ?_
      rw [UnorderedMap.map_fst_items]
      exact s.sessionsByPeer.keys_nodup
    have hViews := disconnectAll_views s
      (s.sessionsByPeer.items.filter fun item => s.isTimedOut now item.2) hNodup (fun item hItem =>
        UnorderedMap.mem_items_iff.mp (List.mem_filter.mp hItem).1)
    rw [collectTimedOut, hViews, ← UnorderedMap.map_snd_items, List.filter_map, List.map_map]
    exact List.Perm.refl _

end DevyFps.Server.SessionManager
