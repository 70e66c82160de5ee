import DevyFps.Server.SessionTables

/-! Which peer holds which player id, and what each call on the session manager does to
it. Heartbeats and the order of iteration leave the seats alone. -/

namespace DevyFps.Server.SessionManager

open Foundations

/-- The player id of the session of a peer. -/
def seat (s : SessionManager) (peerToken : PeerToken) : Option Nat :=
  (s.sessionsByPeer.find peerToken).map SessionRecord.playerId

/-- Some session has the player id. -/
def Seated (s : SessionManager) (playerId : Nat) : Prop :=
  ∃ peerToken, s.seat peerToken = some playerId

/-- A seat is the player of a session. -/
theorem seat_eq_some {s : SessionManager} {peerToken : PeerToken} {playerId : Nat} :
    s.seat peerToken = some playerId ↔
      ∃ session, s.sessionsByPeer.find peerToken = some session ∧ session.playerId = playerId :=
  Option.map_eq_some_iff

theorem sessionForPeer_seat {s : SessionManager} {peerToken : PeerToken} {session : SessionView}
    (h : s.sessionForPeer peerToken = some session) :
    s.seat peerToken = some session.playerId := by
  obtain ⟨record, hFind, rfl⟩ := Option.map_eq_some_iff.mp h
  exact seat_eq_some.mpr ⟨record, hFind, rfl⟩

theorem seated_congr {s t : SessionManager} (h : ∀ peer, t.seat peer = s.seat peer) (id : Nat) :
    t.Seated id ↔ s.Seated id := by
  unfold Seated
  simp only [h]

/-- Seats do not depend on the order of the tables. -/
theorem SameTables.seat_eq {s t : SessionManager} (h : s.SameTables t) (peer : PeerToken) :
    t.seat peer = s.seat peer := by
  unfold seat
  rw [h.sessions peer]

/-- No two peers hold the same player id. -/
theorem TablesAgree.seat_unique {s : SessionManager} (h : s.TablesAgree) {peer peer' : PeerToken}
    {id : Nat} (hSeat : s.seat peer = some id) (hSeat' : s.seat peer' = some id) :
    peer = peer' := by
  obtain ⟨r, hFind, hId⟩ := seat_eq_some.mp hSeat
  obtain ⟨r', hFind', hId'⟩ := seat_eq_some.mp hSeat'
  have hOwner := h.slot_owner peer r hFind
  rw [hId, ← hId', h.slot_owner peer' r' hFind'] at hOwner
  exact (Option.some.inj hOwner).symm

/-- A refreshed session keeps its seat. -/
theorem seat_refresh {s : SessionManager} {peerToken : PeerToken} {session : SessionRecord}
    (h : s.sessionsByPeer.find peerToken = some session) (now : TimePoint) (peer : PeerToken) :
    (s.refresh peerToken session now).seat peer = s.seat peer := by
  unfold seat
  rw [find_refresh]
  split
  · rename_i hPeer
    rw [hPeer, h]
    rfl
  · rfl

theorem seat_handleHeartbeat (s : SessionManager) (peerToken : PeerToken) (now : TimePoint)
    (peer : PeerToken) : (s.handleHeartbeat peerToken now).2.seat peer = s.seat peer := by
  unfold handleHeartbeat
  cases hFind : s.sessionsByPeer.find peerToken with
  | none => rfl
  | some session => exact seat_refresh hFind now peer

/-- A join is refused and changes nothing, finds the peer seated, or seats it. -/
theorem handleJoinRequest_seats {s : SessionManager} (hTables : s.TablesAgree)
    (peerToken : PeerToken) (playerName : PlayerName) (now : TimePoint) :
    let joined := s.handleJoinRequest peerToken playerName now
    let playerId := joined.1.session.playerId
    (joined.1.accepted = false ∧ joined.2 = s) ∨
      (joined.1.accepted = true ∧ joined.1.status = .alreadyJoined ∧
        s.seat peerToken = some playerId ∧ ∀ peer, joined.2.seat peer = s.seat peer) ∨
      (joined.1.accepted = true ∧ s.chooseSlot playerName = .ok (joined.1.status, playerId) ∧
        s.seat peerToken = none ∧ ¬ s.Seated playerId ∧
        ∀ peer, joined.2.seat peer = if peer = peerToken then some playerId else s.seat peer) := by
  intro joined playerId
  have hCases : joined = s.handleJoinRequest peerToken playerName now := rfl
  rcases s.handleJoinRequest_cases peerToken playerName now with
    ⟨-, hEq⟩ | ⟨-, existing, -, -, hEq⟩ | ⟨-, existing, hFind, -, hEq⟩ | ⟨-, -, error, -, hEq⟩ |
      ⟨-, hNew, status, slot, hChoose, hEq⟩
  · rw [hEq] at hCases
    exact Or.inl ⟨by rw [hCases]; rfl, by rw [hCases]⟩
  · rw [hEq] at hCases
    exact Or.inl ⟨by rw [hCases]; rfl, by rw [hCases]⟩
  · rw [hEq] at hCases
    refine Or.inr (Or.inl ⟨by rw [hCases]; rfl, by rw [hCases], ?_, ?_⟩)
    · apply seat_eq_some.mpr
      exact ⟨existing, hFind, by unfold playerId; rw [hCases]; rfl⟩
    · intro peer
      rw [hCases]
      exact seat_refresh hFind now peer
  · rw [hEq] at hCases
    exact Or.inl ⟨by rw [hCases]; rfl, by rw [hCases]⟩
  · rw [hEq] at hCases
    have hSlot : playerId = slot := by
      unfold playerId
      rw [hCases]
    obtain ⟨-, -, hFree, hReserved⟩ := chooseSlot_ok hChoose
    refine Or.inr (Or.inr ⟨?_, ?_, ?_, ?_, ?_⟩)
    · rw [hCases]
      rcases hReserved with ⟨hStatus, -⟩ | ⟨hStatus, -⟩ <;> rw [hStatus] <;> rfl
    · rw [hChoose, hSlot, hCases]
    · unfold seat
      rw [hNew]
      rfl
    · rintro ⟨peer, hSeat⟩
      obtain ⟨session, hSession, hId⟩ := seat_eq_some.mp hSeat
      exact hTables.ne_of_free hFree hSession (hId.trans hSlot)
    · intro peer
      rw [hCases, hSlot]
      unfold seat
      rw [find_seatSession _ _ _ hNew]
      split
      · rfl
      · rfl

/-- A disconnect empties one seat. -/
theorem seat_handleDisconnect (s : SessionManager) (peerToken peer : PeerToken) :
    (s.handleDisconnect peerToken).2.seat peer =
      if peer = peerToken then none else s.seat peer := by
  unfold seat
  rw [find_handleDisconnect]
  split
  · rfl
  · rfl

/-- What a disconnect returns is the session that it ends. -/
theorem handleDisconnect_view (s : SessionManager) (peerToken : PeerToken) :
    (s.handleDisconnect peerToken).1 = s.sessionForPeer peerToken := by
  unfold sessionForPeer
  cases hFind : s.sessionsByPeer.find peerToken with
  | none => rw [handleDisconnect_none hFind]; rfl
  | some session => rw [handleDisconnect_some hFind]; rfl

/-- Who is seated after a disconnect: all but the player of the peer. -/
theorem TablesAgree.seated_handleDisconnect {s : SessionManager} (h : s.TablesAgree)
    {peerToken : PeerToken} {playerId : Nat} (hSeat : s.seat peerToken = some playerId) (id : Nat) :
    (s.handleDisconnect peerToken).2.Seated id ↔ s.Seated id ∧ id ≠ playerId := by
  unfold Seated
  simp only [seat_handleDisconnect]
  constructor
  · rintro ⟨peer, hPeer⟩
    split at hPeer
    · cases hPeer
    · rename_i hOther
      refine ⟨⟨peer, hPeer⟩, ?_⟩
      rintro rfl
      exact hOther (h.seat_unique hPeer hSeat)
  · rintro ⟨⟨peer, hPeer⟩, hNe⟩
    refine ⟨peer, ?_⟩
    rw [if_neg, hPeer]
    rintro rfl
    rw [hSeat] at hPeer
    exact hNe (Option.some.inj hPeer).symm

/-- The ids of the active sessions are the seated ones. -/
theorem mem_activeSessions_playerId {s : SessionManager} {id : Nat} :
    id ∈ s.activeSessions.map SessionView.playerId ↔ s.Seated id := by
  unfold activeSessions Seated
  rw [List.mem_map]
  constructor
  · rintro ⟨view, hView, rfl⟩
    obtain ⟨item, hItem, rfl⟩ := List.mem_map.mp (mem_sortBy.mp hView)
    exact ⟨item.1, seat_eq_some.mpr ⟨item.2, UnorderedMap.mem_items_iff.mp hItem, rfl⟩⟩
  · rintro ⟨peer, hSeat⟩
    obtain ⟨session, hFind, rfl⟩ := seat_eq_some.mp hSeat
    refine ⟨{ session.view with peerToken := peer }, mem_sortBy.mpr (List.mem_map.mpr ?_), rfl⟩
    exact ⟨(peer, session), UnorderedMap.mem_items_iff.mpr hFind, rfl⟩

/-! The names that are reserved. A join under a new name reserves the first slot that is free,
and nothing else touches the reservations. -/

theorem names_handleHeartbeat (s : SessionManager) (peerToken : PeerToken) (now : TimePoint) :
    (s.handleHeartbeat peerToken now).2.slotByPlayerName = s.slotByPlayerName := by
  unfold handleHeartbeat
  split
  · rfl
  · rfl

/-- A name keeps its slot when its session ends. -/
theorem names_handleDisconnect (s : SessionManager) (peerToken : PeerToken) :
    (s.handleDisconnect peerToken).2.slotByPlayerName = s.slotByPlayerName := by
  unfold handleDisconnect
  split
  · rfl
  · unfold releaseSlot
    dsimp only
    split
    · rfl
    · rfl

/-- A join that gives out no slot reserves none. -/
theorem names_alreadyJoined {s : SessionManager} {peerToken : PeerToken} {playerName : PlayerName}
    {now : TimePoint}
    (h : (s.handleJoinRequest peerToken playerName now).1.status = .alreadyJoined) :
    (s.handleJoinRequest peerToken playerName now).2.slotByPlayerName = s.slotByPlayerName := by
  rcases s.handleJoinRequest_cases peerToken playerName now with
    ⟨-, hEq⟩ | ⟨-, existing, -, -, hEq⟩ | ⟨-, existing, -, -, hEq⟩ | ⟨-, -, error, -, hEq⟩ |
      ⟨-, -, status, slot, hChoose, hEq⟩
  · rw [hEq]
  · rw [hEq]
  · rw [hEq]
    rfl
  · rw [hEq]
  · rw [hEq] at h
    obtain ⟨-, -, -, ⟨hStatus, -⟩ | ⟨hStatus, -⟩⟩ := chooseSlot_ok hChoose
    · rw [hStatus] at h
      cases h
    · rw [hStatus] at h
      cases h

/-- The only reservation that a join adds is that of the slot which it gives out. -/
theorem name_of_handleJoinRequest {s : SessionManager} {peerToken : PeerToken}
    {playerName name : PlayerName} {now : TimePoint} {status : JoinStatus} {slot id : Nat}
    (hSlot : s.chooseSlot playerName = .ok (status, slot))
    (h : (s.handleJoinRequest peerToken playerName now).2.slotByPlayerName.find name = some id) :
    id = slot ∨ s.slotByPlayerName.find name = some id := by
  rcases s.handleJoinRequest_cases peerToken playerName now with
    ⟨-, hEq⟩ | ⟨-, existing, -, -, hEq⟩ | ⟨-, existing, -, -, hEq⟩ | ⟨-, -, error, -, hEq⟩ |
      ⟨-, -, status', slot', hChoose, hEq⟩
  · rw [hEq] at h
    exact Or.inr h
  · rw [hEq] at h
    exact Or.inr h
  · rw [hEq] at h
    exact Or.inr h
  · rw [hEq] at h
    exact Or.inr h
  · rw [hChoose] at hSlot
    injection hSlot with hSlot
    injection hSlot with hStatus hSlot
    subst hSlot
    rw [hEq] at h
    unfold seatSession occupySlot at h
    dsimp only at h
    rw [UnorderedMap.find_set] at h
    split at h
    · exact Or.inl (Option.some.inj h).symm
    · exact Or.inr h

/-- The slots below the first free one are taken. -/
theorem TablesAgree.seated_of_firstFreeSlot {s : SessionManager} (h : s.TablesAgree) {slot id : Nat}
    (hSlot : s.firstFreeSlot = some slot) (hFirst : 1 ≤ id) (hBelow : id < slot) :
    s.Seated id := by
  unfold firstFreeSlot at hSlot
  rw [List.find?_range'_eq_some] at hSlot
  obtain ⟨-, hRange, hTaken⟩ := hSlot
  have hLength : id < s.slotOwners.length := by
    rw [List.mem_range'_1] at hRange
    omega
  have hOwner := hTaken id hFirst hBelow
  rw [List.getElem?_eq_getElem hLength] at hOwner
  have hPeer : s.slotOwners[id] ≠ 0 := by simpa using hOwner
  obtain ⟨session, hFind, hId⟩ := h.owner_session id _ (List.getElem?_eq_getElem hLength) hPeer
  exact ⟨_, seat_eq_some.mpr ⟨session, hFind, hId⟩⟩

end DevyFps.Server.SessionManager
