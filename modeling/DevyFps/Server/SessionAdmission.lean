import DevyFps.Server.SessionTables

/-! The two promises of the session manager: its tables stay consistent, and a
join request is answered from the sessions that are active. The second one holds
exactly when the slot reserved for the name has not been handed to another. -/

namespace DevyFps.Server.SessionManager

/-- Mutual consistency of the session, slot-owner and reservation tables. -/
structure ConsistentTables (config : SessionConfig) (s : SessionManager) : Prop where
  sessions : ∀ peer r, s.sessionsByPeer.find peer = some r →
    r.peerToken = peer ∧ 1 ≤ r.playerId ∧ r.playerId ≤ config.maxPlayers ∧
      s.slotOwners[r.playerId]? = some peer ∧
      s.slotByPlayerName.find r.playerName = some r.playerId
  owners : ∀ slot peer, s.slotOwners[slot]? = some peer → peer ≠ 0 →
    ∃ r, s.sessionsByPeer.find peer = some r ∧ r.playerId = slot
  ids_distinct : ∀ peer peer' r r', s.sessionsByPeer.find peer = some r →
    s.sessionsByPeer.find peer' = some r' → r.playerId = r'.playerId → peer = peer'
  names_distinct : ∀ peer peer' r r', s.sessionsByPeer.find peer = some r →
    s.sessionsByPeer.find peer' = some r' → r.playerName = r'.playerName → peer = peer'
  count : s.activeCount ≤ config.maxPlayers

theorem config_releaseSlot (s : SessionManager) (slot : Nat) :
    (s.releaseSlot slot).config = s.config := by
  unfold releaseSlot
  split <;> rfl

theorem config_handleDisconnect (s : SessionManager) (peerToken : PeerToken) :
    (s.handleDisconnect peerToken).2.config = s.config := by
  unfold handleDisconnect
  split
  · rfl
  · exact config_releaseSlot _ _

/-- No operation changes the configuration. -/
theorem config_step {s s' : SessionManager} {event : SessionEvent}
    (hStep : SessionStep s event s') : s'.config = s.config := by
  cases hStep with
  | join peerToken playerName now _ =>
      rcases s.handleJoinRequest_cases peerToken playerName now with
        ⟨-, hEq⟩ | ⟨-, _, -, -, hEq⟩ | ⟨-, _, -, -, hEq⟩ | ⟨-, -, _, -, hEq⟩ |
          ⟨-, -, _, _, -, hEq⟩ <;> rw [hEq] <;> rfl
  | heartbeat peerToken now =>
      unfold handleHeartbeat
      split <;> rfl
  | disconnect peerToken => exact config_handleDisconnect s peerToken
  | collect now =>
      have hAll : ∀ (peers : List PeerToken) (t : SessionManager),
          (t.disconnectAll peers).2.config = t.config := by
        intro peers
        induction peers with
        | nil => exact fun _ => rfl
        | cons peer rest ih => exact fun t => (ih _).trans (config_handleDisconnect t peer)
      exact hAll _ s
  | reorder _ hSame => exact hSame.config

/-- Every reachable state has the configuration of its start. -/
theorem Reachable.config_eq {config : SessionConfig} {s : SessionManager}
    (h : Reachable config s) : s.config = config := by
  obtain ⟨trace, run⟩ := h
  exact run.invariant (I := fun t => t.config = config)
    (fun _ _ _ hInv hStep => (config_step hStep).trans hInv) rfl

/-- No two sessions share a player id. -/
theorem TablesAgree.ids_distinct {s : SessionManager} (h : s.TablesAgree) {peer peer' : PeerToken}
    {r r' : SessionRecord} (hr : s.sessionsByPeer.find peer = some r)
    (hr' : s.sessionsByPeer.find peer' = some r') (hId : r.playerId = r'.playerId) :
    peer = peer' := by
  have hOwner := h.slot_owner peer r hr
  rw [hId, h.slot_owner peer' r' hr'] at hOwner
  exact (Option.some.inj hOwner).symm

/-- No two sessions share a name. -/
theorem TablesAgree.names_distinct {s : SessionManager} (h : s.TablesAgree)
    {peer peer' : PeerToken} {r r' : SessionRecord} (hr : s.sessionsByPeer.find peer = some r)
    (hr' : s.sessionsByPeer.find peer' = some r') (hName : r.playerName = r'.playerName) :
    peer = peer' := by
  have hSlot := h.name_slot peer r hr
  rw [hName, h.name_slot peer' r' hr'] at hSlot
  exact h.ids_distinct hr hr' (Option.some.inj hSlot).symm

/-- There are never more sessions than seats. -/
theorem TablesAgree.count_le {s : SessionManager} (h : s.TablesAgree) :
    s.activeCount ≤ s.config.maxPlayers := by
  have hCard := s.sessionsByPeer.size_le_card SessionRecord.playerId
    (Finset.Icc 1 s.config.maxPlayers) (fun peer r hr => Finset.mem_Icc.mpr (h.slot_range peer r hr))
    (fun _ _ _ _ hr hr' hId => h.ids_distinct hr hr' hId)
  rw [Nat.card_Icc] at hCard
  unfold activeCount
  omega

/-- Every state the manager reaches is consistent, and from it an eviction
removes exactly the stale sessions in whatever order the map is iterated. -/
theorem session_tables_consistent (config : SessionConfig) (s : SessionManager)
    (h : Reachable config s) :
    ConsistentTables config s ∧
      ∀ s', s.SameTables s' → ∀ now, s'.EvictsExactly now := by
  have hInv := h.tablesAgree
  have hConfig := h.config_eq
  refine ⟨⟨?_, hInv.owner_session, ?_, ?_, ?_⟩, fun s' _ now => evictsExactly s' now⟩
  · intro peer r hr
    obtain ⟨hOne, hMax⟩ := hInv.slot_range peer r hr
    exact ⟨(hInv.token peer r hr).2, hOne, hConfig ▸ hMax, hInv.slot_owner peer r hr,
      hInv.name_slot peer r hr⟩
  · exact fun _ _ _ _ hr hr' => hInv.ids_distinct hr hr'
  · exact fun _ _ _ _ hr hr' => hInv.names_distinct hr hr'
  · exact hConfig ▸ hInv.count_le

/-- Two player slots and the default timeout. -/
def twoSeats : SessionConfig := ⟨2, 10000, by decide⟩

/-- The names `a` and `b`. -/
def alpha : PlayerName := [0x61]

def bravo : PlayerName := [0x62]

def alphaJoined : SessionManager := ((create twoSeats).handleJoinRequest 101 alpha 0).2

theorem reachable_alphaJoined : Reachable twoSeats alphaJoined :=
  ⟨_, Run.single (SessionStep.join _ 101 alpha 0 (by decide))⟩

theorem session_tables_consistent_alphaJoined :
    ConsistentTables twoSeats alphaJoined ∧
      ∀ s', alphaJoined.SameTables s' → ∀ now, s'.EvictsExactly now :=
  session_tables_consistent twoSeats alphaJoined reachable_alphaJoined

/-! ## Admission -/

/-- Some active session bears this name. -/
def NameActive (s : SessionManager) (playerName : PlayerName) : Prop :=
  ∃ peer r, s.sessionsByPeer.find peer = some r ∧ r.playerName = playerName

/-- A name is active if some session has it. -/
theorem nameActive_iff {s : SessionManager} {playerName : PlayerName} :
    s.NameActive playerName ↔ ∃ r ∈ s.sessionsByPeer.values, r.playerName = playerName := by
  constructor
  · rintro ⟨peer, r, hr, hName⟩
    exact ⟨r, UnorderedMap.mem_values_iff.mpr ⟨peer, hr⟩, hName⟩
  · rintro ⟨r, hMem, hName⟩
    obtain ⟨peer, hr⟩ := UnorderedMap.mem_values_iff.mp hMem
    exact ⟨peer, r, hr, hName⟩

instance (s : SessionManager) (playerName : PlayerName) : Decidable (s.NameActive playerName) :=
  decidable_of_iff' _ nameActive_iff

/-- Admission decided by the active sessions alone. -/
structure AdmitsExactly (s : SessionManager) (peerToken : PeerToken) (playerName : PlayerName)
    (now : TimePoint) : Prop where
  accepts : (s.handleJoinRequest peerToken playerName now).1.accepted = true ↔
    ¬ s.NameActive playerName ∧ s.activeCount < s.config.maxPlayers
  nameInUse : (s.handleJoinRequest peerToken playerName now).1.error = .nameInUse ↔
    s.NameActive playerName
  serverFull : (s.handleJoinRequest peerToken playerName now).1.error = .serverFull ↔
    ¬ s.NameActive playerName ∧ s.activeCount = s.config.maxPlayers
  rejected : (s.handleJoinRequest peerToken playerName now).1.accepted = false →
    (s.handleJoinRequest peerToken playerName now).2 = s

/-- No session under another name sits in the slot reserved for this name. -/
def ReservationUsable (s : SessionManager) (playerName : PlayerName) : Prop :=
  ∀ slot, s.slotByPlayerName.find playerName = some slot →
    ∀ peer r, s.sessionsByPeer.find peer = some r → r.playerId = slot → r.playerName = playerName

/-- A free slot is room for one more session. -/
theorem TablesAgree.count_lt_of_free {s : SessionManager} (h : s.TablesAgree) {slot : Nat}
    (hFree : s.slotOwners[slot]? = some 0) (hOne : 1 ≤ slot) (hLt : slot < s.slotOwners.length) :
    s.activeCount < s.config.maxPlayers := by
  have hLength := h.owners_length
  have hMem : slot ∈ Finset.Icc 1 s.config.maxPlayers := Finset.mem_Icc.mpr (by omega)
  have hCard := s.sessionsByPeer.size_le_card SessionRecord.playerId
    ((Finset.Icc 1 s.config.maxPlayers).erase slot)
    (fun peer r hr => Finset.mem_erase.mpr
      ⟨h.ne_of_free hFree hr, Finset.mem_Icc.mpr (h.slot_range peer r hr)⟩)
    (fun _ _ _ _ hr hr' hId => h.ids_distinct hr hr' hId)
  rw [Finset.card_erase_of_mem hMem, Nat.card_Icc] at hCard
  unfold activeCount
  omega

/-- Without a free slot every seat is taken. -/
theorem TablesAgree.count_eq_of_full {s : SessionManager} (h : s.TablesAgree)
    (hFull : s.firstFreeSlot = none) : s.activeCount = s.config.maxPlayers := by
  have hLength := h.owners_length
  have hOnto : ∀ slot ∈ Finset.Icc 1 s.config.maxPlayers,
      ∃ peer r, s.sessionsByPeer.find peer = some r ∧ r.playerId = slot := by
    intro slot hSlot
    obtain ⟨hOne, hMax⟩ := Finset.mem_Icc.mp hSlot
    obtain ⟨peer, hOwner⟩ : ∃ peer, s.slotOwners[slot]? = some peer :=
      ⟨_, List.getElem?_eq_getElem (by omega)⟩
    have hTaken := List.find?_eq_none.mp hFull slot (List.mem_range'_1.mpr (by omega))
    have hPeer : peer ≠ 0 := by
      rintro rfl
      simp [hOwner] at hTaken
    obtain ⟨r, hr, hId⟩ := h.owner_session slot peer hOwner hPeer
    exact ⟨peer, r, hr, hId⟩
  have hCard := s.sessionsByPeer.card_le_size SessionRecord.playerId _ hOnto
  have hCount := h.count_le
  rw [Nat.card_Icc] at hCard
  unfold activeCount at hCount ⊢
  omega

/-- A reserved slot that is not free has a session sitting in it. -/
theorem TablesAgree.occupant_of_not_free {s : SessionManager} (h : s.TablesAgree)
    {playerName : PlayerName} {slot : Nat} (hName : s.slotByPlayerName.find playerName = some slot)
    (hBusy : s.slotIsFree slot = false) :
    ∃ peer r, s.sessionsByPeer.find peer = some r ∧ r.playerId = slot := by
  obtain ⟨hOne, hMax⟩ := h.name_range playerName slot hName
  have hLength := h.owners_length
  obtain ⟨peer, hOwner⟩ : ∃ peer, s.slotOwners[slot]? = some peer :=
    ⟨_, List.getElem?_eq_getElem (by omega)⟩
  have hPeer : peer ≠ 0 := by
    rintro rfl
    rw [slotIsFree, if_neg (by omega)] at hBusy
    simp [hOwner] at hBusy
  obtain ⟨r, hr, hId⟩ := h.owner_session slot peer hOwner hPeer
  exact ⟨peer, r, hr, hId⟩

/-- The answer to a valid name from a peer without a session is the choice of slot. -/
theorem handleJoinRequest_new {s : SessionManager} {peerToken : PeerToken}
    {playerName : PlayerName} (hValid : isValidPlayerName playerName = true)
    (hNew : s.sessionsByPeer.find peerToken = none) (now : TimePoint) :
    s.handleJoinRequest peerToken playerName now =
      match s.chooseSlot playerName with
      | .error error => ({ status := .rejected, error := error }, s)
      | .ok (status, slot) =>
          ({ status := status, error := .none,
             session := { playerId := slot, playerName, peerToken, lastHeartbeat := now } },
            s.seatSession { playerId := slot, playerName, peerToken, lastHeartbeat := now }) := by
  simp only [handleJoinRequest, hValid, hNew, Bool.not_true, Bool.false_eq_true, if_false]
  cases s.chooseSlot playerName <;> rfl

/-- A valid new name is admitted by the rules when a slot is chosen for it. -/
theorem TablesAgree.admitsExactly_of_free {s : SessionManager} (h : s.TablesAgree)
    {peerToken : PeerToken} {playerName : PlayerName} {now : TimePoint} {status : JoinStatus}
    {slot : Nat} (hValid : isValidPlayerName playerName = true)
    (hNew : s.sessionsByPeer.find peerToken = none)
    (hChoose : s.chooseSlot playerName = .ok (status, slot)) :
    s.AdmitsExactly peerToken playerName now := by
  obtain ⟨hOne, hLt, hFree, hStatus⟩ := chooseSlot_ok hChoose
  have hCount := h.count_lt_of_free hFree hOne hLt
  have hName : ¬ s.NameActive playerName := fun ⟨_, _, hr, hEq⟩ =>
    h.name_ne_of_chooseSlot hChoose hr hEq
  have hAccepted : status = .reconnected ∨ status = .accepted :=
    hStatus.imp And.left And.left
  have hJoin := handleJoinRequest_new hValid hNew now
  simp only [hChoose] at hJoin
  constructor <;> rw [hJoin]
  · rcases hAccepted with rfl | rfl <;> simp [JoinResult.accepted, hName, hCount]
  · simp [hName]
  · simp [hName, hCount.ne]
  · rcases hAccepted with rfl | rfl <;> simp [JoinResult.accepted]

/-- Admission follows the active sessions exactly in the states whose reservation
for the name has not been given away. -/
theorem admission_exact_iff (config : SessionConfig) (s : SessionManager) (h : Reachable config s)
    (peerToken : PeerToken) (playerName : PlayerName) (now : TimePoint)
    (hValid : isValidPlayerName playerName = true)
    (hNew : s.sessionsByPeer.find peerToken = none) :
    s.AdmitsExactly peerToken playerName now ↔ s.ReservationUsable playerName := by
  have hInv := h.tablesAgree
  have hJoin := handleJoinRequest_new hValid hNew now
  constructor
  · intro hExact slot hName peer r hr hId
    have hOwner := hInv.slot_owner peer r hr
    have hPeer := (hInv.token peer r hr).1
    have hBusy : s.slotIsFree slot = false := by
      unfold slotIsFree
      split
      · rfl
      · simp [← hId, hOwner, hPeer]
    have hRefused : s.chooseSlot playerName = .error .nameInUse := by
      simp [chooseSlot, hName, hBusy]
    rw [hRefused] at hJoin
    obtain ⟨peer', r', hr', hActive⟩ := hExact.nameInUse.mp (by rw [hJoin])
    have hSlot := hInv.name_slot peer' r' hr'
    rw [hActive, hName] at hSlot
    have hSame := hInv.ids_distinct hr hr' (hId.trans (Option.some.inj hSlot))
    subst hSame
    rw [hr] at hr'
    obtain rfl := Option.some.inj hr'
    exact hActive
  · intro hUsable
    cases hName : s.slotByPlayerName.find playerName with
    | some slot =>
        cases hFree : s.slotIsFree slot with
        | true =>
            have hChoose : s.chooseSlot playerName = .ok (.reconnected, slot) := by
              simp [chooseSlot, hName, hFree]
            exact hInv.admitsExactly_of_free hValid hNew hChoose
        | false =>
            obtain ⟨peer, r, hr, hId⟩ := hInv.occupant_of_not_free hName hFree
            have hActive : s.NameActive playerName := ⟨peer, r, hr, hUsable slot hName peer r hr hId⟩
            have hRefused : s.chooseSlot playerName = .error .nameInUse := by
              simp [chooseSlot, hName, hFree]
            simp only [hRefused] at hJoin
            constructor <;> rw [hJoin] <;> simp [JoinResult.accepted, hActive]
    | none =>
        cases hFree : s.firstFreeSlot with
        | some slot =>
            have hChoose : s.chooseSlot playerName = .ok (.accepted, slot) := by
              simp [chooseSlot, hName, hFree]
            exact hInv.admitsExactly_of_free hValid hNew hChoose
        | none =>
            have hCount := hInv.count_eq_of_full hFree
            have hInactive : ¬ s.NameActive playerName := by
              rintro ⟨peer, r, hr, rfl⟩
              rw [hInv.name_slot peer r hr] at hName
              cases hName
            have hRefused : s.chooseSlot playerName = .error .serverFull := by
              simp [chooseSlot, hName, hFree]
            simp only [hRefused] at hJoin
            constructor <;> rw [hJoin] <;> simp [JoinResult.accepted, hInactive, hCount]

/-- The first holder of slot one has left and another name was given the slot. -/
def slotHandedOn : SessionManager :=
  ((alphaJoined.handleDisconnect 101).2.handleJoinRequest 102 bravo 0).2

theorem reachable_slotHandedOn : Reachable twoSeats slotHandedOn := by
  obtain ⟨trace, run⟩ := reachable_alphaJoined
  exact ⟨_, (run.snoc (SessionStep.disconnect _ 101)).snoc
    (SessionStep.join _ 102 bravo 0 (by decide))⟩

/-- The first holder returns while the other name has its slot, and after that one left. -/
theorem admission_exact_iff_handedOn : ¬slotHandedOn.AdmitsExactly 103 alpha 0 ∧
    (slotHandedOn.handleDisconnect 102).2.AdmitsExactly 103 alpha 0 := by
  obtain ⟨trace, run⟩ := reachable_slotHandedOn
  have hLeft : Reachable twoSeats (slotHandedOn.handleDisconnect 102).2 :=
    ⟨_, run.snoc (SessionStep.disconnect _ 102)⟩
  have hSlot : slotHandedOn.slotByPlayerName.find alpha = some 1 := by decide
  obtain ⟨r, hSession, hId, hName⟩ : ∃ r, slotHandedOn.sessionsByPeer.find 102 = some r ∧
      r.playerId = 1 ∧ r.playerName = bravo := ⟨_, rfl, by decide, by decide⟩
  constructor
  · intro hExact
    have hUsable := (admission_exact_iff twoSeats slotHandedOn reachable_slotHandedOn 103 alpha 0
      (by decide) (by decide)).mp hExact
    have hSame := hUsable 1 hSlot 102 r hSession hId
    exact absurd (hName.symm.trans hSame) (by decide)
  · refine (admission_exact_iff twoSeats _ hLeft 103 alpha 0 (by decide) (by decide)).mpr ?_
    -- Nobody is left who could hold the slot.
    intro slot _ peer r hr _
    have hEmpty : (slotHandedOn.handleDisconnect 102).2.sessionsByPeer.values = [] := by decide
    have hIn := UnorderedMap.mem_values_iff.mpr ⟨peer, hr⟩
    rw [hEmpty] at hIn
    exact absurd hIn List.not_mem_nil

/-- The returning player is told that the name is in use, with no session under
that name and the second slot free. -/
theorem admission_not_exact :
    ¬ ∀ (config : SessionConfig) (s : SessionManager), Reachable config s →
      ∀ (peerToken : PeerToken) (playerName : PlayerName) (now : TimePoint),
        isValidPlayerName playerName = true → s.sessionsByPeer.find peerToken = none →
          s.AdmitsExactly peerToken playerName now := by
  intro hClaim
  have hExact := hClaim twoSeats slotHandedOn reachable_slotHandedOn 103 alpha 0 (by decide) (by decide)
  have hInUse : (slotHandedOn.handleJoinRequest 103 alpha 0).1.error = .nameInUse := by decide
  have hInactive : ¬ slotHandedOn.NameActive alpha := by decide
  exact hInactive (hExact.nameInUse.mp hInUse)

end DevyFps.Server.SessionManager
