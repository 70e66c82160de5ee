import DevyFps.Foundations.Sort
import DevyFps.Foundations.UnorderedMap

/-! The session table of the server: who is connected, which player slot each
connection owns, and which slot every name was last given. -/

namespace DevyFps.Server

open Foundations

/-- The bytes of a `std::string` player name. -/
abbrev PlayerName := List UInt8

/-- The address of an ENet peer, as an integer. -/
abbrev PeerToken := Nat

/-- A steady-clock reading in nanoseconds. -/
abbrev TimePoint := Int

/-- `main` builds the configuration from a positive `int`, so that slot numbers
fit in the `uint32_t` in which the manager counts them. -/
structure SessionConfig where
  maxPlayers : Nat
  heartbeatTimeoutMs : Int
  slots_fit : maxPlayers < 2 ^ 32

inductive JoinStatus where
  | accepted
  | reconnected
  | alreadyJoined
  | rejected
  deriving DecidableEq, Repr

inductive JoinError where
  | none
  | invalidPlayerName
  | nameInUse
  | serverFull
  deriving DecidableEq, Repr

structure SessionView where
  playerId : Nat := 0
  playerName : PlayerName := []
  peerToken : PeerToken := 0
  lastHeartbeat : TimePoint := 0
  deriving DecidableEq, Repr

structure JoinResult where
  status : JoinStatus := .rejected
  error : JoinError := .none
  session : SessionView := {}
  deriving DecidableEq, Repr

/-- `JoinResult::accepted`. -/
def JoinResult.accepted (result : JoinResult) : Bool :=
  result.status == .accepted || result.status == .reconnected || result.status == .alreadyJoined

structure SessionRecord where
  playerId : Nat := 0
  playerName : PlayerName := []
  peerToken : PeerToken := 0
  lastHeartbeat : TimePoint := 0
  deriving DecidableEq, Repr

/-- The field-by-field copy that every query makes of a stored record. -/
def SessionRecord.view (session : SessionRecord) : SessionView where
  playerId := session.playerId
  playerName := session.playerName
  peerToken := session.peerToken
  lastHeartbeat := session.lastHeartbeat

structure SessionManager where
  config : SessionConfig
  slotOwners : List PeerToken
  sessionsByPeer : UnorderedMap PeerToken SessionRecord
  slotByPlayerName : UnorderedMap PlayerName Nat

namespace SessionManager

def kMaxPlayerNameLength : Nat := 24

/-- The constructor: slot zero exists but is never handed out. -/
def create (config : SessionConfig) : SessionManager where
  config := config
  slotOwners := List.replicate (config.maxPlayers + 1) 0
  sessionsByPeer := ∅
  slotByPlayerName := ∅

def isValidPlayerName (playerName : PlayerName) : Bool :=
  if playerName.isEmpty || playerName.length > kMaxPlayerNameLength then false
  else playerName.all fun c => 32 ≤ c && c ≤ 126

def slotIsFree (s : SessionManager) (slot : Nat) : Bool :=
  if slot = 0 ∨ s.slotOwners.length ≤ slot then false
  else s.slotOwners[slot]? == some 0

def firstFreeSlot (s : SessionManager) : Option Nat :=
  (List.range' 1 (s.slotOwners.length - 1)).find? fun slot => s.slotOwners[slot]? == some 0

def occupySlot (s : SessionManager) (slot : Nat) (peerToken : PeerToken) : SessionManager :=
  { s with slotOwners := s.slotOwners.set slot peerToken }

def releaseSlot (s : SessionManager) (slot : Nat) : SessionManager :=
  if slot = 0 ∨ s.slotOwners.length ≤ slot then s
  else { s with slotOwners := s.slotOwners.set slot 0 }

/-- The slot a new connection is given, and how the admission is reported. -/
def chooseSlot (s : SessionManager) (playerName : PlayerName) :
    Except JoinError (JoinStatus × Nat) :=
  match s.slotByPlayerName.find playerName with
  | some reserved => if s.slotIsFree reserved then .ok (.reconnected, reserved) else .error .nameInUse
  | none =>
      match s.firstFreeSlot with
      | some slot => .ok (.accepted, slot)
      | none => .error .serverFull

/-- The three table writes of an admission. -/
def seatSession (s : SessionManager) (session : SessionRecord) : SessionManager :=
  let occupied := s.occupySlot session.playerId session.peerToken
  { occupied with
    slotByPlayerName := occupied.slotByPlayerName.set session.playerName session.playerId
    sessionsByPeer := occupied.sessionsByPeer.tryEmplace session.peerToken session }

/-- Store the record of a session again with a newer heartbeat. -/
def refresh (s : SessionManager) (peerToken : PeerToken) (session : SessionRecord)
    (now : TimePoint) : SessionManager :=
  { s with sessionsByPeer := s.sessionsByPeer.set peerToken { session with lastHeartbeat := now } }

def handleJoinRequest (s : SessionManager) (peerToken : PeerToken) (playerName : PlayerName)
    (now : TimePoint) : JoinResult × SessionManager :=
  if !isValidPlayerName playerName then
    ({ status := .rejected, error := .invalidPlayerName }, s)
  else
    match s.sessionsByPeer.find peerToken with
    | some existing =>
        if existing.playerName ≠ playerName then
          ({ status := .rejected, error := .nameInUse }, s)
        else
          ({ status := .alreadyJoined, error := .none,
             session := { existing.view with lastHeartbeat := now } }, s.refresh peerToken existing now)
    | none =>
        match s.chooseSlot playerName with
        | .error error => ({ status := .rejected, error := error }, s)
        | .ok (status, slot) =>
            let session : SessionRecord := { playerId := slot, playerName, peerToken, lastHeartbeat := now }
            ({ status := status, error := .none, session := session.view }, s.seatSession session)

def handleHeartbeat (s : SessionManager) (peerToken : PeerToken) (now : TimePoint) :
    Bool × SessionManager :=
  match s.sessionsByPeer.find peerToken with
  | none => (false, s)
  | some session => (true, s.refresh peerToken session now)

def handleDisconnect (s : SessionManager) (peerToken : PeerToken) :
    Option SessionView × SessionManager :=
  match s.sessionsByPeer.find peerToken with
  | none => (none, s)
  | some session =>
      let released := s.releaseSlot session.playerId
      (some session.view, { released with sessionsByPeer := released.sessionsByPeer.erase peerToken })

def isTimedOut (s : SessionManager) (now : TimePoint) (session : SessionRecord) : Bool :=
  now - session.lastHeartbeat > s.config.heartbeatTimeoutMs * 1000000

/-- The second loop of `collect_timed_out`. -/
def disconnectAll (s : SessionManager) : List PeerToken → List SessionView × SessionManager
  | [] => ([], s)
  | peerToken :: rest =>
      let (removed, next) := s.handleDisconnect peerToken
      let (timedOut, finish) := next.disconnectAll rest
      (removed.toList ++ timedOut, finish)

def collectTimedOut (s : SessionManager) (now : TimePoint) : List SessionView × SessionManager :=
  s.disconnectAll ((s.sessionsByPeer.items.filter fun item => s.isTimedOut now item.2).map Prod.fst)

def sessionLess (lhs rhs : SessionView) : Bool :=
  if lhs.playerId ≠ rhs.playerId then lhs.playerId < rhs.playerId
  else lhs.peerToken < rhs.peerToken

/-- `active_sessions`: the views ordered by player id, then by peer. -/
def activeSessions (s : SessionManager) : List SessionView :=
  sortBy sessionLess (s.sessionsByPeer.items.map fun item => { item.2.view with peerToken := item.1 })

def sessionForPeer (s : SessionManager) (peerToken : PeerToken) : Option SessionView :=
  (s.sessionsByPeer.find peerToken).map SessionRecord.view

def activeCount (s : SessionManager) : Nat := s.sessionsByPeer.size

def capacity (s : SessionManager) : Nat := s.config.maxPlayers

/-! What each operation does, stated once for every later proof. -/

theorem chooseSlot_ok {s : SessionManager} {playerName : PlayerName} {status : JoinStatus}
    {slot : Nat} (h : s.chooseSlot playerName = .ok (status, slot)) :
    1 ≤ slot ∧ slot < s.slotOwners.length ∧ s.slotOwners[slot]? = some 0 ∧
      ((status = .reconnected ∧ s.slotByPlayerName.find playerName = some slot) ∨
        (status = .accepted ∧ s.slotByPlayerName.find playerName = none ∧
          s.firstFreeSlot = some slot)) := by
  unfold chooseSlot at h
  cases hName : s.slotByPlayerName.find playerName with
  | some reserved =>
      simp only [hName] at h
      split at h
      · rename_i hFree
        injection h with h
        injection h with hStatus hSlot
        subst hSlot
        simp only [slotIsFree] at hFree
        split at hFree
        · exact absurd hFree (by decide)
        · rename_i hRange
          have hOwner : s.slotOwners[reserved]? = some 0 := by simpa using hFree
          exact ⟨by omega, by omega, hOwner, Or.inl ⟨hStatus.symm, rfl⟩⟩
      · cases h
  | none =>
      simp only [hName] at h
      cases hFree : s.firstFreeSlot with
      | none => simp [hFree] at h
      | some free =>
          simp only [hFree] at h
          injection h with h
          injection h with hStatus hSlot
          subst hSlot
          have hSome := List.find?_some hFree
          have hMem := List.mem_range'_1.mp (List.mem_of_find?_eq_some hFree)
          exact ⟨by omega, by omega, by simpa using hSome, Or.inr ⟨hStatus.symm, rfl, rfl⟩⟩

/-- The five outcomes of a join request. Only the last one gives out a slot. -/
theorem handleJoinRequest_cases (s : SessionManager) (peerToken : PeerToken)
    (playerName : PlayerName) (now : TimePoint) :
    (isValidPlayerName playerName = false ∧ s.handleJoinRequest peerToken playerName now =
      ({ status := .rejected, error := .invalidPlayerName }, s)) ∨
    (isValidPlayerName playerName = true ∧ ∃ existing,
      s.sessionsByPeer.find peerToken = some existing ∧ existing.playerName ≠ playerName ∧
      s.handleJoinRequest peerToken playerName now =
        ({ status := .rejected, error := .nameInUse }, s)) ∨
    (isValidPlayerName playerName = true ∧ ∃ existing,
      s.sessionsByPeer.find peerToken = some existing ∧ existing.playerName = playerName ∧
      s.handleJoinRequest peerToken playerName now =
        ({ status := .alreadyJoined, error := .none,
           session := { existing.view with lastHeartbeat := now } },
          s.refresh peerToken existing now)) ∨
    (isValidPlayerName playerName = true ∧ s.sessionsByPeer.find peerToken = none ∧
      ∃ error, s.chooseSlot playerName = .error error ∧
      s.handleJoinRequest peerToken playerName now =
        ({ status := .rejected, error := error }, s)) ∨
    (isValidPlayerName playerName = true ∧ s.sessionsByPeer.find peerToken = none ∧
      ∃ status slot, s.chooseSlot playerName = .ok (status, slot) ∧
      s.handleJoinRequest peerToken playerName now =
        ({ status := status, error := .none,
           session := { playerId := slot, playerName, peerToken, lastHeartbeat := now } },
          s.seatSession { playerId := slot, playerName, peerToken, lastHeartbeat := now })) := by
  unfold handleJoinRequest
  cases hValid : isValidPlayerName playerName with
  | false => exact Or.inl ⟨rfl, by simp⟩
  | true =>
      simp only [Bool.not_true, Bool.false_eq_true, if_false, true_and]
      refine Or.inr ?_
      cases hPeer : s.sessionsByPeer.find peerToken with
      | some existing =>
          by_cases hName : existing.playerName = playerName
          · exact Or.inr (Or.inl ⟨existing, rfl, hName, by simp [hName]⟩)
          · exact Or.inl ⟨existing, rfl, hName, by simp [hName]⟩
      | none =>
          refine Or.inr (Or.inr ?_)
          cases hSlot : s.chooseSlot playerName with
          | error error => exact Or.inl ⟨rfl, error, rfl, rfl⟩
          | ok choice => exact Or.inr ⟨rfl, choice.1, choice.2, rfl, rfl⟩

theorem find_seatSession (s : SessionManager) (session : SessionRecord) (peer : PeerToken)
    (hNew : s.sessionsByPeer.find session.peerToken = none) :
    (s.seatSession session).sessionsByPeer.find peer =
      if peer = session.peerToken then some session else s.sessionsByPeer.find peer := by
  simp [seatSession, occupySlot, UnorderedMap.find_tryEmplace, hNew]

theorem find_refresh (s : SessionManager) (peerToken peer : PeerToken) (session : SessionRecord)
    (now : TimePoint) :
    (s.refresh peerToken session now).sessionsByPeer.find peer =
      if peer = peerToken then some { session with lastHeartbeat := now }
      else s.sessionsByPeer.find peer := by
  simp [refresh, UnorderedMap.find_set]

theorem handleDisconnect_some {s : SessionManager} {peerToken : PeerToken}
    {session : SessionRecord} (h : s.sessionsByPeer.find peerToken = some session) :
    s.handleDisconnect peerToken = (some session.view,
      { s.releaseSlot session.playerId with sessionsByPeer := s.sessionsByPeer.erase peerToken }) := by
  have hSame : (s.releaseSlot session.playerId).sessionsByPeer = s.sessionsByPeer := by
    unfold releaseSlot
    split <;> rfl
  simp [handleDisconnect, h, hSame]

theorem handleDisconnect_none {s : SessionManager} {peerToken : PeerToken}
    (h : s.sessionsByPeer.find peerToken = none) : s.handleDisconnect peerToken = (none, s) := by
  simp [handleDisconnect, h]

theorem find_handleDisconnect (s : SessionManager) (peerToken peer : PeerToken) :
    (s.handleDisconnect peerToken).2.sessionsByPeer.find peer =
      if peer = peerToken then none else s.sessionsByPeer.find peer := by
  cases h : s.sessionsByPeer.find peerToken with
  | some session => rw [handleDisconnect_some h]; exact UnorderedMap.find_erase _ _ _
  | none =>
      rw [handleDisconnect_none h]
      split_ifs with hPeer
      · rw [hPeer, h]
      · rfl

end SessionManager

end DevyFps.Server
