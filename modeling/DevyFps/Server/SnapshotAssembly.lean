import DevyFps.Foundations.ScatterJoin
import DevyFps.Server.CombatEvents
import DevyFps.Server.MainLoop

/-! How `main` puts the players of a snapshot together: the states of four components are
scattered through a table of session indices. It amounts to the plain join by player id. -/

namespace DevyFps.Server

open Foundations FloatFormat Game
open Net (Document)

variable {F : Type} [SingleFloat F]

structure SnapshotPlayerView (F : Type) [SingleFloat F] where
  playerId : Nat := 0
  positionX : F := ofRat 0
  positionY : F := ofRat 0
  velocityX : F := ofRat 0
  velocityY : F := ofRat 0
  speed : F := ofRat 0
  grounded : Bool := true
  moveState : MoveState := .idle
  verticalPosition : F := ofRat 0
  verticalVelocity : F := ofRat 0
  lastProcessedInputSeq : Nat := 0
  health : Int := 0
  alive : Bool := true
  lastShotSeq : Nat := 0
  coins : Int := 0
  inventoryWeight : Int := 0
  inventoryItems : Nat := 0
  lastPickupSeq : Nat := 0
  respawnsRemaining : Nat := 0
  eliminated : Bool := false

/-- What `main` has at hand when a snapshot is due. The three settings are not negative once
they have been read. -/
structure SnapshotSources (F : Type) [SingleFloat F] where
  maxPlayers : Nat
  combatStartingHealth : Int
  matchRespawnsPerPlayer : Nat
  activeSessions : List SessionView
  movementStates : List (PlayerMotionState F)
  combatStates : List PlayerCombatState
  inventoryStates : List InventorySummary
  scoreboard : List MatchScoreEntry

namespace SnapshotPlayerView

def writeMotion (state : PlayerMotionState F) (player : SnapshotPlayerView F) :
    SnapshotPlayerView F :=
  { player with
    positionX := state.positionX
    positionY := state.positionY
    velocityX := state.velocityX
    velocityY := state.velocityY
    speed := state.speed
    grounded := state.grounded
    moveState := state.moveState
    verticalPosition := state.verticalPosition
    verticalVelocity := state.verticalVelocity
    lastProcessedInputSeq := state.lastProcessedInputSeq }

def writeCombat (state : PlayerCombatState) (player : SnapshotPlayerView F) :
    SnapshotPlayerView F :=
  { player with health := state.health, alive := state.alive, lastShotSeq := state.lastShotSeq }

def writeInventory (state : InventorySummary) (player : SnapshotPlayerView F) :
    SnapshotPlayerView F :=
  { player with
    coins := state.totalValue
    inventoryWeight := state.totalWeight
    inventoryItems := state.itemCount
    lastPickupSeq := state.lastPickupSeq }

def writeScore (score : MatchScoreEntry) (player : SnapshotPlayerView F) : SnapshotPlayerView F :=
  { player with
    respawnsRemaining := score.respawnsRemaining
    eliminated := score.eliminated }

def position (player : SnapshotPlayerView F) : F × F := (player.positionX, player.positionY)

end SnapshotPlayerView

def moveStateToString : MoveState → String
  | .idle => "idle"
  | .walk => "walk"
  | .sprint => "sprint"
  | .crouch => "crouch"
  | .air => "air"

/-- A `float` in a document, as the double it is promoted to. -/
def ofFloat (value : F) : Document F := .numberFloat (SingleFloat.widen value)

/-- One entry of the `players` of a snapshot. -/
def playerToJson (player : SnapshotPlayerView F) (session : SessionView) : Document F :=
  .object
    [("alive", .boolean player.alive), ("coins", ofSigned player.coins),
      ("eliminated", .boolean player.eliminated), ("grounded", .boolean player.grounded),
      ("health", ofSigned player.health), ("inventory_items", ofUnsigned player.inventoryItems),
      ("inventory_weight", ofSigned player.inventoryWeight),
      ("last_pickup_seq", ofUnsigned player.lastPickupSeq),
      ("last_processed_input_seq", ofUnsigned player.lastProcessedInputSeq),
      ("last_shot_seq", ofUnsigned player.lastShotSeq),
      ("move_state", .string (moveStateToString player.moveState)),
      ("player_id", ofUnsigned player.playerId),
      ("player_name", textOfBytes session.playerName),
      ("position", .object [("x", ofFloat player.positionX), ("y", ofFloat player.positionY)]),
      ("respawns_remaining", ofUnsigned player.respawnsRemaining),
      ("speed", ofFloat player.speed),
      ("velocity", .object [("x", ofFloat player.velocityX), ("y", ofFloat player.velocityY)]),
      ("vertical_position", ofFloat player.verticalPosition),
      ("vertical_velocity", ofFloat player.verticalVelocity)]

/-- The loop that enters the sessions from an index on; an index is cast to `int32_t`. -/
def indexSessions : Nat → List SessionView → List Int → List Int
  | _, [], table => table
  | index, session :: rest, table =>
      indexSessions (index + 1) rest
        (if session.playerId < table.length then
          table.set session.playerId (Int.bmod index (2 ^ 32))
        else table)

/-- The body that the loops over the four lists share. -/
def scatterStates {α : Type} (sessionIndexByPlayerId : List Int) (playerId : α → Nat)
    (write : α → SnapshotPlayerView F → SnapshotPlayerView F) (states : List α)
    (players : List (SnapshotPlayerView F)) : List (SnapshotPlayerView F) :=
  states.foldl
    (fun players state =>
      if sessionIndexByPlayerId.length ≤ playerId state then players
      else
        let sessionIndex := sessionIndexByPlayerId.getD (playerId state) (-1)
        if sessionIndex < 0 then players
        else players.modify sessionIndex.toNat (write state))
    players

namespace SnapshotSources

variable (sources : SnapshotSources F)

def freshView (session : SessionView) : SnapshotPlayerView F :=
  { playerId := session.playerId
    health := sources.combatStartingHealth
    alive := true
    respawnsRemaining := sources.matchRespawnsPerPlayer }

def sessionIndexByPlayerId : List Int :=
  indexSessions 0 sources.activeSessions (List.replicate (sources.maxPlayers + 1) (-1))

def snapshotPlayers : List (SnapshotPlayerView F) :=
  let table := sources.sessionIndexByPlayerId
  let fresh := sources.activeSessions.map sources.freshView
  let moved := scatterStates table PlayerMotionState.playerId SnapshotPlayerView.writeMotion
    sources.movementStates fresh
  let fought := scatterStates table PlayerCombatState.playerId SnapshotPlayerView.writeCombat
    sources.combatStates moved
  let looted := scatterStates table InventorySummary.playerId SnapshotPlayerView.writeInventory
    sources.inventoryStates fought
  scatterStates table MatchScoreEntry.playerId SnapshotPlayerView.writeScore sources.scoreboard
    looted

/-- The `players` of the snapshot: every view with the session of the same index. -/
def players : List (Document F) :=
  List.zipWith playerToJson sources.snapshotPlayers sources.activeSessions

def playerPositionsBySessionIndex : List (F × F) :=
  sources.snapshotPlayers.map SnapshotPlayerView.position

/-- The plain join: the entries with the player's own id, and the defaults where a list has
none. -/
def joined (session : SessionView) : SnapshotPlayerView F :=
  let motion := sources.movementStates.find? fun state => state.playerId = session.playerId
  let combat := sources.combatStates.find? fun state => state.playerId = session.playerId
  let inventory := sources.inventoryStates.find? fun state => state.playerId = session.playerId
  let score := sources.scoreboard.find? fun score => score.playerId = session.playerId
  { playerId := session.playerId
    positionX := (motion.map (·.positionX)).getD (ofRat 0)
    positionY := (motion.map (·.positionY)).getD (ofRat 0)
    velocityX := (motion.map (·.velocityX)).getD (ofRat 0)
    velocityY := (motion.map (·.velocityY)).getD (ofRat 0)
    speed := (motion.map (·.speed)).getD (ofRat 0)
    grounded := (motion.map (·.grounded)).getD true
    moveState := (motion.map (·.moveState)).getD .idle
    verticalPosition := (motion.map (·.verticalPosition)).getD (ofRat 0)
    verticalVelocity := (motion.map (·.verticalVelocity)).getD (ofRat 0)
    lastProcessedInputSeq := (motion.map (·.lastProcessedInputSeq)).getD 0
    health := (combat.map (·.health)).getD sources.combatStartingHealth
    alive := (combat.map (·.alive)).getD true
    lastShotSeq := (combat.map (·.lastShotSeq)).getD 0
    coins := (inventory.map (·.totalValue)).getD 0
    inventoryWeight := (inventory.map (·.totalWeight)).getD 0
    inventoryItems := (inventory.map (·.itemCount)).getD 0
    lastPickupSeq := (inventory.map (·.lastPickupSeq)).getD 0
    respawnsRemaining := (score.map (·.respawnsRemaining)).getD sources.matchRespawnsPerPlayer
    eliminated := (score.map (·.eliminated)).getD false }

/-- Distinct sessions with ids in range, and at most one entry for an id in each list. The
limit is an `int`. -/
structure Distinct : Prop where
  limit : sources.maxPlayers < 2 ^ 31
  range : ∀ session ∈ sources.activeSessions,
    1 ≤ session.playerId ∧ session.playerId ≤ sources.maxPlayers
  sessions : (sources.activeSessions.map SessionView.playerId).Nodup
  motions : (sources.movementStates.map PlayerMotionState.playerId).Nodup
  combats : (sources.combatStates.map PlayerCombatState.playerId).Nodup
  inventories : (sources.inventoryStates.map InventorySummary.playerId).Nodup
  scores : (sources.scoreboard.map MatchScoreEntry.playerId).Nodup

end SnapshotSources

/-- The loop that sends the snapshot: each session with the position of its index. -/
def MainLoop.sendSnapshots (s : MainLoop F) :
    List SessionView → List (F × F) → WorldReplication → List PlayerWorldUpdate × WorldReplication
  | session :: rest, position :: positions, replication =>
      if session.peerToken ∈ s.peersByToken then
        let built :=
          replication.buildPlayerUpdate session.playerId position.1 position.2 s.world
        let later := s.sendSnapshots rest positions built.2
        (built.1 :: later.1, later.2)
      else s.sendSnapshots rest positions replication
  | _, _, replication => ([], replication)

/-! The table of session indices. -/

@[simp] theorem length_indexSessions (index : Nat) (sessions : List SessionView)
    (table : List Int) : (indexSessions index sessions table).length = table.length := by
  induction sessions generalizing index table with
  | nil => rfl
  | cons session rest ih =>
      unfold indexSessions
      rw [ih]
      split
      · exact List.length_set
      · rfl

theorem getD_indexSessions_of_absent {sessions : List SessionView} {id : Nat}
    (h : ∀ session ∈ sessions, session.playerId ≠ id) (index : Nat) (table : List Int) :
    (indexSessions index sessions table).getD id (-1) = table.getD id (-1) := by
  induction sessions generalizing index table with
  | nil => rfl
  | cons session rest ih =>
      unfold indexSessions
      rw [ih fun other hOther => h other (List.mem_cons_of_mem session hOther)]
      split
      · rw [List.getD_eq_getElem?_getD, List.getD_eq_getElem?_getD,
          List.getElem?_set_ne (h session List.mem_cons_self)]
      · rfl

/-- A session in range is found at its own index. -/
theorem getD_indexSessions {sessions : List SessionView}
    (hIds : (sessions.map SessionView.playerId).Nodup) {table : List Int}
    (hRange : ∀ session ∈ sessions, session.playerId < table.length) (index : Nat) {j : Nat}
    {session : SessionView} (hSession : sessions[j]? = some session) :
    (indexSessions index sessions table).getD session.playerId (-1) =
      Int.bmod (index + j : Nat) (2 ^ 32) := by
  induction sessions generalizing index table j with
  | nil => cases hSession
  | cons head rest ih =>
      rw [List.map_cons, List.nodup_cons] at hIds
      have hHead := hRange head List.mem_cons_self
      unfold indexSessions
      rw [if_pos hHead]
      cases j with
      | zero =>
          rw [List.getElem?_cons_zero, Option.some.injEq] at hSession
          have hAbsent : ∀ other ∈ rest, other.playerId ≠ session.playerId := by
            intro other hOther hSame
            exact hIds.1 (hSession ▸ hSame ▸ List.mem_map_of_mem hOther)
          rw [getD_indexSessions_of_absent hAbsent, hSession, List.getD_eq_getElem?_getD,
            List.getElem?_set_self (hSession ▸ hHead), Option.getD_some, Nat.add_zero]
      | succ j =>
          rw [List.getElem?_cons_succ] at hSession
          have hFits : ∀ other ∈ rest,
              other.playerId < (table.set head.playerId (Int.bmod index (2 ^ 32))).length := by
            intro other hOther
            rw [List.length_set]
            exact hRange other (List.mem_cons_of_mem head hOther)
          rw [ih hIds.2 hFits (index + 1) hSession, Nat.add_right_comm, Nat.add_assoc]

/-- The row that the table finds for a player id. -/
def rowIn (table : List Int) (playerId : Nat) : Option Nat :=
  if table.length ≤ playerId then none
  else if table.getD playerId (-1) < 0 then none
  else some (table.getD playerId (-1)).toNat

theorem scatterStates_eq {α : Type} (table : List Int) (playerId : α → Nat)
    (write : α → SnapshotPlayerView F → SnapshotPlayerView F) (states : List α)
    (players : List (SnapshotPlayerView F)) :
    scatterStates table playerId write states players =
      scatter (rowIn table) playerId write states players := by
  unfold scatterStates scatter
  congr 1
  funext rows state
  unfold rowIn
  dsimp only
  split_ifs
  · rfl
  · rfl
  · rfl

namespace SnapshotSources

variable {sources : SnapshotSources F}

theorem Distinct.length_le (h : sources.Distinct) :
    sources.activeSessions.length ≤ sources.maxPlayers := by
  have hSubset : sources.activeSessions.map SessionView.playerId ⊆
      List.range' 1 sources.maxPlayers := by
    intro id hId
    obtain ⟨session, hSession, rfl⟩ := List.mem_map.mp hId
    have hRange := h.range session hSession
    exact List.mem_range'_1.mpr (by omega)
  have hLength := (h.sessions.subperm hSubset).length_le
  rwa [List.length_map, List.length_range'] at hLength

/-- The table finds exactly the sessions, each at its own index. -/
theorem Distinct.rowIn_iff (h : sources.Distinct) (id i : Nat) :
    rowIn sources.sessionIndexByPlayerId id = some i ↔
      ∃ session, sources.activeSessions[i]? = some session ∧ session.playerId = id := by
  have hLength : sources.sessionIndexByPlayerId.length = sources.maxPlayers + 1 := by
    unfold sessionIndexByPlayerId
    rw [length_indexSessions, List.length_replicate]
  have hRange : ∀ session ∈ sources.activeSessions, session.playerId <
      (List.replicate (sources.maxPlayers + 1) (-1 : Int)).length := by
    intro session hSession
    rw [List.length_replicate]
    exact Nat.lt_succ_of_le (h.range session hSession).2
  have hFound : ∀ j session, sources.activeSessions[j]? = some session →
      rowIn sources.sessionIndexByPlayerId session.playerId = some j := by
    intro j session hSession
    have hMem := List.mem_of_getElem? hSession
    have hIndex : j < 2 ^ 31 := by
      have hIn := (List.getElem?_eq_some_iff.mp hSession).1
      exact (hIn.trans_le h.length_le).trans h.limit
    have hValue : sources.sessionIndexByPlayerId.getD session.playerId (-1) = j := by
      unfold sessionIndexByPlayerId
      rw [getD_indexSessions h.sessions hRange 0 hSession, Nat.zero_add]
      apply Int.bmod_eq_of_le_mul_two
      · omega
      · omega
    have hBelow : ¬ sources.maxPlayers + 1 ≤ session.playerId :=
      not_le.mpr (Nat.lt_succ_of_le (h.range session hMem).2)
    have hNonneg : ¬ (j : Int) < 0 := not_lt.mpr (Int.natCast_nonneg j)
    unfold rowIn
    rw [hLength, hValue, if_neg hBelow, if_neg hNonneg, Int.toNat_natCast]
  constructor
  · intro hRow
    by_cases hKnown : ∃ session ∈ sources.activeSessions, session.playerId = id
    · obtain ⟨session, hSession, rfl⟩ := hKnown
      obtain ⟨j, hAt⟩ := List.mem_iff_getElem?.mp hSession
      rw [hFound j session hAt, Option.some.injEq] at hRow
      exact ⟨session, hRow ▸ hAt, rfl⟩
    · push Not at hKnown
      have hValue : sources.sessionIndexByPlayerId.getD id (-1) = -1 := by
        unfold sessionIndexByPlayerId
        rw [getD_indexSessions_of_absent hKnown, List.getD_eq_getElem?_getD,
          List.getElem?_replicate]
        split
        · rfl
        · rfl
      unfold rowIn at hRow
      rw [hValue] at hRow
      simp at hRow
  · rintro ⟨session, hAt, rfl⟩
    exact hFound i session hAt

/-- The scattered views are the joined ones. -/
theorem Distinct.snapshotPlayers_eq (h : sources.Distinct) :
    sources.snapshotPlayers = sources.activeSessions.map sources.joined := by
  unfold snapshotPlayers
  dsimp only
  rw [scatterStates_eq, scatterStates_eq, scatterStates_eq, scatterStates_eq,
    scatter_map h.rowIn_iff h.motions, scatter_map h.rowIn_iff h.combats,
    scatter_map h.rowIn_iff h.inventories, scatter_map h.rowIn_iff h.scores]
  apply List.map_congr_left
  intro session _
  unfold joinRow joined
  cases sources.movementStates.find? fun state => state.playerId = session.playerId <;>
    cases sources.combatStates.find? fun state => state.playerId = session.playerId <;>
      cases sources.inventoryStates.find? fun state => state.playerId = session.playerId <;>
        cases sources.scoreboard.find? fun score => score.playerId = session.playerId <;> rfl

/-- With one entry for each id the last entry of an id is the one that is found. -/
theorem getLast?_filter_eq_find? {α : Type} {key : α → Nat} {entries : List α}
    (hKeys : (entries.map key).Nodup) (k : Nat) :
    (entries.filter fun entry => key entry == k).getLast? =
      entries.find? fun entry => key entry = k := by
  induction entries with
  | nil => rfl
  | cons entry rest ih =>
      rw [List.map_cons, List.nodup_cons] at hKeys
      by_cases hEntry : key entry = k
      · have hNone : rest.filter (fun entry => key entry == k) = [] := by
          rw [List.filter_eq_nil_iff]
          intro other hOther hSame
          exact hKeys.1 (hEntry.trans (beq_iff_eq.mp hSame).symm ▸ List.mem_map_of_mem hOther)
        rw [List.filter_cons_of_pos (by simpa using hEntry), hNone,
          List.find?_cons_of_pos (by simpa using hEntry)]
        rfl
      · rw [List.filter_cons_of_neg (by simpa using hEntry), ih hKeys.2,
          List.find?_cons_of_neg (by simpa using hEntry)]

/-- A tick reads the position of a player as the join has it. -/
theorem Distinct.snapshotPosition_eq (h : sources.Distinct) {s : MainLoop F}
    (hCapacity : s.sessionManager.capacity = sources.maxPlayers) {session : SessionView}
    (hSession : session ∈ sources.activeSessions) :
    s.snapshotPosition sources.movementStates session.playerId =
      (sources.joined session).position := by
  have hIn : session.playerId < sources.maxPlayers + 1 :=
    Nat.lt_succ_of_le (h.range session hSession).2
  unfold MainLoop.snapshotPosition joined SnapshotPlayerView.position
  rw [getLast?_filter_eq_find? h.motions, hCapacity]
  cases sources.movementStates.find? fun state => state.playerId = session.playerId with
  | none => rfl
  | some state => exact if_pos hIn

theorem sendSnapshots_map {s : MainLoop F} {movementStates : List (PlayerMotionState F)}
    {position : SessionView → F × F} {sessions : List SessionView}
    (h : ∀ session ∈ sessions,
      s.snapshotPosition movementStates session.playerId = position session)
    (replication : WorldReplication) :
    s.sendSnapshots sessions (sessions.map position) replication =
      s.sendUpdates movementStates sessions replication := by
  induction sessions generalizing replication with
  | nil => rfl
  | cons session rest ih =>
      have hRest := ih fun other hOther => h other (List.mem_cons_of_mem session hOther)
      unfold MainLoop.sendSnapshots MainLoop.sendUpdates
      rw [h session List.mem_cons_self, List.map_cons]
      dsimp only
      rw [hRest, hRest]

/-- The players of the snapshot are the sessions in their order, each joined with the
entries of its own id. The position of its chunk replication is its own, and so a snapshot
sends the updates of the tick. -/
theorem snapshot_is_join (h : sources.Distinct) :
    sources.snapshotPlayers = sources.activeSessions.map sources.joined ∧
      sources.players =
        sources.activeSessions.map (fun session => playerToJson (sources.joined session) session) ∧
      sources.playerPositionsBySessionIndex =
        sources.activeSessions.map (fun session => (sources.joined session).position) ∧
      ∀ (s : MainLoop F) (replication : WorldReplication),
        s.sessionManager.capacity = sources.maxPlayers →
          s.sendSnapshots sources.activeSessions sources.playerPositionsBySessionIndex
              replication =
            s.sendUpdates sources.movementStates sources.activeSessions replication := by
  have hPlayers := h.snapshotPlayers_eq
  have hPositions : sources.playerPositionsBySessionIndex =
      sources.activeSessions.map (fun session => (sources.joined session).position) := by
    rw [playerPositionsBySessionIndex, hPlayers, List.map_map]
    rfl
  refine ⟨hPlayers, ?_, hPositions, fun s replication hCapacity => ?_⟩
  · rw [players, hPlayers, List.zipWith_map_left, List.zipWith_self]
  · rw [hPositions]
    apply sendSnapshots_map
    intro session hSession
    exact h.snapshotPosition_eq hCapacity hSession

/-- Two sessions in the order of their joins, and lists in other orders that leave some out. -/
def twoSessions : SnapshotSources ℚ where
  maxPlayers := 4
  combatStartingHealth := 100
  matchRespawnsPerPlayer := 2
  activeSessions := [{ playerId := 2, peerToken := 7 }, { playerId := 1, peerToken := 5 }]
  movementStates := [{ playerId := 1, positionX := 3 }, { playerId := 9 }]
  combatStates := [{ playerId := 1, health := 40 }, { playerId := 2, health := 70 }]
  inventoryStates := []
  scoreboard := [{ playerId := 2, respawnsRemaining := 1 }]

theorem snapshot_is_join_twoSessions :
    twoSessions.playerPositionsBySessionIndex = [(0, 0), (3, 0)] ∧
      twoSessions.snapshotPlayers.map SnapshotPlayerView.health = [70, 40] := by
  have hDistinct : twoSessions.Distinct :=
    ⟨by decide, by decide, by decide, by decide, by decide, by decide, by decide⟩
  obtain ⟨hPlayers, -, hPositions, -⟩ := snapshot_is_join hDistinct
  rw [hPlayers, hPositions]
  exact ⟨by decide, by decide⟩

end SnapshotSources

end DevyFps.Server
