import DevyFps.Server.ServerCast
import DevyFps.Server.SessionAdmission

/-! What a newcomer finds under the player id that it is given. The slots of departed players
are handed on, and two components keep what they know about the earlier owner. -/

namespace DevyFps.Server.MainLoop

open Foundations FloatFormat

variable {F : Type} [SingleFloat F]

/-- No join under the name was accepted. -/
def NewName (trace : List (LoopEvent F)) (playerName : PlayerName) : Prop :=
  ∀ peerToken result, .received peerToken (.joinRequest playerName) (.join result) ∈ trace →
    result.accepted = false

/-- A record that tells nothing about an earlier match. -/
structure BlankRecord (config : MatchLifecycleConfig) (record : PlayerRecord) : Prop where
  kills : record.kills = 0
  deaths : record.deaths = 0
  coins : record.coins = 0
  respawns : record.respawnsRemaining = config.respawnsPerPlayer
  out : record.eliminated = false

/-- What the claim to a fresh start means for a player id. -/
structure StartsFresh (s : MainLoop F) (playerId : Nat) : Prop where
  movement : s.movementSimulation.stateFor playerId = some { playerId := playerId }
  combat : s.combatSimulation.stateFor playerId = some
    { playerId := playerId, health := s.combatSimulation.config.startingHealth }
  inputs : (s.authoritativeLoop.inputQueuesByPlayer.find playerId).getD [] = []
  fires : (s.combatSimulation.fireQueueByPlayer.find playerId).getD [] = []
  pickups : (s.inventoryLootSimulation.pickupQueueByPlayer.find playerId).getD [] = []
  inventory : s.inventoryLootSimulation.summaryFor playerId = some { playerId := playerId }
  record : ∀ record, s.matchLifecycleSimulation.playersById.find playerId = some record →
    BlankRecord s.matchLifecycleSimulation.config record ∧ record.pendingRespawnTick = none

/-- The earlier owner of a slot, if it had one, left no treasure, no answered pickup and no
trace of a match in the records that outlive its session. -/
structure LeftBlank (s : MainLoop F) (slot : Nat) : Prop where
  inventory : ∀ summary, s.inventoryLootSimulation.summaryFor slot = some summary →
    summary = { playerId := slot }
  record : ∀ record, s.matchLifecycleSimulation.playersById.find slot = some record →
    BlankRecord s.matchLifecycleSimulation.config record

variable {s t : MainLoop F}

/-- A join that is accepted for a new name takes the first free slot. -/
theorem accepted_join (hTables : s.sessionManager.TablesAgree) {peerToken : PeerToken}
    {playerName : PlayerName} {result : JoinResult}
    (hJoin : LoopStep s (.received peerToken (.joinRequest playerName) (.join result)) t)
    (hAccepted : result.status = .accepted) :
    ∃ sessions, t = { s with sessionManager := sessions }.ensurePlayer result.session.playerId ∧
      ¬ s.sessionManager.Seated result.session.playerId ∧
      s.sessionManager.firstFreeSlot = some result.session.playerId := by
  obtain ⟨name, now, hPacket, rfl, rfl⟩ := join_step hJoin
  injection hPacket with hName
  subst hName
  rcases SessionManager.handleJoinRequest_seats hTables peerToken playerName now with
    ⟨hRefused, -⟩ | ⟨-, hStatus, -⟩ | ⟨hTaken, hSlot, -, hFree, -⟩
  · rw [JoinResult.accepted, hAccepted] at hRefused
    cases hRefused
  · rw [hStatus] at hAccepted
    cases hAccepted
  · obtain ⟨-, -, -, ⟨hStatus, -⟩ | ⟨-, -, hFirst⟩⟩ := SessionManager.chooseSlot_ok hSlot
    · rw [hStatus] at hAccepted
      cases hAccepted
    · refine ⟨(s.sessionManager.handleJoinRequest peerToken playerName now).2, ?_, hFree, hFirst⟩
      unfold receiveJoin
      dsimp only
      rw [if_pos hTaken]

/-- The summary of a player that was ensured, whether it was known or not. -/
theorem summaryFor_ensurePlayer (inventory : InventoryLootSimulation F) (playerId : Nat) :
    (inventory.ensurePlayer playerId).summaryFor playerId =
      some ((inventory.summaryFor playerId).getD { playerId := playerId }) := by
  unfold InventoryLootSimulation.summaryFor InventoryLootSimulation.ensurePlayer
  rw [UnorderedMap.find_tryEmplace, if_pos rfl, Option.map_some]
  cases inventory.playersById.find playerId with
  | none => rfl
  | some player => rfl

/-- A blank record is blank when its player becomes known. -/
theorem blankRecord_touch {config : MatchLifecycleConfig} {record : PlayerRecord} :
    BlankRecord config (MatchLifecycleSimulation.touch record) ↔ BlankRecord config record :=
  ⟨fun h => ⟨h.kills, h.deaths, h.coins, h.respawns, h.out⟩,
    fun h => ⟨h.kills, h.deaths, h.coins, h.respawns, h.out⟩⟩

theorem blankRecord_newRecord (lifecycle : MatchLifecycleSimulation) (playerId : Nat) :
    BlankRecord lifecycle.config (lifecycle.newRecord playerId) :=
  ⟨rfl, rfl, rfl, rfl, rfl⟩

/-- Where no session has the id, only the inventory and the match know it. -/
theorem Cast.startsFresh_iff (h : s.Cast) (sessions : SessionManager) {playerId : Nat}
    (hFree : ¬ s.sessionManager.Seated playerId) :
    ({ s with sessionManager := sessions }.ensurePlayer playerId).StartsFresh playerId ↔
      s.LeftBlank playerId := by
  have hMover : s.movementSimulation.statesByPlayer.find playerId = none := by
    have hUnknown := (h.movers playerId).not.mpr hFree
    rwa [MovementSimulation.knows, Bool.not_eq_true, Option.isSome_eq_false_iff,
      Option.isNone_iff_eq_none] at hUnknown
  have hFighter : s.combatSimulation.playersById.find playerId = none := by
    have hUnknown := (h.fighters playerId).not.mpr hFree
    rwa [CombatSimulation.knows, Bool.not_eq_true, Option.isSome_eq_false_iff,
      Option.isNone_iff_eq_none] at hUnknown
  have hInputs : s.authoritativeLoop.inputQueuesByPlayer.find playerId = none :=
    not_not.mp fun hFind => hFree (h.senders playerId hFind)
  have hFires : s.combatSimulation.fireQueueByPlayer.find playerId = none :=
    not_not.mp fun hFind => hFree
      ((h.fighters playerId).mp (h.fighterKeys.queues playerId hFind))
  have hPickups : s.inventoryLootSimulation.pickupQueueByPlayer.find playerId = none :=
    not_not.mp fun hFind => hFree (h.looters playerId hFind)
  have hSummary := summaryFor_ensurePlayer s.inventoryLootSimulation playerId
  have hRecord := s.matchLifecycleSimulation.find_ensurePlayer playerId playerId
  rw [if_pos rfl] at hRecord
  constructor
  · intro hFresh
    refine ⟨fun summary hFound => ?_, fun record hFound => ?_⟩
    · have hStarts : (s.inventoryLootSimulation.ensurePlayer playerId).summaryFor playerId = _ :=
        hFresh.inventory
      rw [hSummary, hFound] at hStarts
      exact Option.some.inj hStarts
    · rw [MatchLifecycleSimulation.recordOf, hFound] at hRecord
      exact blankRecord_touch.mp (hFresh.record _ hRecord).1
  · intro hBlank
    constructor
    · change (s.movementSimulation.ensurePlayer playerId).statesByPlayer.find playerId = _
      rw [MovementSimulation.find_ensurePlayer, if_pos rfl, hMover]
      rfl
    · change (s.combatSimulation.ensurePlayer playerId).playersById.find playerId = _
      rw [CombatSimulation.find_ensurePlayer, if_pos rfl, hFighter]
      rfl
    · change (s.authoritativeLoop.inputQueuesByPlayer.find playerId).getD [] = []
      rw [hInputs]
      rfl
    · change (s.combatSimulation.fireQueueByPlayer.find playerId).getD [] = []
      rw [hFires]
      rfl
    · change (s.inventoryLootSimulation.pickupQueueByPlayer.find playerId).getD [] = []
      rw [hPickups]
      rfl
    · refine hSummary.trans ?_
      cases hFound : s.inventoryLootSimulation.summaryFor playerId with
      | none => rfl
      | some summary => rw [hBlank.inventory summary hFound, Option.getD_some]
    · intro record hFound
      have hTouched := hRecord.symm.trans hFound
      injection hTouched with hTouched
      rw [← hTouched, MatchLifecycleSimulation.recordOf]
      cases hOld : s.matchLifecycleSimulation.playersById.find playerId with
      | none =>
          exact ⟨blankRecord_touch.mpr (blankRecord_newRecord s.matchLifecycleSimulation playerId),
            rfl⟩
      | some old =>
          refine ⟨blankRecord_touch.mpr (hBlank.record old hOld), ?_⟩
          have hPending := s.matchLifecycleSimulation.pendingRespawnTick_standing playerId
          rw [hOld] at hPending
          exact hPending.symm.trans (not_not.mp fun hWaits => hFree (h.waiting playerId hWaits))

/-- A new name starts fresh exactly if the slot that is handed to it was left blank. -/
theorem new_name_starts_fresh_iff {setup : ServerSetup F} {trace : List (LoopEvent F)}
    (run : Run LoopStep (create setup) trace s) {peerToken : PeerToken} {playerName : PlayerName}
    {result : JoinResult}
    (hJoin : LoopStep s (.received peerToken (.joinRequest playerName) (.join result)) t)
    (hAccepted : result.status = .accepted) :
    t.StartsFresh result.session.playerId ↔
      ∀ slot, s.sessionManager.firstFreeSlot = some slot → s.LeftBlank slot := by
  have hCast := cast_run run
  obtain ⟨sessions, rfl, hFree, hFirst⟩ := accepted_join hCast.tables hJoin hAccepted
  rw [hCast.startsFresh_iff sessions hFree, hFirst]
  constructor
  · intro hBlank slot hSlot
    exact Option.some.inj hSlot ▸ hBlank
  · exact fun hBlank => hBlank _ rfl

open SessionManager (alpha bravo)

/-- Two players join. -/
def duelJoined : MainLoop ℚ :=
  (((create duel).receive 101 (.joinRequest alpha) 0).2.receive 102 (.joinRequest bravo) 0).2

/-- The match starts. -/
def duelStarted : MainLoop ℚ := (duelJoined.advance 33333333).tickNext

/-- The first of them asks for a treasure. -/
def duelAsked : MainLoop ℚ :=
  (duelStarted.receive 101 (.message (.treasurePickup (some { playerId := 1, pickupSeq := 1 }))) 0).2

/-- It is answered in the next tick, and leaves. -/
def duelLeft : MainLoop ℚ := ((duelAsked.advance 66666666).tickNext.disconnect 101).2

/-- A name is new until somebody joins with it. -/
theorem NewName.snoc {trace : List (LoopEvent F)} {playerName : PlayerName}
    (h : NewName trace playerName) {event : LoopEvent F}
    (hEvent : ∀ peerToken result,
      event ≠ .received peerToken (.joinRequest playerName) (.join result)) :
    NewName (trace ++ [event]) playerName := by
  intro peerToken result hMem
  rcases List.mem_append.mp hMem with hOld | hNew
  · exact h peerToken result hOld
  · exact absurd (List.mem_singleton.mp hNew).symm (hEvent peerToken result)

/-- The run of the two players, and the names that are new after it. -/
theorem run_duelJoined :
    ∃ trace, Run LoopStep (create duel) trace duelJoined ∧
      ∀ playerName, playerName ≠ alpha → playerName ≠ bravo → NewName trace playerName := by
  have hAlpha := (Run.nil (create duel)).snoc
    (LoopStep.receive _ 101 (.joinRequest alpha) 0 rfl (by decide))
  have hBravo := hAlpha.snoc (LoopStep.receive _ 102 (.joinRequest bravo) 0 rfl (by decide))
  refine ⟨_, hBravo, fun playerName hNotAlpha hNotBravo => ?_⟩
  have hNobody : NewName (F := ℚ) [] playerName := fun _ _ hMem => absurd hMem List.not_mem_nil
  refine (hNobody.snoc fun _ _ hEvent => ?_).snoc fun _ _ hEvent => ?_
  · injection hEvent with _ hPacket
    injection hPacket with hName
    exact hNotAlpha hName.symm
  · injection hEvent with _ hPacket
    injection hPacket with hName
    exact hNotBravo hName.symm

theorem run_duelStarted :
    ∃ trace, Run LoopStep (create duel) trace duelStarted ∧
      ∀ playerName, playerName ≠ alpha → playerName ≠ bravo → NewName trace playerName := by
  obtain ⟨trace, run, hNew⟩ := run_duelJoined
  obtain ⟨record, hTick⟩ := step_tickNext (s := duelJoined.advance 33333333) (by decide +kernel)
  refine ⟨_, (run.snoc (.advance _ 33333333 rfl)).snoc hTick, fun playerName hAlpha hBravo => ?_⟩
  exact ((hNew playerName hAlpha hBravo).snoc (fun _ _ hEvent => by cases hEvent)).snoc
    (fun _ _ hEvent => by cases hEvent)

theorem run_duelLeft :
    ∃ trace, Run LoopStep (create duel) trace duelLeft ∧
      ∀ playerName, playerName ≠ alpha → playerName ≠ bravo → NewName trace playerName := by
  obtain ⟨trace, run, hNew⟩ := run_duelStarted
  have hAsked := run.snoc (.receive _ 101 (.message (.treasurePickup
    (some { playerId := 1, pickupSeq := 1 }))) 0 (List.isEmpty_iff.mp (by decide +kernel))
    (by decide))
  have hDue := hAsked.snoc (.advance duelAsked 66666666 (List.isEmpty_iff.mp (by decide +kernel)))
  obtain ⟨record, hTick⟩ := step_tickNext (s := duelAsked.advance 66666666) (by decide +kernel)
  refine ⟨_, (hDue.snoc hTick).snoc
    (.disconnect _ 101 (List.isEmpty_iff.mp (by decide +kernel))), fun playerName hAlpha hBravo => ?_⟩
  refine ((((hNew playerName hAlpha hBravo).snoc ?_).snoc ?_).snoc ?_).snoc ?_
  · intro _ _ hEvent
    injection hEvent with _ hPacket
    cases hPacket
  · intro _ _ hEvent
    cases hEvent
  · intro _ _ hEvent
    cases hEvent
  · intro _ _ hEvent
    cases hEvent

/-- The first of them leaves without a deed. -/
def duelVacated : MainLoop ℚ := (duelStarted.disconnect 101).2

/-- The first slot is left with a blank record. -/
theorem leftBlank_duelVacated : duelVacated.LeftBlank 1 := by
  have hSummary : duelVacated.inventoryLootSimulation.summaryFor 1 = some { playerId := 1 } := by
    decide +kernel
  have hRecord : (duelVacated.matchLifecycleSimulation.playersById.find 1).all (fun record =>
      record.kills = 0 ∧ record.deaths = 0 ∧ record.coins = 0 ∧ record.respawnsRemaining =
        duelVacated.matchLifecycleSimulation.config.respawnsPerPlayer ∧
          record.eliminated = false) = true := by
    decide +kernel
  constructor
  · intro summary hFound
    exact (Option.some.inj (hSummary.symm.trans hFound)).symm
  · intro record hFound
    rw [hFound, Option.all_some, decide_eq_true_eq] at hRecord
    obtain ⟨hKills, hDeaths, hCoins, hRespawns, hIn⟩ := hRecord
    exact ⟨hKills, hDeaths, hCoins, hRespawns, hIn⟩

/-- The slot of a player that left without a deed is handed on fresh, that of one whose pickup was
answered is not. -/
theorem new_name_starts_fresh_iff_vacated :
    (duelVacated.receive 103 (.joinRequest [0x63]) 0).2.StartsFresh 1 ∧
      ¬(duelLeft.receive 103 (.joinRequest [0x63]) 0).2.StartsFresh 1 := by
  constructor
  · obtain ⟨trace, run, -⟩ := run_duelStarted
    have hVacated := run.snoc
      (.disconnect duelStarted 101 (List.isEmpty_iff.mp (by decide +kernel)))
    have hId : (duelVacated.receiveJoin 103 [0x63] 0).1.session.playerId = 1 := by decide +kernel
    have hSlot : duelVacated.sessionManager.firstFreeSlot = some 1 := by decide +kernel
    rw [← hId]
    refine (new_name_starts_fresh_iff hVacated (.receive duelVacated 103 (.joinRequest [0x63]) 0
      (List.isEmpty_iff.mp (by decide +kernel)) (by decide)) (by decide +kernel)).mpr ?_
    intro slot hFirst
    obtain rfl := Option.some.inj (hSlot.symm.trans hFirst)
    exact leftBlank_duelVacated
  · obtain ⟨trace, run, -⟩ := run_duelLeft
    have hId : (duelLeft.receiveJoin 103 [0x63] 0).1.session.playerId = 1 := by decide +kernel
    have hSummary : duelLeft.inventoryLootSimulation.summaryFor 1 =
        some { playerId := 1, lastPickupSeq := 1 } := by decide +kernel
    rw [← hId]
    intro hFresh
    have hBlank := (new_name_starts_fresh_iff run (.receive duelLeft 103 (.joinRequest [0x63]) 0
      (List.isEmpty_iff.mp (by decide +kernel)) (by decide)) (by decide +kernel)).mp hFresh 1
        (by decide +kernel)
    exact absurd (hBlank.inventory _ hSummary) (by decide +kernel)

/-- With a seat left that nobody ever had, a newcomer is given the slot of a departed player, and
with it the number of the last pickup that was answered to that player. -/
theorem newcomer_inherits_pickup :
    ¬ ∀ (setup : ServerSetup ℚ) (trace : List (LoopEvent ℚ)) (s t : MainLoop ℚ),
      Run LoopStep (create setup) trace s →
      ∀ (peerToken : PeerToken) (playerName : PlayerName) (result : JoinResult),
        LoopStep s (.received peerToken (.joinRequest playerName) (.join result)) t →
        result.status = .accepted → NewName trace playerName →
          t.StartsFresh result.session.playerId := by
  intro hClaim
  obtain ⟨trace, run, hNew⟩ := run_duelLeft
  have hFresh := hClaim duel trace duelLeft _ run 103 [0x63] _
    (.receive _ 103 (.joinRequest [0x63]) 0 (List.isEmpty_iff.mp (by decide +kernel)) (by decide))
    (by decide +kernel) (hNew _ (by decide) (by decide))
  have hSlot : (duelLeft.receiveJoin 103 [0x63] 0).1.session.playerId = 1 := by decide +kernel
  have hSummary := hFresh.inventory
  change (duelLeft.receiveJoin 103 [0x63] 0).2.inventoryLootSimulation.summaryFor
    (duelLeft.receiveJoin 103 [0x63] 0).1.session.playerId = _ at hSummary
  rw [hSlot] at hSummary
  have hKept : (duelLeft.receiveJoin 103 [0x63] 0).2.inventoryLootSimulation.summaryFor 1 =
      some { playerId := 1, lastPickupSeq := 1 } := by decide +kernel
  rw [hKept] at hSummary
  exact absurd hSummary (by decide +kernel)

end DevyFps.Server.MainLoop
