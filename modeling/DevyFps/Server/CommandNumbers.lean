import DevyFps.Server.ArrivalOrder
import DevyFps.Server.ServerCast

/-! The sequence numbers that the server has on record for a player, for each of the three
kinds of numbered commands, and what the deeds of the loop do to them. -/

namespace DevyFps.Server

open Foundations CommandQueues

inductive CommandKind where
  | input
  | fire
  | pickup
  deriving DecidableEq, Repr

namespace Inbox

variable {α : Type} (seq : α → Nat)

/-- The numbers that a new one has to pass. -/
def numbers (inbox : Inbox α) : List Nat :=
  inbox.last.toList ++ (inbox.queue.getD []).map seq

/-- A number is behind only where it fails to pass one of them. -/
theorem exists_of_behind {inbox : Inbox α} {number : Nat} (h : inbox.behind seq number = true) :
    ∃ earlier ∈ inbox.numbers seq, number ≤ earlier := by
  unfold numbers
  rcases (Bool.or_eq_true _ _).mp h with hLast | hBack
  · obtain ⟨last, hFind, hLe⟩ := (Option.any_eq_true _ _).mp hLast
    exact ⟨last, List.mem_append_left _ (Option.mem_toList.mpr hFind), of_decide_eq_true hLe⟩
  · obtain ⟨back, hFind, hLe⟩ := (Option.any_eq_true _ _).mp hBack
    obtain ⟨queue, hQueue, hLast⟩ := Option.bind_eq_some_iff.mp hFind
    rw [hQueue, Option.getD_some]
    exact ⟨seq back, List.mem_append_right _ (List.mem_map_of_mem (List.mem_of_getLast? hLast)),
      of_decide_eq_true hLe⟩

/-- A command adds its own number at most. -/
theorem numbers_put (inbox : Inbox α) (command : α) :
    (inbox.put seq command).numbers seq ⊆ inbox.numbers seq ++ [seq command] := by
  intro number hNumber
  unfold numbers put at *
  simp only [Option.toList_some, Option.getD_some, List.map_append, List.map_cons, List.map_nil,
    List.mem_append, List.mem_singleton] at hNumber ⊢
  rcases hNumber with hNew | hOld | hNew
  · exact Or.inr hNew
  · exact Or.inl (Or.inr hOld)
  · exact Or.inr hNew

/-- A queue that loses commands, under a last number that stays, gains no number. -/
theorem numbers_subset {inbox inbox' : Inbox α} (hLast : inbox'.last = inbox.last)
    (hQueue : inbox'.queue.getD [] ⊆ inbox.queue.getD []) :
    inbox'.numbers seq ⊆ inbox.numbers seq := by
  unfold numbers
  rw [hLast]
  exact List.append_subset.mpr ⟨List.subset_append_left _ _,
    List.Subset.trans (List.map_subset seq hQueue) (List.subset_append_right _ _)⟩

end Inbox

variable {F : Type} [SingleFloat F]

namespace AuthoritativeLoop

/-- The numbers of the inputs of a player. -/
def inputNumbers (s : AuthoritativeLoop F) (playerId : Nat) : List Nat :=
  (s.inbox playerId).numbers PlayerInputCommand.inputSeq

/-- An input is out of order only if an earlier one had its number or a larger one. -/
theorem exists_of_outOfOrder {s : AuthoritativeLoop F} {input : PlayerInputCommand F}
    (h : (s.enqueueInput input).1 = .outOfOrder) :
    ∃ earlier ∈ s.inputNumbers input.playerId, input.inputSeq ≤ earlier := by
  have hOwn := (enqueueInput_local.own s input (by rw [h]; exact InputEnqueueStatus.noConfusion)).1
  rw [h] at hOwn
  unfold Inbox.offer at hOwn
  split at hOwn
  · rename_i hBehind
    exact Inbox.exists_of_behind _ hBehind
  · cases hOwn

/-- What an input adds to the numbers of a player. -/
theorem inputNumbers_enqueueInput (s : AuthoritativeLoop F) (input : PlayerInputCommand F)
    (id : Nat) :
    (s.enqueueInput input).2.inputNumbers id ⊆
      s.inputNumbers id ++ if input.playerId = id then [input.inputSeq] else [] := by
  unfold inputNumbers
  by_cases hSame : input.playerId = id
  · rw [if_pos hSame, ← hSame]
    rcases s.enqueueInput_cases input with ⟨-, hState⟩ | ⟨hStatus, -⟩
    · rw [hState]
      exact List.subset_append_left _ _
    · have hOwn := enqueueInput_local.own s input (by rw [hStatus]; exact InputEnqueueStatus.noConfusion)
      rw [hOwn.2]
      unfold Inbox.offer
      split
      · exact List.subset_append_left _ _
      · exact Inbox.numbers_put _ _ _
  · rw [if_neg hSame, List.append_nil, enqueueInput_local.others s input id (Ne.symm hSame)]
    exact List.Subset.refl _

/-- Frames take inputs out of the queues and put none in. -/
theorem shrinks_cutFrames (s : AuthoritativeLoop F) (count : Nat) :
    Shrinks s.inputQueuesByPlayer (s.cutFrames count).2.inputQueuesByPlayer := by
  induction count generalizing s with
  | zero => exact .refl _
  | succ count ih => exact (shrinks_drain s.inputQueuesByPlayer).trans (ih s.cutFrame.2)

/-- No tick makes up the number of an input. -/
theorem inputNumbers_advance (s : AuthoritativeLoop F) (now : TimePoint) (id : Nat) :
    (s.advance now).2.inputNumbers id ⊆ s.inputNumbers id := by
  refine Inbox.numbers_subset _ ?_ ((s.shrinks_cutFrames (s.framesDue now)) id).subset
  exact congrArg (fun last => last.find id) (s.lastInputSeqByPlayer_cutFrames (s.framesDue now))

/-- A player that leaves takes its numbers along. -/
theorem inputNumbers_clearPlayer (s : AuthoritativeLoop F) (playerId id : Nat) :
    (s.clearPlayer playerId).inputNumbers id ⊆ s.inputNumbers id := by
  unfold inputNumbers inbox
  rw [inputQueuesByPlayer_clearPlayer, lastInputSeqByPlayer_clearPlayer, UnorderedMap.find_erase,
    UnorderedMap.find_erase]
  split
  · exact List.nil_subset _
  · exact List.Subset.refl _

end AuthoritativeLoop

namespace CombatSimulation

/-- The numbers of the shots of a player. -/
def shotNumbers (s : CombatSimulation F) (playerId : Nat) : List Nat :=
  (s.inbox playerId).2.numbers FireCommand.shotSeq

/-- The same of a shot. -/
theorem exists_of_outOfOrder {s : CombatSimulation F} {fire : FireCommand F}
    (h : (s.enqueueFire fire).1 = .outOfOrder) :
    ∃ earlier ∈ s.shotNumbers fire.attackerId, fire.shotSeq ≤ earlier := by
  have hOwn := (enqueueFire_local.own s fire fun hNever => hNever).1
  rw [h] at hOwn
  unfold offerFire Inbox.offer at hOwn
  split at hOwn
  · cases hOwn
  · dsimp only at hOwn
    split at hOwn
    · rename_i hBehind
      exact Inbox.exists_of_behind _ hBehind
    · cases hOwn

/-- What a shot adds to the numbers of a player. -/
theorem shotNumbers_enqueueFire (s : CombatSimulation F) (fire : FireCommand F) (id : Nat) :
    (s.enqueueFire fire).2.shotNumbers id ⊆
      s.shotNumbers id ++ if fire.attackerId = id then [fire.shotSeq] else [] := by
  unfold shotNumbers
  by_cases hSame : fire.attackerId = id
  · rw [if_pos hSame, ← hSame, (enqueueFire_local.own s fire fun hNever => hNever).2]
    unfold offerFire Inbox.offer
    split
    · exact List.subset_append_left _ _
    · dsimp only
      split
      · exact List.subset_append_left _ _
      · exact Inbox.numbers_put _ _ _
  · rw [if_neg hSame, List.append_nil, enqueueFire_local.others s fire id (Ne.symm hSame)]
    exact List.Subset.refl _

/-- Nothing about the numbers of shots changes but that queues lose shots. -/
def LosesShots (s t : CombatSimulation F) : Prop :=
  t.lastShotSeqByPlayer = s.lastShotSeqByPlayer ∧
    Shrinks s.fireQueueByPlayer t.fireQueueByPlayer

/-- Numbers that are lost twice are lost. -/
theorem LosesShots.trans {s t u : CombatSimulation F} (h : LosesShots s t)
    (h' : LosesShots t u) : LosesShots s u :=
  ⟨h'.1.trans h.1, h.2.trans h'.2⟩

theorem LosesShots.foldl {α : Type} {f : CombatSimulation F → α → CombatSimulation F}
    (h : ∀ s a, LosesShots s (f s a)) (l : List α) (s : CombatSimulation F) :
    LosesShots s (l.foldl f s) := by
  induction l generalizing s with
  | nil => exact ⟨rfl, .refl _⟩
  | cons head rest ih => exact (h s head).trans (ih (f s head))

/-- Where shots are only lost, their numbers are as well. -/
theorem LosesShots.shotNumbers {s t : CombatSimulation F} (h : LosesShots s t) (id : Nat) :
    t.shotNumbers id ⊆ s.shotNumbers id :=
  Inbox.numbers_subset _ (congrArg (fun last => last.find id) h.1) (h.2 id).subset

/-- A move touches no queue of shots. -/
theorem losesShots_setPlayerPosition (s : CombatSimulation F) (playerId : Nat) (x y : F) :
    LosesShots s (s.setPlayerPosition playerId x y) := by
  unfold setPlayerPosition
  dsimp only
  split
  · exact ⟨rfl, .refl _⟩
  · exact ⟨rfl, .refl _⟩

theorem losesShots_setPlayerPositions (s : CombatSimulation F)
    (states : List (PlayerMotionState F)) : LosesShots s (s.setPlayerPositions states) := by
  have hStep : ∀ (t : CombatSimulation F) (state : PlayerMotionState F),
      LosesShots t (t.setPlayerPosition state.playerId state.positionX state.positionY) :=
    fun t state => t.losesShots_setPlayerPosition _ _ _
  exact .foldl hStep states s

/-- Respawns touch no queue of shots either. -/
theorem losesShots_respawnPlayers (s : CombatSimulation F) (ids : List Nat) :
    LosesShots s (ids.foldl respawnPlayer s) := by
  have hStep : ∀ (t : CombatSimulation F) (id : Nat), LosesShots t (t.respawnPlayer id) :=
    fun t _ => ⟨rfl, .refl t.fireQueueByPlayer⟩
  exact .foldl hStep ids s

/-- A tick takes shots out of the queues. -/
theorem losesShots_resolveTick (s : CombatSimulation F) (tick : Nat) (tickInterval : Int) :
    LosesShots s (s.resolveTick tick tickInterval).2 := by
  obtain ⟨launched, hLaunches⟩ := s.launches_resolveTick tick tickInterval
  refine ⟨hLaunches.shots, ?_⟩
  rw [hLaunches.queues]
  exact shrinks_drain s.fireQueueByPlayer

theorem shotNumbers_removePlayer (s : CombatSimulation F) (playerId id : Nat) :
    (s.removePlayer playerId).shotNumbers id ⊆ s.shotNumbers id := by
  unfold shotNumbers inbox removePlayer
  dsimp only
  rw [UnorderedMap.find_erase, UnorderedMap.find_erase]
  split
  · exact List.nil_subset _
  · exact List.Subset.refl _

end CombatSimulation

namespace InventoryLootSimulation

/-- The numbers of the pickups of a player. -/
def pickupNumbers (s : InventoryLootSimulation F) (playerId : Nat) : List Nat :=
  (s.inbox playerId).numbers TreasurePickupCommand.pickupSeq

/-- The same of a pickup. -/
theorem exists_of_outOfOrder {s : InventoryLootSimulation F} {command : TreasurePickupCommand}
    (h : (s.enqueuePickup command).1 = .outOfOrder) :
    ∃ earlier ∈ s.pickupNumbers command.playerId, command.pickupSeq ≤ earlier := by
  rcases s.enqueuePickup_cases command with ⟨hStatus, -⟩ | ⟨-, hStatus, -⟩
  · rcases hStatus with ⟨hBehind, -⟩ | ⟨hStatus, -⟩
    · exact Inbox.exists_of_behind _ hBehind
    · rw [h] at hStatus
      cases hStatus
  · rw [h] at hStatus
    cases hStatus

theorem LeavesPickups.pickupNumbers {s t : InventoryLootSimulation F} (h : LeavesPickups s t)
    (id : Nat) : t.pickupNumbers id = s.pickupNumbers id := by
  unfold InventoryLootSimulation.pickupNumbers inbox
  rw [h.queues, h.enqueued]

/-- What a pickup adds to the numbers of a player. -/
theorem pickupNumbers_enqueuePickup (s : InventoryLootSimulation F)
    (command : TreasurePickupCommand) (id : Nat) :
    (s.enqueuePickup command).2.pickupNumbers id ⊆
      s.pickupNumbers id ++ if command.playerId = id then [command.pickupSeq] else [] := by
  by_cases hSame : command.playerId = id
  · rw [if_pos hSame, ← hSame]
    rcases s.enqueuePickup_cases command with ⟨-, hState⟩ | ⟨-, hStatus, -⟩
    · rw [hState, (s.leavesPickups_ensurePlayer command.playerId).pickupNumbers]
      exact List.subset_append_left _ _
    · have hOwn := enqueuePickup_local.own s command
        (by rw [hStatus]; exact TreasurePickupEnqueueStatus.noConfusion)
      unfold pickupNumbers
      rw [hOwn.2]
      unfold Inbox.offer
      split
      · exact List.subset_append_left _ _
      · exact Inbox.numbers_put _ _ _
  · unfold pickupNumbers
    rw [if_neg hSame, List.append_nil, enqueuePickup_local.others s command id (Ne.symm hSame)]
    exact List.Subset.refl _

/-- The last number outlives the session, the queue does not. -/
theorem pickupNumbers_removePlayer (s : InventoryLootSimulation F) (playerId id : Nat) :
    (s.removePlayer playerId).pickupNumbers id ⊆ s.pickupNumbers id := by
  refine Inbox.numbers_subset _ (congrArg some (s.lastEnqueued_removePlayer playerId id)) ?_
  change ((s.removePlayer playerId).pickupQueueByPlayer.find id).getD [] ⊆ _
  rw [removePlayer_queues]
  exact (shrinks_erase s.pickupQueueByPlayer playerId id).subset

/-- Drained pickups are gone from the queue, and the last number of each player stays. -/
theorem pickupNumbers_drainPickups (s : InventoryLootSimulation F) (id : Nat) :
    s.drainPickups.2.pickupNumbers id ⊆ s.pickupNumbers id :=
  Inbox.numbers_subset _ rfl (shrinks_drain s.pickupQueueByPlayer id).subset

/-- A tick answers pickups and adds none. -/
theorem PickupsKept.pickupNumbers_resolveTick {s : InventoryLootSimulation F}
    (h : s.PickupsKept) (tick : Nat) (movementStates : List (PlayerMotionState F))
    (combatStates : List PlayerCombatState) (deaths : List DeathResolution) (id : Nat) :
    (s.resolveTick tick movementStates combatStates deaths).2.pickupNumbers id ⊆
      s.pickupNumbers id := by
  have hAnswered := (h.resolveTick tick movementStates combatStates deaths).1.leaves
  have hLooted := s.leavesPickups_looted tick movementStates combatStates deaths
  rw [hAnswered.pickupNumbers, ← hLooted.pickupNumbers]
  exact pickupNumbers_drainPickups _ id

end InventoryLootSimulation

namespace Deed

/-- The number of a command of a player, whether it was accepted or not. -/
def numbers (deed : Deed F) (kind : CommandKind) (playerId : Nat) : List Nat :=
  match deed, kind with
  | .input _ command _, .input => if command.playerId = playerId then [command.inputSeq] else []
  | .fire _ command _, .fire => if command.attackerId = playerId then [command.shotSeq] else []
  | .pickup _ command _, .pickup => if command.playerId = playerId then [command.pickupSeq] else []
  | _, _ => []

/-- The peer that a deed gives a seat, or whose command it is. -/
def sender : Deed F → Option PeerToken
  | .seated peerToken _ => some peerToken
  | .input peerToken _ _ => some peerToken
  | .fire peerToken _ _ => some peerToken
  | .pickup peerToken _ _ => some peerToken
  | _ => none

end Deed

/-- The number of a message that carries a command of this kind. -/
def Message.number (message : Message F) (kind : CommandKind) : Option Nat :=
  match message, kind with
  | .playerInput command, .input => command.map PlayerInputCommand.inputSeq
  | .weaponFire command, .fire => command.map FireCommand.shotSeq
  | .treasurePickup command, .pickup => command.map TreasurePickupCommand.pickupSeq
  | _, _ => none

namespace PacketOutcome

/-- The number of the command that reached its queue. -/
def number (outcome : PacketOutcome F) (kind : CommandKind) : Option Nat :=
  match outcome, kind with
  | .input command _, .input => some command.inputSeq
  | .fire command _, .fire => some command.shotSeq
  | .pickup command _, .pickup => some command.pickupSeq
  | _, _ => none

@[simp]
theorem number_rejected (kind : CommandKind) :
    (.rejected : PacketOutcome F).number kind = none := by
  cases kind <;> rfl

@[simp]
theorem number_heard (kind : CommandKind) : (.heard : PacketOutcome F).number kind = none := by
  cases kind <;> rfl

@[simp]
theorem number_block (command : BlockUpdateCommand) (applied : BlockUpdateOutcome)
    (kind : CommandKind) : (.block command applied : PacketOutcome F).number kind = none := by
  cases kind <;> rfl

def isOutOfOrder (outcome : PacketOutcome F) : Bool :=
  match outcome with
  | .input _ status => status = .outOfOrder
  | .fire _ status => status = .outOfOrder
  | .pickup _ status => status = .outOfOrder
  | _ => false

end PacketOutcome

namespace MainLoop

/-- The sequence numbers on record for a player. -/
def numbers (s : MainLoop F) (kind : CommandKind) (playerId : Nat) : List Nat :=
  match kind with
  | .input => s.authoritativeLoop.inputNumbers playerId
  | .fire => s.combatSimulation.shotNumbers playerId
  | .pickup => s.inventoryLootSimulation.pickupNumbers playerId

variable {s t : MainLoop F}

/-- The inputs and the shots of a player are forgotten with its session. -/
theorem Cast.numbers_eq_nil (h : s.Cast) {playerId : Nat}
    (hFree : ¬ s.sessionManager.Seated playerId) {kind : CommandKind} (hKind : kind ≠ .pickup) :
    s.numbers kind playerId = [] := by
  cases kind with
  | input =>
      have hLast : s.authoritativeLoop.lastInputSeqByPlayer.find playerId = none :=
        not_not.mp fun hFind => hFree (h.lastInputs playerId hFind)
      have hQueue : s.authoritativeLoop.inputQueuesByPlayer.find playerId = none :=
        not_not.mp fun hFind => hFree (h.senders playerId hFind)
      unfold numbers AuthoritativeLoop.inputNumbers AuthoritativeLoop.inbox
      rw [hLast, hQueue]
      rfl
  | fire =>
      have hKnown : ¬ s.combatSimulation.knows playerId = true :=
        fun hKnows => hFree ((h.fighters playerId).mp hKnows)
      have hLast : s.combatSimulation.lastShotSeqByPlayer.find playerId = none :=
        not_not.mp fun hFind => hKnown (h.fighterKeys.shots playerId hFind)
      have hQueue : s.combatSimulation.fireQueueByPlayer.find playerId = none :=
        not_not.mp fun hFind => hKnown (h.fighterKeys.queues playerId hFind)
      unfold numbers CombatSimulation.shotNumbers CombatSimulation.inbox
      rw [hLast, hQueue]
      rfl
  | pickup => exact absurd rfl hKind

/-- The calls for a seated player leave the record alone. -/
theorem numbers_ensurePlayer (s : MainLoop F) (sessions : SessionManager) (joining : Nat)
    (kind : CommandKind) (playerId : Nat) :
    ({ s with sessionManager := sessions }.ensurePlayer joining).numbers kind playerId =
      s.numbers kind playerId := by
  cases kind with
  | input => rfl
  | fire => rfl
  | pickup =>
      exact (s.inventoryLootSimulation.leavesPickups_ensurePlayer joining).pickupNumbers playerId

/-- Whatever leaves the queues alone leaves their numbers alone. -/
theorem Idles.numbers (h : Idles s t) (kind : CommandKind) (playerId : Nat) :
    t.numbers kind playerId = s.numbers kind playerId := by
  unfold MainLoop.numbers
  rw [h.authoritativeLoop, h.combatRest, h.inventoryLootSimulation]
  rfl

/-- The combat part of a tick, from the moves to the respawns. -/
theorem losesShots_respawnedIn (s : MainLoop F) (frame : TickFrame F) :
    CombatSimulation.LosesShots s.combatSimulation (s.respawnedIn frame) := by
  have hPlaced := s.combatSimulation.losesShots_setPlayerPositions (s.movedIn frame).snapshot
  have hFought := CombatSimulation.losesShots_resolveTick
    (s.combatSimulation.setPlayerPositions (s.movedIn frame).snapshot) frame.tick s.tickInterval
  exact (hPlaced.trans hFought).trans
    ((s.foughtIn frame).2.losesShots_respawnPlayers (s.playedIn frame).1.respawnedPlayers)

/-- A tick of the loop adds no number to any of the three queues. -/
theorem Cast.numbers_tick (h : s.Cast) {frame : TickFrame F} (hTicked : s.Ticked frame t)
    (kind : CommandKind) (playerId : Nat) :
    t.numbers kind playerId ⊆ s.numbers kind playerId := by
  cases kind with
  | input =>
      unfold numbers
      rw [hTicked.authoritativeLoop]
      exact List.Subset.refl _
  | fire =>
      unfold numbers
      rw [hTicked.combatSimulation]
      exact (s.losesShots_respawnedIn frame).shotNumbers playerId
  | pickup =>
      unfold numbers
      rw [hTicked.inventoryLootSimulation]
      unfold lootedIn
      exact h.pickups.pickupNumbers_resolveTick frame.tick _ _ _ playerId

/-- Nor does the end of a session. -/
theorem numbers_leave (s : MainLoop F) (peerToken : PeerToken) (leaving : Nat)
    (kind : CommandKind) (playerId : Nat) :
    (s.leave peerToken leaving).numbers kind playerId ⊆ s.numbers kind playerId := by
  cases kind with
  | input => exact s.authoritativeLoop.inputNumbers_clearPlayer leaving playerId
  | fire => exact s.combatSimulation.shotNumbers_removePlayer leaving playerId
  | pickup => exact s.inventoryLootSimulation.pickupNumbers_removePlayer leaving playerId

/-- A deed adds the number of its command to the record of its player, and nothing else. -/
theorem Cast.numbers_step {deed : Deed F} (h : s.Cast) (hStep : DeedStep s deed t)
    (kind : CommandKind) (playerId : Nat) :
    t.numbers kind playerId ⊆ s.numbers kind playerId ++ deed.numbers kind playerId := by
  have hKept : t.numbers kind playerId ⊆ s.numbers kind playerId →
      t.numbers kind playerId ⊆ s.numbers kind playerId ++ deed.numbers kind playerId :=
    fun hSubset => List.Subset.trans hSubset (List.subset_append_left _ _)
  cases hStep with
  | idle hIdles => exact hKept (hIdles.numbers kind playerId ▸ List.Subset.refl _)
  | seat peerToken playerName now joining status hToken hNew hFree hSlot hSeats =>
      exact hKept (s.numbers_ensurePlayer _ joining kind playerId ▸ List.Subset.refl _)
  | rejoin peerToken joining hSeat =>
      exact hKept (s.numbers_ensurePlayer _ joining kind playerId ▸ List.Subset.refl _)
  | leave peerToken leaving hIdle hSeat => exact hKept (s.numbers_leave peerToken leaving kind playerId)
  | input peerToken command hSeat =>
      cases kind with
      | input => exact s.authoritativeLoop.inputNumbers_enqueueInput command playerId
      | fire => exact hKept (List.Subset.refl _)
      | pickup => exact hKept (List.Subset.refl _)
  | fire peerToken command hPhase hSeat =>
      cases kind with
      | input => exact hKept (List.Subset.refl _)
      | fire => exact s.combatSimulation.shotNumbers_enqueueFire command playerId
      | pickup => exact hKept (List.Subset.refl _)
  | pickup peerToken command hPhase hSeat =>
      cases kind with
      | input => exact hKept (List.Subset.refl _)
      | fire => exact hKept (List.Subset.refl _)
      | pickup => exact s.inventoryLootSimulation.pickupNumbers_enqueuePickup command playerId
  | advance now hIdle =>
      cases kind with
      | input => exact hKept (s.authoritativeLoop.inputNumbers_advance now playerId)
      | fire => exact hKept (List.Subset.refl _)
      | pickup => exact hKept (List.Subset.refl _)
  | tick frame rest hFrames =>
      exact hKept (h.numbers_tick (s.ticked_runFrame frame rest) kind playerId)

/-- A peer that has a seat after a deed of others had it before. -/
theorem DeedStep.seat_of_other {deed : Deed F} (hStep : DeedStep s deed t) {peer : PeerToken}
    (hOther : deed.sender ≠ some peer) {playerId : Nat}
    (hSeat : t.sessionManager.seat peer = some playerId) :
    s.sessionManager.seat peer = some playerId := by
  cases hStep with
  | idle hIdles => exact (hIdles.seats peer).symm.trans hSeat
  | seat peerToken playerName now joining status hToken hNew hFree hSlot hSeats =>
      change (s.sessionManager.handleJoinRequest peerToken playerName now).2.seat peer = _ at hSeat
      rw [hSeats, if_neg fun hSame => hOther (congrArg some hSame.symm)] at hSeat
      exact hSeat
  | rejoin peerToken joining hRejoined => exact hSeat
  | leave peerToken leaving hIdle hLeft =>
      change (s.sessionManager.handleDisconnect peerToken).2.seat peer = _ at hSeat
      rw [SessionManager.seat_handleDisconnect] at hSeat
      split at hSeat
      · cases hSeat
      · exact hSeat
  | input peerToken command hSender => exact hSeat
  | fire peerToken command hPhase hSender => exact hSeat
  | pickup peerToken command hPhase hSender => exact hSeat
  | advance now hIdle => exact hSeat
  | tick frame rest hFrames =>
      rw [(s.ticked_runFrame frame rest).sessionManager] at hSeat
      exact hSeat

/-- The command of a deed is of the player that its sender is seated as. -/
theorem DeedStep.numbers_of_other {deed : Deed F} (hStep : DeedStep s deed t)
    (hTables : s.sessionManager.TablesAgree) {peer : PeerToken} (hOther : deed.sender ≠ some peer)
    {playerId : Nat} (hSeat : s.sessionManager.seat peer = some playerId) (kind : CommandKind) :
    deed.numbers kind playerId = [] := by
  have hNot : ∀ {sender : PeerToken} {id : Nat}, sender ≠ peer →
      s.sessionManager.seat sender = some id → id ≠ playerId := by
    intro sender id hNe hSender hSame
    exact hNe (hTables.seat_unique (hSender.trans (congrArg some hSame)) hSeat)
  cases hStep with
  | input peerToken command hSender =>
      cases kind with
      | input => exact if_neg (hNot (fun hSame => hOther (congrArg some hSame)) hSender)
      | fire => rfl
      | pickup => rfl
  | fire peerToken command hPhase hSender =>
      cases kind with
      | input => rfl
      | fire => exact if_neg (hNot (fun hSame => hOther (congrArg some hSame)) hSender)
      | pickup => rfl
  | pickup peerToken command hPhase hSender =>
      cases kind with
      | input => rfl
      | fire => rfl
      | pickup => exact if_neg (hNot (fun hSame => hOther (congrArg some hSame)) hSender)
  | idle hIdles => rfl
  | seat peerToken playerName now joining status hToken hNew hFree hSlot hSeats => rfl
  | rejoin peerToken joining hRejoined => rfl
  | leave peerToken leaving hIdle hLeft => rfl
  | advance now hIdle => rfl
  | tick frame rest hFrames => rfl

/-- Only a packet has a sender. -/
theorem sender_deedsOf {event : LoopEvent F} {deed : Deed F} (h : deed ∈ deedsOf event)
    {peer : PeerToken} (hSender : deed.sender = some peer) :
    ∃ packet outcome, event = .received peer packet outcome := by
  cases event with
  | received peerToken packet outcome =>
      suffices hSame : deed.sender = none ∨ deed.sender = some peerToken by
        rcases hSame with hNone | hSome
        · rw [hNone] at hSender
          cases hSender
        · rw [hSome] at hSender
          exact ⟨packet, outcome, by rw [Option.some.inj hSender]⟩
      cases outcome with
      | join result =>
          unfold deedsOf at h
          dsimp only at h
          split at h
          · rw [List.mem_singleton.mp h]
            exact Or.inl rfl
          · split at h
            · rcases List.mem_pair.mp h with rfl | rfl
              · exact Or.inl rfl
              · exact Or.inl rfl
            · rw [List.mem_singleton.mp h]
              exact Or.inr rfl
      | input command status =>
          rcases List.mem_pair.mp h with rfl | rfl
          · exact Or.inr rfl
          · exact Or.inl rfl
      | fire command status =>
          rcases List.mem_pair.mp h with rfl | rfl
          · exact Or.inr rfl
          · exact Or.inl rfl
      | pickup command status =>
          rcases List.mem_pair.mp h with rfl | rfl
          · exact Or.inr rfl
          · exact Or.inl rfl
      | _ =>
          rw [List.mem_singleton.mp h]
          exact Or.inl rfl
  | timedOut sessions =>
      obtain ⟨session, -, rfl⟩ := List.mem_map.mp h
      cases hSender
  | disconnected peerToken session =>
      cases session with
      | none =>
          rw [List.mem_singleton.mp h] at hSender
          cases hSender
      | some session =>
          rw [List.mem_singleton.mp h] at hSender
          cases hSender
  | _ =>
      rw [List.mem_singleton.mp h] at hSender
      cases hSender

/-- Deeds of others give a peer no seat, and put nothing on record for its player. -/
theorem Cast.undisturbed {deeds : List (Deed F)} (h : s.Cast) (run : Run DeedStep s deeds t)
    {peer : PeerToken} (hOthers : ∀ deed ∈ deeds, deed.sender ≠ some peer) {playerId : Nat}
    (hSeat : t.sessionManager.seat peer = some playerId) :
    s.sessionManager.seat peer = some playerId ∧
      ∀ kind, t.numbers kind playerId ⊆ s.numbers kind playerId := by
  induction run with
  | nil => exact ⟨hSeat, fun _ => List.Subset.refl _⟩
  | @snoc middle t deeds deed prior last ih =>
      have hMiddle := h.run prior
      have hOther := hOthers deed (List.mem_append_right _ (List.mem_singleton_self _))
      have hBefore := last.seat_of_other hOther hSeat
      obtain ⟨hStart, hSubset⟩ :=
        ih (fun deed hDeed => hOthers deed (List.mem_append_left _ hDeed)) hBefore
      refine ⟨hStart, fun kind => List.Subset.trans ?_ (hSubset kind)⟩
      have hLast := hMiddle.numbers_step last kind playerId
      rwa [last.numbers_of_other hMiddle.tables hOther hBefore, List.append_nil] at hLast

/-- Over a run, a player's numbers come from those before it and from its own commands. -/
theorem Cast.numbers_run {deeds : List (Deed F)} (h : s.Cast) (run : Run DeedStep s deeds t)
    (kind : CommandKind) (playerId : Nat) :
    t.numbers kind playerId ⊆
      s.numbers kind playerId ++ deeds.flatMap fun deed => deed.numbers kind playerId := by
  induction run with
  | nil => exact List.subset_append_left _ _
  | @snoc middle t deeds deed prior last ih =>
      rw [List.flatMap_append, List.flatMap_singleton, ← List.append_assoc]
      have hLast := (h.run prior).numbers_step last kind playerId
      exact List.Subset.trans hLast
        (List.append_subset.mpr ⟨List.Subset.trans ih (List.subset_append_left _ _),
          List.subset_append_right _ _⟩)

/-! The packets of one peer. -/

variable {peerToken : PeerToken} {session : SessionView} {now : TimePoint}
  {outcome : PacketOutcome F}

/-- The number of an outcome is that of the message it answers. -/
theorem number_receiveMessage {message : Message F} {kind : CommandKind} {number : Nat}
    (h : (s.receiveMessage peerToken session message now).1.number kind = some number) :
    message.number kind = some number := by
  cases message with
  | heartbeat playerId =>
      unfold receiveMessage at h
      dsimp only at h
      split at h
      · simp at h
      · simp at h
  | playerInput command =>
      unfold receiveMessage receiveInput at h
      dsimp only at h
      split at h
      · simp at h
      · split at h
        · simp at h
        · cases kind <;> exact h
  | blockUpdate playerId command =>
      unfold receiveMessage receiveBlockUpdate at h
      dsimp only at h
      split at h
      · split at h
        · simp at h
        · simp at h
      · simp at h
  | weaponFire command =>
      unfold receiveMessage receiveFire at h
      dsimp only at h
      split at h
      · simp at h
      · split at h
        · simp at h
        · split at h
          · simp at h
          · cases kind <;> exact h
  | treasurePickup command =>
      unfold receiveMessage receivePickup at h
      dsimp only at h
      split at h
      · simp at h
      · split at h
        · simp at h
        · split at h
          · simp at h
          · cases kind <;> exact h
  | other => exact absurd h (by simp [receiveMessage])

/-- A served message leaves every seat as it was. -/
theorem Served.seat (h : s.Served peerToken session now outcome t) (peer : PeerToken) :
    t.sessionManager.seat peer = s.sessionManager.seat peer := by
  cases h with
  | refused => rfl
  | _ => exact s.sessionManager.seat_handleHeartbeat peerToken now peer

/-- A command is out of order only where its number fails to pass one on record. -/
theorem Served.exists_of_outOfOrder (h : s.Served peerToken session now outcome t)
    (hOutcome : outcome.isOutOfOrder = true) :
    ∃ kind number, outcome.number kind = some number ∧
      ∃ earlier ∈ s.numbers kind session.playerId, number ≤ earlier := by
  cases h with
  | refused => cases hOutcome
  | late => cases hOutcome
  | heard => cases hOutcome
  | block command replication hId => cases hOutcome
  | input command hId =>
      refine ⟨.input, command.inputSeq, rfl, ?_⟩
      rw [← hId]
      exact AuthoritativeLoop.exists_of_outOfOrder (of_decide_eq_true hOutcome)
  | fire command hPhase hId =>
      refine ⟨.fire, command.shotSeq, rfl, ?_⟩
      rw [← hId]
      exact CombatSimulation.exists_of_outOfOrder (of_decide_eq_true hOutcome)
  | pickup command hPhase hId =>
      refine ⟨.pickup, command.pickupSeq, rfl, ?_⟩
      rw [← hId]
      exact InventoryLootSimulation.exists_of_outOfOrder (of_decide_eq_true hOutcome)

/-- The deeds of a packet put the number of its command on record. -/
theorem numbers_deedsOf_received (packet : Packet F) (outcome : PacketOutcome F)
    (kind : CommandKind) (playerId : Nat) :
    ((deedsOf (.received peerToken packet outcome)).flatMap fun deed =>
      deed.numbers kind playerId) ⊆ (outcome.number kind).toList := by
  have hOwn : ∀ id number : Nat, (if id = playerId then [number] else []) ++ [] ⊆ [number] := by
    intro id number
    rw [List.append_nil]
    split
    · exact List.Subset.refl _
    · exact List.nil_subset _
  cases outcome with
  | join result =>
      unfold deedsOf
      dsimp only
      split
      · exact List.nil_subset _
      · split
        · exact List.nil_subset _
        · exact List.nil_subset _
  | input command status =>
      cases kind with
      | input => exact hOwn _ _
      | _ => exact List.nil_subset _
  | fire command status =>
      cases kind with
      | fire => exact hOwn _ _
      | _ => exact List.nil_subset _
  | pickup command status =>
      cases kind with
      | pickup => exact hOwn _ _
      | _ => exact List.nil_subset _
  | _ => exact List.nil_subset _

/-- A packet puts nothing on record but the number of its command. -/
theorem Cast.numbers_received (h : s.Cast) {packet : Packet F}
    (hStep : LoopStep s (.received peerToken packet outcome) t) (kind : CommandKind)
    (playerId : Nat) :
    t.numbers kind playerId ⊆ s.numbers kind playerId ++ (outcome.number kind).toList := by
  have hRun := h.numbers_run (run_step h.tables hStep) kind playerId
  exact List.Subset.trans hRun (List.append_subset.mpr ⟨List.subset_append_left _ _,
    List.Subset.trans (numbers_deedsOf_received packet outcome kind playerId)
      (List.subset_append_right _ _)⟩)

/-- A join that is not refused seats the peer, and no other join does. -/
theorem seat_receiveJoin (hTables : s.sessionManager.TablesAgree) (playerName : PlayerName)
    {playerId : Nat}
    (hSeat : (s.receiveJoin peerToken playerName now).2.sessionManager.seat peerToken =
      some playerId) :
    (s.receiveJoin peerToken playerName now).1.accepted = true ∧
        (s.receiveJoin peerToken playerName now).1.session.playerId = playerId ∨
      (s.receiveJoin peerToken playerName now).1.accepted = false ∧
        s.sessionManager.seat peerToken = some playerId := by
  have hAnswered : (s.receiveJoin peerToken playerName now).2.sessionManager =
      (s.sessionManager.handleJoinRequest peerToken playerName now).2 := by
    unfold receiveJoin
    dsimp only
    split
    · rfl
    · rfl
  rw [hAnswered] at hSeat
  rcases SessionManager.handleJoinRequest_seats hTables peerToken playerName now with
    ⟨hRefused, hSame⟩ | ⟨hAccepted, -, hOwn, hSeats⟩ | ⟨hAccepted, -, -, -, hSeats⟩
  · rw [hSame] at hSeat
    exact Or.inr ⟨hRefused, hSeat⟩
  · rw [hSeats, hOwn] at hSeat
    exact Or.inl ⟨hAccepted, Option.some.inj hSeat⟩
  · rw [hSeats, if_pos rfl] at hSeat
    exact Or.inl ⟨hAccepted, Option.some.inj hSeat⟩

/-- A received packet is handled at some time. -/
theorem received_step {packet : Packet F}
    (hStep : LoopStep s (.received peerToken packet outcome) t) :
    ∃ now, outcome = (s.receive peerToken packet now).1 ∧ t = (s.receive peerToken packet now).2 := by
  generalize hEvent : LoopEvent.received peerToken packet outcome = event at hStep
  cases hStep with
  | receive peer other now hIdle hToken =>
      injection hEvent with hPeer hPacket hOutcome
      subst hPeer hPacket
      exact ⟨now, hOutcome, rfl⟩
  | _ => cases hEvent

/-- A peer that disconnects has no seat. -/
theorem seat_disconnect (s : MainLoop F) (peerToken : PeerToken) :
    (s.disconnect peerToken).2.sessionManager.seat peerToken = none := by
  have hLeft : (s.disconnect peerToken).2.sessionManager =
      (s.sessionManager.handleDisconnect peerToken).2 := by
    unfold disconnect
    dsimp only
    split
    · rfl
    · rfl
  rw [hLeft, SessionManager.seat_handleDisconnect, if_pos rfl]

/-- What a message of a peer does, and when its command is out of order. -/
structure Heard (s : MainLoop F) (peerToken : PeerToken) (message : Message F)
    (outcome : PacketOutcome F) (t : MainLoop F) : Prop where
  seat : t.sessionManager.seat peerToken = s.sessionManager.seat peerToken
  number : ∀ kind number, outcome.number kind = some number → message.number kind = some number
  notJoin : ∀ result, outcome ≠ .join result
  outOfOrder : outcome.isOutOfOrder = true →
    ∃ playerId kind number, s.sessionManager.seat peerToken = some playerId ∧
      outcome.number kind = some number ∧ ∃ earlier ∈ s.numbers kind playerId, number ≤ earlier

/-- What becomes of a message, by the session of its peer. -/
theorem heard_message {message : Message F}
    (hStep : LoopStep s (.received peerToken (.message message) outcome) t) :
    s.Heard peerToken message outcome t := by
  obtain ⟨now, hOutcome, hState⟩ := received_step hStep
  unfold receive at hOutcome hState
  dsimp only at hOutcome hState
  cases hSession : s.sessionManager.sessionForPeer peerToken with
  | none =>
      rw [hSession] at hOutcome hState
      rw [hOutcome, hState]
      exact
        { seat := rfl
          number := fun kind number hNumber => by simp at hNumber
          notJoin := fun result hJoin => by cases hJoin
          outOfOrder := fun hOut => by cases hOut }
  | some session =>
      rw [hSession] at hOutcome hState
      dsimp only at hOutcome hState
      have hServed := s.served_receiveMessage peerToken session message now
      rw [← hOutcome, ← hState] at hServed
      refine ⟨hServed.seat peerToken, fun kind number hNumber => ?_, fun result hJoin => ?_,
        fun hOut => ?_⟩
      · rw [hOutcome] at hNumber
        exact number_receiveMessage hNumber
      · rw [hJoin] at hServed
        cases hServed
      · obtain ⟨kind, number, hNumber, hEarlier⟩ := hServed.exists_of_outOfOrder hOut
        exact ⟨session.playerId, kind, number, SessionManager.sessionForPeer_seat hSession, hNumber,
          hEarlier⟩

end MainLoop

end DevyFps.Server
