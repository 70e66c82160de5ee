import DevyFps.Server.HeldValue
import DevyFps.Server.KillCredits
import DevyFps.Server.LoopTicks
import DevyFps.Server.ServerCast

/-! The roll of a match. Player ids are handed out lowest first, whoever is seated gets a record,
and no record is ever erased: the match has the records of the ids from one up to the last that
was handed out. -/

namespace DevyFps.Server

open Foundations

variable {F : Type} [SingleFloat F]

namespace MatchLifecycleSimulation

/-- The player has a record. -/
def Recorded (s : MatchLifecycleSimulation) (playerId : Nat) : Prop :=
  s.playersById.find playerId ≠ none

/-- The same players have a record. -/
def SameRoll (s t : MatchLifecycleSimulation) : Prop :=
  s.playersById.SameKeys t.playersById

/-- A call of a tick names players of the roll only. -/
structure Mentions (call : TickCall) (roll : Nat → Prop) : Prop where
  active : ∀ id ∈ call.activePlayerIds, roll id
  fighters : ∀ state ∈ call.combatStates, roll state.playerId
  holders : ∀ summary ∈ call.inventorySummaries, roll summary.playerId
  deaths : ∀ death ∈ call.deathEvents, roll death.victimId ∧ roll death.killerId

section SameRoll

variable {s t : MatchLifecycleSimulation}

/-- A player on the roll is not entered again. -/
theorem SameRoll.ensurePlayer (h : SameRoll s t) {playerId : Nat} (hKnown : s.Recorded playerId) :
    SameRoll s (t.ensurePlayer playerId) :=
  (UnorderedMap.SameKeys.tryEmplace h hKnown _).modify playerId touch

theorem SameRoll.modifyPlayer (h : SameRoll s t) (playerId : Nat)
    (f : PlayerRecord → PlayerRecord) : SameRoll s (t.modifyPlayer playerId f) :=
  UnorderedMap.SameKeys.modify h playerId f

/-- A tick that mentions players on the roll only enters nobody. -/
theorem SameRoll.observeWith (h : SameRoll s t) {call : TickCall} (hCall : Mentions call s.Recorded) :
    SameRoll s (t.observeWith call) := by
  have hMarked : SameRoll s (t.markActive call.activePlayerIds) := by
    have hEnsured : SameRoll s (call.activePlayerIds.foldl MatchLifecycleSimulation.ensurePlayer t) :=
      UnorderedMap.SameKeys.foldl playersById h fun id hId _ hBefore =>
        SameRoll.ensurePlayer hBefore (hCall.active id hId)
    exact UnorderedMap.SameKeys.mapValues hEnsured _
  have hFought : SameRoll s
      (call.combatStates.foldl syncCombatState (t.markActive call.activePlayerIds)) :=
    UnorderedMap.SameKeys.foldl playersById hMarked fun state hState _ hBefore =>
      (SameRoll.ensurePlayer hBefore (hCall.fighters state hState)).modifyPlayer _ _
  exact UnorderedMap.SameKeys.foldl playersById hFought fun summary hSummary _ hBefore =>
    (SameRoll.ensurePlayer hBefore (hCall.holders summary hSummary)).modifyPlayer _ _

/-- Nor does the opening of such a tick. -/
theorem SameRoll.openWith (h : SameRoll s t) {call : TickCall} (hCall : Mentions call s.Recorded) :
    SameRoll s (t.openWith call).2.2 := by
  have hObserved := h.observeWith hCall
  unfold MatchLifecycleSimulation.openWith
  rcases t.openTick_cases call.tick call.tickInterval call.activePlayerIds call.combatStates
    call.inventorySummaries with ⟨-, -, _, _, _, hAfter⟩ | ⟨-, _, _, _, hAfter⟩
  · rw [hAfter]
    exact UnorderedMap.SameKeys.mapValues hObserved _
  · rw [hAfter]
    exact hObserved

/-- A death enters its victim and its attacker, who are on the roll already. -/
theorem SameRoll.recordDeath (h : SameRoll s t) (tick : Nat) {death : DeathResolution}
    (hKnown : s.Recorded death.victimId ∧ s.Recorded death.killerId) :
    SameRoll s (t.recordDeath tick death) := by
  have hBuried := (h.ensurePlayer hKnown.1).modifyPlayer death.victimId (victimRecord t.config tick)
  unfold MatchLifecycleSimulation.recordDeath
  dsimp only
  split
  · exact (hBuried.ensurePlayer hKnown.2).modifyPlayer death.killerId killerRecord
  · exact hBuried

theorem SameRoll.recordDeaths (tick : Nat) (deaths : List DeathResolution) (h : SameRoll s t)
    (handled : Finset Nat)
    (hKnown : ∀ death ∈ deaths, s.Recorded death.victimId ∧ s.Recorded death.killerId) :
    SameRoll s (t.recordDeaths tick deaths handled) := by
  induction deaths generalizing t handled with
  | nil => exact h
  | cons death rest ih =>
      have hRest : ∀ other ∈ rest, s.Recorded other.victimId ∧ s.Recorded other.killerId :=
        fun other hOther => hKnown other (List.mem_cons_of_mem death hOther)
      unfold MatchLifecycleSimulation.recordDeaths
      split
      · exact ih h handled hRest
      · exact ih (h.recordDeath tick (hKnown death List.mem_cons_self)) _ hRest

/-- Respawns enter nobody. -/
theorem SameRoll.applyRespawns (h : SameRoll s t) (tick : Nat) :
    SameRoll s (t.applyRespawns tick).2 := by
  have hDue : ∀ (ids : List Nat) (u : MatchLifecycleSimulation), SameRoll s u →
      SameRoll s (u.respawnDue tick ids).2 :=
    keeps_respawnDue (R := fun u v => SameRoll s u → SameRoll s v) (fun _ hBefore => hBefore)
      (fun hFirst hSecond hBefore => hSecond (hFirst hBefore))
      (fun _ head hBefore => hBefore.modifyPlayer head _)
      (fun _ head hBefore => hBefore.modifyPlayer head _) tick
  unfold MatchLifecycleSimulation.applyRespawns
  split
  · exact hDue _ t h
  · exact h

/-- A tick that names nobody new adds no record and drops none. -/
theorem sameRoll_tickWith {call : TickCall} (hCall : Mentions call s.Recorded) :
    SameRoll s (s.tickWith call).2 := by
  have hOpen : SameRoll s (s.openWith call).2.2 :=
    SameRoll.openWith (UnorderedMap.SameKeys.refl s.playersById) hCall
  have hBuried : SameRoll s ((s.openWith call).2.2.applyDeaths call.tick call.deathEvents) := by
    unfold applyDeaths
    split
    · exact hOpen.recordDeaths call.tick _ ∅
        fun death hDeath => hCall.deaths death (mem_sortBy.mp hDeath)
    · exact hOpen
  have hPlayed : SameRoll s (s.playWith call).2 := hBuried.applyRespawns call.tick
  rcases s.tickWith_cases call with ⟨-, -, winner, hAfter⟩ | ⟨-, hAfter⟩
  · have hTable : (s.tickWith call).2.playersById = (s.playWith call).2.playersById := by
      rw [hAfter]
      rfl
    unfold SameRoll
    rw [hTable]
    exact hPlayed
  · rw [hAfter]
    exact hPlayed

end SameRoll

end MatchLifecycleSimulation

namespace InventoryLootSimulation

section SameOwners

variable {s t : InventoryLootSimulation F}

/-- The same players have an inventory. -/
def SameOwners (s t : InventoryLootSimulation F) : Prop :=
  s.playersById.SameKeys t.playersById

/-- The inventories that a tick observes belong to known players. -/
theorem SameOwners.observePlayers (h : SameOwners s t) {movementStates : List (PlayerMotionState F)}
    {combatStates : List PlayerCombatState}
    (hMovers : ∀ state ∈ movementStates, s.playersById.find state.playerId ≠ none)
    (hFighters : ∀ state ∈ combatStates, s.playersById.find state.playerId ≠ none) :
    SameOwners s (t.observePlayers movementStates combatStates) := by
  have hMoved : SameOwners s (movementStates.foldl updatePosition t) :=
    UnorderedMap.SameKeys.foldl playersById h fun state hState _ hBefore =>
      (hBefore.tryEmplace (hMovers state hState) _).modify state.playerId _
  exact UnorderedMap.SameKeys.foldl playersById hMoved fun state hState _ hBefore =>
    (hBefore.tryEmplace (hFighters state hState) _).modify state.playerId _

/-- A victim keeps its inventory when its items are dropped. -/
theorem SameOwners.dropLoot (h : SameOwners s t) (tick victimId : Nat) :
    SameOwners s (t.dropLoot tick victimId).2.2 := by
  unfold InventoryLootSimulation.dropLoot
  split
  · exact h
  · rename_i player _
    split
    · exact h
    · have hDropped : SameOwners s
          (t.dropItems tick player.positionX player.positionY 0 player.items).2 := by
        unfold SameOwners
        rw [players_dropItems]
        exact h
      exact UnorderedMap.SameKeys.modify hDropped victimId _

theorem SameOwners.dropAllLoot (tick : Nat) (deaths : List DeathResolution) (h : SameOwners s t) :
    SameOwners s (t.dropAllLoot tick deaths).2.2 := by
  induction deaths generalizing t with
  | nil => exact h
  | cons death rest ih => exact ih (h.dropLoot tick death.victimId)

/-- A pickup creates no inventory. -/
theorem SameOwners.resolvePickup (h : SameOwners s t) (pickup : TreasurePickupCommand) :
    SameOwners s (t.resolvePickup pickup).2.2 := by
  rcases t.resolvePickup_cases pickup with
    ⟨-, -, hAfter⟩ | ⟨before, hFind, ⟨status, -, -, hAfter⟩ | ⟨spawn, -, -, hAfter⟩⟩
  · rw [hAfter]
    exact h
  · have hKnown : s.playersById.find pickup.playerId ≠ none :=
      (h _).mp (hFind ▸ Option.some_ne_none before)
    rw [hAfter]
    exact UnorderedMap.SameKeys.set h hKnown _
  · have hKnown : s.playersById.find pickup.playerId ≠ none :=
      (h _).mp (hFind ▸ Option.some_ne_none before)
    rw [hAfter]
    exact (UnorderedMap.SameKeys.set h hKnown _).set hKnown _

theorem SameOwners.resolvePickups (h : SameOwners s t) (pickups : List TreasurePickupCommand) :
    SameOwners s (t.resolvePickups pickups).2.2 := by
  induction pickups generalizing t with
  | nil => exact h
  | cons pickup rest ih => exact ih (h.resolvePickup pickup)

/-- A tick that names nobody new makes no inventory and drops none. -/
theorem sameOwners_tickWith {call : LootTickCall F}
    (hMovers : ∀ state ∈ call.movementStates, s.playersById.find state.playerId ≠ none)
    (hFighters : ∀ state ∈ call.combatStates, s.playersById.find state.playerId ≠ none) :
    SameOwners s (s.tickWith call).2 := by
  have hSpawned : SameOwners s
      ((s.observePlayers call.movementStates call.combatStates).spawnScheduled call.tick).2 := by
    unfold SameOwners
    rw [players_spawnScheduled]
    exact SameOwners.observePlayers (UnorderedMap.SameKeys.refl s.playersById) hMovers hFighters
  have hLooted : SameOwners s (s.lootedWith call) := hSpawned.dropAllLoot call.tick _
  have hDrained : SameOwners s (s.lootedWith call).drainPickups.2 := by
    unfold SameOwners
    rw [players_drainPickups]
    exact hLooted
  rw [state_tickWith]
  exact hDrained.resolvePickups _

/-- A pickup makes an inventory for its own player only. -/
theorem sameOwners_enqueuePickup {command : TreasurePickupCommand}
    (hKnown : s.playersById.find command.playerId ≠ none) :
    SameOwners s (s.enqueuePickup command).2 := by
  have hEnsured : SameOwners s (s.ensurePlayer command.playerId) :=
    (UnorderedMap.SameKeys.refl s.playersById).tryEmplace hKnown _
  unfold enqueuePickup
  dsimp only
  split
  · exact hEnsured
  · split
    · exact hEnsured
    · split
      · exact hEnsured
      · split
        · exact hEnsured
        · exact UnorderedMap.SameKeys.set hEnsured hKnown _

theorem sameOwners_removePlayer (s : InventoryLootSimulation F) (playerId : Nat) :
    SameOwners s (s.removePlayer playerId) := by
  unfold InventoryLootSimulation.removePlayer
  dsimp only
  split
  · exact (UnorderedMap.SameKeys.refl s.playersById).modify playerId _
  · exact (UnorderedMap.SameKeys.refl s.playersById).modify playerId _

end SameOwners

end InventoryLootSimulation

namespace CombatSimulation

variable {s : CombatSimulation F}

/-- Positions send no hit on its way. -/
theorem Apart.setPlayerPositions (h : s.Apart) (hKeys : s.KnownKeys)
    (states : List (PlayerMotionState F)) : (s.setPlayerPositions states).Apart := by
  obtain ⟨trace, run⟩ := s.run_setPlayerPositions states
  exact h.run hKeys run

theorem Apart.respawnPlayers (h : s.Apart) (hKeys : s.KnownKeys) (ids : List Nat) :
    (ids.foldl respawnPlayer s).Apart := by
  induction ids generalizing s with
  | nil => exact h
  | cons playerId rest ih =>
      exact ih (h.step hKeys (.respawnPlayer s playerId)) (hKeys.step (.respawnPlayer s playerId))

end CombatSimulation

namespace MainLoop

open MatchLifecycleSimulation

variable {s t : MainLoop F}

/-- What the loot of a tick is given. -/
def lootCall (s : MainLoop F) (frame : TickFrame F) : LootTickCall F where
  tick := frame.tick
  movementStates := (s.movedIn frame).snapshot
  combatStates := (s.foughtIn frame).2.snapshot
  deaths := (s.foughtIn frame).1.deathEvents

theorem deaths_lootCall (s : MainLoop F) (frame : TickFrame F) :
    (s.lootCall frame).deaths = (s.foughtIn frame).1.deathEvents := by
  unfold lootCall
  dsimp only

theorem lootedIn_eq (s : MainLoop F) (frame : TickFrame F) :
    s.lootedIn frame = s.inventoryLootSimulation.tickWith (s.lootCall frame) := by
  unfold lootedIn InventoryLootSimulation.tickWith lootCall
  dsimp only

/-! What a tick of the loop tells of its players. -/

/-- The combat reports seated players only. -/
theorem Cast.mem_foughtIn_snapshot (h : s.Cast) {frame : TickFrame F}
    (hInputs : ∀ input ∈ frame.inputs, s.sessionManager.Seated input.playerId)
    {state : PlayerCombatState} (hState : state ∈ (s.foughtIn frame).2.snapshot) :
    s.sessionManager.Seated state.playerId := by
  have hIds := (s.harms_foughtIn frame).keyed
    (h.fighterIds.setPlayerPositions (s.movedIn frame).snapshot)
  have hKnown := h.knows_foughtIn hInputs state.playerId
  generalize (s.foughtIn frame).2 = fought at hState hIds hKnown
  obtain ⟨id, hFind⟩ := CombatSimulation.mem_snapshot.mp hState
  obtain rfl := hIds id state hFind
  exact hKnown.mp (Option.isSome_iff_exists.mpr ⟨state, hFind⟩)

/-- Every death of a tick is the kill of a player with a session by another one. -/
theorem Cast.kill_foughtIn (h : s.Cast) (hApart : s.combatSimulation.Apart) {frame : TickFrame F}
    (hInputs : ∀ input ∈ frame.inputs, s.sessionManager.Seated input.playerId)
    {death : DeathResolution} (hDeath : death ∈ (s.foughtIn frame).1.deathEvents) :
    death.killerId ≠ death.victimId ∧ s.sessionManager.Seated death.killerId ∧
      s.sessionManager.Seated death.victimId := by
  have hMovers : ∀ state ∈ (s.movedIn frame).snapshot, s.sessionManager.Seated state.playerId :=
    fun state hState => h.mem_movedIn_snapshot hInputs hState
  unfold foughtIn at hDeath
  generalize (s.movedIn frame).snapshot = states at hMovers hDeath
  have hKnown : ∀ id, (s.combatSimulation.setPlayerPositions states).knows id = true →
      s.sessionManager.Seated id := by
    intro id hKnows
    rcases (CombatSimulation.knows_setPlayerPositions _ _ _).mp hKnows with
      hOld | ⟨state, hState, rfl⟩
    · exact (h.fighters id).mp hOld
    · exact hMovers state hState
  obtain ⟨hAnother, hKiller, hVictim⟩ := CombatSimulation.kill_of_tick
    (hApart.setPlayerPositions h.fighterKeys states) (h.fighterKeys.setPlayerPositions states)
    frame.tick s.tickInterval hDeath
  exact ⟨hAnother, hKnown _ hKiller, hKnown _ hVictim⟩

/-- Seated players have positive ids. -/
theorem Cast.pos_of_seated (h : s.Cast) {id : Nat} (hSeated : s.sessionManager.Seated id) :
    1 ≤ id := by
  obtain ⟨peerToken, hSeat⟩ := hSeated
  obtain ⟨session, hFind, rfl⟩ := SessionManager.seat_eq_some.mp hSeat
  exact (h.tables.slot_range peerToken session hFind).1

/-- No hit in flight is on its way to its own shooter, in every state of the loop. -/
theorem Cast.apart_step {deed : Deed F} (h : s.Cast) (hApart : s.combatSimulation.Apart)
    (hStep : DeedStep s deed t) : t.combatSimulation.Apart := by
  cases hStep with
  | idle hIdles =>
      rw [hIdles.combatRest]
      exact hApart
  | seat peerToken playerName now playerId status hToken hNew hFree hSlot hSeats =>
      exact hApart.step h.fighterKeys (.ensurePlayer s.combatSimulation playerId)
  | rejoin peerToken playerId hSeat =>
      exact hApart.step h.fighterKeys (.ensurePlayer s.combatSimulation playerId)
  | leave peerToken playerId hIdle hSeat =>
      exact hApart.step h.fighterKeys (.removePlayer s.combatSimulation playerId)
  | input peerToken command hSeat => exact hApart
  | fire peerToken command hPhase hSeat =>
      by_cases hTaken : (s.combatSimulation.enqueueFire command).1 = .accepted
      · exact hApart.step h.fighterKeys (.enqueueFire s.combatSimulation command hTaken)
      · exact hApart.step h.fighterKeys (.refuseFire s.combatSimulation command hTaken)
  | pickup peerToken command hPhase hSeat => exact hApart
  | advance now hIdle => exact hApart
  | tick frame rest hFrames =>
      have hKeys := h.fighterKeys.setPlayerPositions (s.movedIn frame).snapshot
      have hFought : (s.foughtIn frame).2.Apart ∧ (s.foughtIn frame).2.KnownKeys := by
        unfold foughtIn
        exact ⟨(hApart.setPlayerPositions h.fighterKeys _).resolveTick frame.tick s.tickInterval,
          hKeys.step (.resolveTick _ frame.tick s.tickInterval)⟩
      rw [(s.ticked_runFrame frame rest).combatSimulation]
      exact hFought.1.respawnPlayers hFought.2 _

/-- Whoever has a session has an inventory, whoever has an inventory or a name that is kept has
a record, and the ids of the records leave no gap. -/
structure RollCall (s : MainLoop F) : Prop where
  owners : ∀ id, s.sessionManager.Seated id → s.inventoryLootSimulation.playersById.find id ≠ none
  recorded : ∀ id, s.inventoryLootSimulation.playersById.find id ≠ none →
    s.matchLifecycleSimulation.Recorded id
  names : ∀ name id, s.sessionManager.slotByPlayerName.find name = some id →
    s.matchLifecycleSimulation.Recorded id
  first : ∀ id, s.matchLifecycleSimulation.Recorded id → 1 ≤ id
  closed : ∀ id below, s.matchLifecycleSimulation.Recorded id → 1 ≤ below → below ≤ id →
    s.matchLifecycleSimulation.Recorded below

/-- At the start the rolls are empty. -/
theorem rollCall_create (setup : ServerSetup F) : (create setup).RollCall where
  owners := by
    rintro id ⟨peerToken, hSeat⟩
    cases hSeat
  recorded _ hKnown := absurd rfl hKnown
  names _ _ hFind := by cases hFind
  first _ hKnown := absurd rfl hKnown
  closed _ _ hKnown := absurd rfl hKnown

/-- What adds no player to any of the tables. -/
theorem RollCall.of_same (h : s.RollCall)
    (hSeated : ∀ id, t.sessionManager.Seated id → s.sessionManager.Seated id)
    (hNames : ∀ name id, t.sessionManager.slotByPlayerName.find name = some id →
      s.sessionManager.slotByPlayerName.find name = some id)
    (hOwners : InventoryLootSimulation.SameOwners s.inventoryLootSimulation t.inventoryLootSimulation)
    (hRoll : SameRoll s.matchLifecycleSimulation t.matchLifecycleSimulation) : t.RollCall where
  owners id hSeat := (hOwners id).mpr (h.owners id (hSeated id hSeat))
  recorded id hKnown := (hRoll id).mpr (h.recorded id ((hOwners id).mp hKnown))
  names name id hFind := (hRoll id).mpr (h.names name id (hNames name id hFind))
  first id hKnown := h.first id ((hRoll id).mp hKnown)
  closed id below hKnown hFirst hBelow :=
    (hRoll below).mpr (h.closed id below ((hRoll id).mp hKnown) hFirst hBelow)

/-- A newcomer is given the first slot that is free, so that all before it are on the roll. -/
theorem RollCall.seat (h : s.RollCall) (hTables : s.sessionManager.TablesAgree)
    {peerToken : PeerToken} {playerName : PlayerName} {now : TimePoint} {playerId : Nat}
    {status : JoinStatus}
    (hSlot : s.sessionManager.chooseSlot playerName = .ok (status, playerId))
    (hSeats : ∀ peer, (s.sessionManager.handleJoinRequest peerToken playerName now).2.seat peer =
      if peer = peerToken then some playerId else s.sessionManager.seat peer) :
    ({ s with sessionManager :=
        (s.sessionManager.handleJoinRequest peerToken playerName now).2 }.ensurePlayer
      playerId).RollCall := by
  have hOwner : ∀ id, (s.inventoryLootSimulation.ensurePlayer playerId).playersById.find id ≠ none ↔
      id = playerId ∨ s.inventoryLootSimulation.playersById.find id ≠ none := by
    intro id
    unfold InventoryLootSimulation.ensurePlayer
    rw [UnorderedMap.find_tryEmplace]
    split
    · rename_i hSame
      exact iff_of_true (Option.some_ne_none _) (Or.inl hSame)
    · rename_i hNe
      rw [or_iff_right hNe]
  have hRecord : ∀ id, (s.matchLifecycleSimulation.ensurePlayer playerId).Recorded id ↔
      id = playerId ∨ s.matchLifecycleSimulation.Recorded id := by
    intro id
    unfold Recorded
    rw [find_ensurePlayer]
    split
    · rename_i hSame
      exact iff_of_true (Option.some_ne_none _) (Or.inl hSame)
    · rename_i hNe
      rw [or_iff_right hNe]
  have hBelow : ∀ below, 1 ≤ below → below ≤ playerId → below = playerId ∨
      s.matchLifecycleSimulation.Recorded below := by
    intro below hFirst hLast
    obtain ⟨-, -, -, ⟨-, hKept⟩ | ⟨-, -, hFree⟩⟩ := SessionManager.chooseSlot_ok hSlot
    · exact Or.inr (h.closed playerId below (h.names playerName playerId hKept) hFirst hLast)
    · rcases Nat.eq_or_lt_of_le hLast with hSame | hLess
      · exact Or.inl hSame
      · exact Or.inr (h.recorded below (h.owners below
          (hTables.seated_of_firstFreeSlot hFree hFirst hLess)))
  constructor
  · rintro id ⟨peer, hSeat⟩
    change (s.sessionManager.handleJoinRequest peerToken playerName now).2.seat peer = some id at hSeat
    refine (hOwner id).mpr ?_
    rw [hSeats] at hSeat
    split at hSeat
    · exact Or.inl (Option.some.inj hSeat).symm
    · exact Or.inr (h.owners id ⟨peer, hSeat⟩)
  · intro id hKnown
    exact (hRecord id).mpr (((hOwner id).mp hKnown).imp_right (h.recorded id))
  · intro name id hFind
    refine (hRecord id).mpr ?_
    exact (SessionManager.name_of_handleJoinRequest hSlot hFind).imp_right (h.names name id)
  · intro id hKnown
    rcases (hRecord id).mp hKnown with rfl | hOld
    · exact (SessionManager.chooseSlot_ok hSlot).1
    · exact h.first id hOld
  · intro id below hKnown hFirst hLast
    refine (hRecord below).mpr ?_
    rcases (hRecord id).mp hKnown with rfl | hOld
    · exact hBelow below hFirst hLast
    · exact Or.inr (h.closed id below hOld hFirst hLast)

/-- The calls of a tick name players of the roll only. -/
theorem RollCall.tick (h : s.RollCall) (hCast : s.Cast) (hApart : s.combatSimulation.Apart)
    (hLawful : s.inventoryLootSimulation.Lawful) {frame : TickFrame F}
    {rest : List (TickFrame F)} (hFrames : s.tickFrames = frame :: rest)
    (hTicked : s.Ticked frame t) : t.RollCall := by
  have hInputs : ∀ input ∈ frame.inputs, s.sessionManager.Seated input.playerId :=
    hCast.frames frame (hFrames ▸ List.mem_cons_self)
  have hSeated : ∀ id, s.sessionManager.Seated id → s.matchLifecycleSimulation.Recorded id :=
    fun id hSeat => h.recorded id (h.owners id hSeat)
  have hOwners : InventoryLootSimulation.SameOwners s.inventoryLootSimulation
      (s.lootedIn frame).2 := by
    rw [lootedIn_eq]
    refine InventoryLootSimulation.sameOwners_tickWith (fun state hState => ?_) fun state hState => ?_
    · unfold lootCall at hState
      dsimp only at hState
      exact h.owners _ (hCast.mem_movedIn_snapshot hInputs hState)
    · unfold lootCall at hState
      dsimp only at hState
      exact h.owners _ (hCast.mem_foughtIn_snapshot hInputs hState)
  have hLooted : (s.lootedIn frame).2.Lawful := by
    rw [lootedIn_eq]
    exact hLawful.tickWith (s.lootCall frame)
  have hCall : Mentions (s.matchCall frame) s.matchLifecycleSimulation.Recorded := by
    constructor
    · intro id hId
      unfold matchCall at hId
      dsimp only at hId
      exact hSeated id (SessionManager.mem_activeSessions_playerId.mp hId)
    · intro state hState
      unfold matchCall at hState
      dsimp only at hState
      exact hSeated _ (hCast.mem_foughtIn_snapshot hInputs hState)
    · intro summary hSummary
      rw [summaries_matchCall, hLooted.mem_inventorySnapshot] at hSummary
      obtain ⟨player, hPlayer, -⟩ := Option.map_eq_some_iff.mp hSummary
      exact h.recorded _ ((hOwners _).mp (hPlayer ▸ Option.some_ne_none player))
    · intro death hDeath
      rw [deathEvents_matchCall] at hDeath
      obtain ⟨-, hKiller, hVictim⟩ := hCast.kill_foughtIn hApart hInputs hDeath
      exact ⟨hSeated _ hVictim, hSeated _ hKiller⟩
  refine h.of_same (fun id hSeat => ?_) (fun name id hFind => ?_) ?_ ?_
  · rw [hTicked.sessionManager] at hSeat
    exact hSeat
  · rw [hTicked.sessionManager] at hFind
    exact hFind
  · rw [hTicked.inventoryLootSimulation]
    exact hOwners
  · rw [hTicked.matchLifecycleSimulation, playedIn_eq]
    exact sameRoll_tickWith hCall

/-- Every deed keeps the rolls in step with the seats. -/
theorem RollCall.step {deed : Deed F} (h : s.RollCall) (hCast : s.Cast)
    (hApart : s.combatSimulation.Apart) (hLawful : s.inventoryLootSimulation.Lawful)
    (hStep : DeedStep s deed t) : t.RollCall := by
  have hOwners := UnorderedMap.SameKeys.refl s.inventoryLootSimulation.playersById
  have hRoll := UnorderedMap.SameKeys.refl s.matchLifecycleSimulation.playersById
  cases hStep with
  | idle hIdles =>
      refine h.of_same (fun id => (SessionManager.seated_congr hIdles.seats id).mp)
        (fun name id hFind => ?_) ?_ ?_
      · exact (hIdles.names name).trans hFind
      · rw [hIdles.inventoryLootSimulation]
        exact hOwners
      · rw [hIdles.matchLifecycleSimulation]
        exact hRoll
  | seat peerToken playerName now playerId status hToken hNew hFree hSlot hSeats =>
      exact h.seat hCast.tables hSlot hSeats
  | rejoin peerToken playerId hSeat =>
      have hOwner := h.owners playerId ⟨peerToken, hSeat⟩
      exact h.of_same (fun _ hSeated => hSeated) (fun _ _ hFind => hFind)
        (hOwners.tryEmplace hOwner _) (SameRoll.ensurePlayer hRoll (h.recorded playerId hOwner))
  | leave peerToken playerId hIdle hSeat =>
      refine h.of_same (fun id hSeated => ?_) (fun name id hFind => ?_) ?_ ?_
      · exact ((hCast.tables.seated_handleDisconnect hSeat id).mp hSeated).1
      · rw [← SessionManager.names_handleDisconnect s.sessionManager peerToken]
        exact hFind
      · exact InventoryLootSimulation.sameOwners_removePlayer s.inventoryLootSimulation playerId
      · exact SameRoll.modifyPlayer hRoll playerId _
  | input peerToken command hSeat =>
      exact ⟨h.owners, h.recorded, h.names, h.first, h.closed⟩
  | fire peerToken command hPhase hSeat =>
      exact ⟨h.owners, h.recorded, h.names, h.first, h.closed⟩
  | pickup peerToken command hPhase hSeat =>
      exact h.of_same (fun _ hSeated => hSeated) (fun _ _ hFind => hFind)
        (InventoryLootSimulation.sameOwners_enqueuePickup
          (h.owners command.playerId ⟨peerToken, hSeat⟩)) hRoll
  | advance now hIdle => exact ⟨h.owners, h.recorded, h.names, h.first, h.closed⟩
  | tick frame rest hFrames =>
      exact h.tick hCast hApart hLawful hFrames (s.ticked_runFrame frame rest)

end MainLoop

end DevyFps.Server
