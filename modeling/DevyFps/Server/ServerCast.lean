import DevyFps.Server.InputDelivery
import DevyFps.Server.MainLoopDeeds
import DevyFps.Server.MatchPlays
import DevyFps.Server.PickupAnswers
import DevyFps.Server.ProjectileLife

/-! Who is known to which component. Between the deeds of the loop the movement and the
combat know exactly the players with a session, and nobody else has a command waiting or a
respawn to come. -/

namespace DevyFps.Server

open Foundations

variable {F : Type} [SingleFloat F]

namespace MovementSimulation

def knows (s : MovementSimulation F) (playerId : Nat) : Bool :=
  (s.statesByPlayer.find playerId).isSome

/-- Who is made known to the movement simulation is known, and all others as before. -/
theorem knows_ensurePlayer (s : MovementSimulation F) (playerId id : Nat) :
    (s.ensurePlayer playerId).knows id = (id == playerId || s.knows id) := by
  unfold knows
  rw [find_ensurePlayer]
  by_cases hSame : id = playerId
  · rw [if_pos hSame, hSame, BEq.rfl]
    rfl
  · rw [if_neg hSame, beq_false_of_ne hSame, Bool.false_or]

/-- A removed player is not known any more. -/
theorem knows_removePlayer (s : MovementSimulation F) (playerId id : Nat) :
    (s.removePlayer playerId).knows id = (id != playerId && s.knows id) := by
  unfold knows
  rw [find_removePlayer]
  by_cases hSame : id = playerId
  · rw [if_pos hSame, hSame, bne_self_eq_false]
    rfl
  · rw [if_neg hSame, bne_iff_ne.mpr hSame, Bool.true_and]

/-- Making players known takes nobody away. -/
theorem knows_ensureAll (s : MovementSimulation F) (inputs : List (PlayerInputCommand F))
    {id : Nat} (h : s.knows id = true) :
    (inputs.foldl (fun t input => t.ensurePlayer input.playerId) s).knows id = true := by
  induction inputs generalizing s with
  | nil => exact h
  | cons head rest ih =>
      apply ih
      rw [knows_ensurePlayer, h, Bool.or_true]

/-- A tick forgets nobody and meets only the senders of its inputs. -/
theorem knows_applyInputs (s : MovementSimulation F) (tickInterval : Int)
    (inputs : List (PlayerInputCommand F)) (id : Nat) :
    (s.knows id = true → (s.applyInputs tickInterval inputs).knows id = true) ∧
      ((s.applyInputs tickInterval inputs).knows id = true →
        s.knows id = true ∨ ∃ input ∈ inputs, input.playerId = id) := by
  unfold knows
  refine ⟨fun h => ?_, fun h => ?_⟩
  · unfold applyInputs
    split
    · exact h
    · dsimp only
      split
      · exact h
      · rw [UnorderedMap.find_mapValues, Option.isSome_map]
        exact s.knows_ensureAll inputs h
  · rw [Option.isSome_iff_ne_none] at h ⊢
    exact find_applyInputs h

end MovementSimulation

namespace CombatSimulation

/-- The same of the combat simulation. -/
theorem knows_removePlayer (s : CombatSimulation F) (playerId id : Nat) :
    (s.removePlayer playerId).knows id = (id != playerId && s.knows id) := by
  unfold removePlayer knows
  dsimp only
  rw [UnorderedMap.find_erase]
  by_cases hSame : id = playerId
  · rw [if_pos hSame, hSame, bne_self_eq_false]
    rfl
  · rw [if_neg hSame, bne_iff_ne.mpr hSame, Bool.true_and]

/-- A position makes its player known. -/
theorem knows_setPlayerPosition (s : CombatSimulation F) (playerId : Nat) (x y : F) (id : Nat) :
    (s.setPlayerPosition playerId x y).knows id = (id == playerId || s.knows id) := by
  rw [← knows_ensurePlayer]
  unfold setPlayerPosition
  dsimp only
  split
  · rfl
  · rfl

/-- After the positions of a frame the known players are those before and those who have moved. -/
theorem knows_setPlayerPositions (s : CombatSimulation F) (states : List (PlayerMotionState F))
    (id : Nat) :
    (s.setPlayerPositions states).knows id = true ↔
      s.knows id = true ∨ ∃ state ∈ states, state.playerId = id := by
  induction states generalizing s with
  | nil => simp [setPlayerPositions]
  | cons head rest ih =>
      refine (ih _).trans ?_
      rw [knows_setPlayerPosition, Bool.or_eq_true, beq_iff_eq]
      simp only [List.mem_cons, exists_eq_or_imp]
      constructor
      · rintro ((rfl | hKnown) | hLater)
        · exact Or.inr (Or.inl rfl)
        · exact Or.inl hKnown
        · exact Or.inr (Or.inr hLater)
      · rintro (hKnown | rfl | hLater)
        · exact Or.inl (Or.inr hKnown)
        · exact Or.inl (Or.inl rfl)
        · exact Or.inr hLater

/-- Positions are kept of known players only. -/
theorem KnownKeys.setPlayerPositions {s : CombatSimulation F} (h : s.KnownKeys)
    (states : List (PlayerMotionState F)) : (s.setPlayerPositions states).KnownKeys := by
  obtain ⟨trace, run⟩ := s.run_setPlayerPositions states
  exact run.invariant (fun _ _ _ hBefore hStep => hBefore.step hStep) h

/-- A tick of the combat makes nobody known and removes nobody. -/
theorem knows_resolveTick (s : CombatSimulation F) (tick : Nat) (tickInterval : Int) (id : Nat) :
    (s.resolveTick tick tickInterval).2.knows id = s.knows id :=
  (s.harms_resolveTick tick tickInterval).present id

/-- Respawns of known players. -/
theorem knows_respawnPlayers (ids : List Nat) (s : CombatSimulation F)
    (h : ∀ id ∈ ids, s.knows id = true) (id : Nat) :
    (ids.foldl respawnPlayer s).knows id = s.knows id := by
  induction ids generalizing s with
  | nil => rfl
  | cons head rest ih =>
      have hHead : ∀ id, (s.respawnPlayer head).knows id = s.knows id := by
        intro id
        rw [knows_respawnPlayer, knows_ensurePlayer]
        by_cases hSame : id = head
        · rw [hSame, h head List.mem_cons_self, Bool.or_true]
        · rw [beq_false_of_ne hSame, Bool.false_or]
      rw [List.foldl_cons, ih, hHead]
      intro other hOther
      rw [hHead]
      exact h other (List.mem_cons_of_mem _ hOther)

/-- A respawn makes its player known before it places it. -/
theorem KnownKeys.respawnPlayers {s : CombatSimulation F} (h : s.KnownKeys) (ids : List Nat) :
    (ids.foldl CombatSimulation.respawnPlayer s).KnownKeys := by
  induction ids generalizing s with
  | nil => exact h
  | cons head rest ih => exact ih (h.respawnPlayer head)

theorem KeyedById.respawnPlayers {s : CombatSimulation F} (h : s.KeyedById) (ids : List Nat) :
    (ids.foldl CombatSimulation.respawnPlayer s).KeyedById := by
  induction ids generalizing s with
  | nil => exact h
  | cons head rest ih => exact ih (h.respawnPlayer head)

/-- A queued or refused shot of a known player changes nothing about the players. -/
theorem players_enqueueFire {s : CombatSimulation F} {fire : FireCommand F}
    (h : s.knows fire.attackerId = true) :
    (s.enqueueFire fire).2.playersById = s.playersById := by
  obtain ⟨state, hFind⟩ := Option.isSome_iff_exists.mp h
  rcases s.enqueueFire_cases fire with ⟨-, hState⟩ | ⟨-, hState⟩
  · rw [hState]
  · rw [hState]
    exact UnorderedMap.tryEmplace_of_find hFind _

end CombatSimulation

namespace MainLoop

open CommandQueues

/-- What holds between the deeds of the loop. -/
structure Cast (s : MainLoop F) : Prop where
  tables : s.sessionManager.TablesAgree
  movers : ∀ id, s.movementSimulation.knows id = true ↔ s.sessionManager.Seated id
  moverIds : s.movementSimulation.KeyedById
  fighters : ∀ id, s.combatSimulation.knows id = true ↔ s.sessionManager.Seated id
  fighterIds : s.combatSimulation.KeyedById
  fighterKeys : s.combatSimulation.KnownKeys
  inputOrder : InOrder PlayerInputCommand.playerId PlayerInputCommand.inputSeq
    s.authoritativeLoop.inputQueuesByPlayer
  senders : ∀ id, s.authoritativeLoop.inputQueuesByPlayer.find id ≠ none →
    s.sessionManager.Seated id
  lastInputs : ∀ id, s.authoritativeLoop.lastInputSeqByPlayer.find id ≠ none →
    s.sessionManager.Seated id
  frames : ∀ frame ∈ s.tickFrames, ∀ input ∈ frame.inputs, s.sessionManager.Seated input.playerId
  pickups : s.inventoryLootSimulation.PickupsKept
  looters : ∀ id, s.inventoryLootSimulation.pickupQueueByPlayer.find id ≠ none →
    s.sessionManager.Seated id
  waiting : ∀ id, (s.matchLifecycleSimulation.standing id).pendingRespawnTick ≠ none →
    s.sessionManager.Seated id

/-- At the start nobody is seated and nobody is known. -/
theorem cast_create (setup : ServerSetup F) : (create setup).Cast := by
  have hNobody : ∀ id, ¬ (create setup).sessionManager.Seated id := by
    rintro id ⟨peerToken, hSeat⟩
    cases hSeat
  exact
    { tables := SessionManager.tablesAgree_create setup.session
      movers := fun id => iff_of_false Bool.false_ne_true (hNobody id)
      moverIds := fun _ _ hFind => by cases hFind
      fighters := fun id => iff_of_false Bool.false_ne_true (hNobody id)
      fighterIds := fun _ _ hFind => by cases hFind
      fighterKeys := CombatSimulation.knownKeys_create setup.weapons setup.combat
      inputOrder := inOrder_empty
      senders := fun _ hFind => absurd rfl hFind
      lastInputs := fun _ hFind => absurd rfl hFind
      frames := fun _ hFrame => by cases hFrame
      pickups := InventoryLootSimulation.pickupsKept_create setup.treasures setup.inventory
      looters := fun _ hFind => absurd rfl hFind
      waiting := fun _ hPending => absurd rfl hPending }

variable {s t : MainLoop F}

/-- A step that leaves seats, players and queues alone keeps the cast. -/
theorem Cast.idle (h : s.Cast) (hIdles : Idles s t) : t.Cast := by
  have hSeated := SessionManager.seated_congr hIdles.seats
  have hKnows : ∀ id, t.combatSimulation.knows id = s.combatSimulation.knows id := by
    intro id
    unfold CombatSimulation.knows
    rw [hIdles.players id]
  exact
    { tables := hIdles.tables h.tables
      movers := fun id => by
        rw [hSeated, hIdles.movementSimulation]
        exact h.movers id
      moverIds := hIdles.movementSimulation ▸ h.moverIds
      fighters := fun id => by
        rw [hSeated, hKnows]
        exact h.fighters id
      fighterIds := fun id state hFind => h.fighterIds id state ((hIdles.players id).trans hFind)
      fighterKeys := by
        have hRest := hIdles.combatRest
        refine ⟨fun id hFind => ?_, fun id hFind => ?_, fun id hFind => ?_, fun id hFind => ?_,
          fun hit hHit => ?_⟩
        · rw [hRest] at hFind
          rw [hKnows]
          exact h.fighterKeys.positions id hFind
        · rw [hRest] at hFind
          rw [hKnows]
          exact h.fighterKeys.queues id hFind
        · rw [hRest] at hFind
          rw [hKnows]
          exact h.fighterKeys.shots id hFind
        · rw [hRest] at hFind
          rw [hKnows]
          exact h.fighterKeys.cooldowns id hFind
        · rw [hRest] at hHit
          rw [hKnows, hKnows]
          exact h.fighterKeys.pending hit hHit
      inputOrder := hIdles.authoritativeLoop ▸ h.inputOrder
      senders := fun id hFind => by
        rw [hIdles.authoritativeLoop] at hFind
        exact (hSeated id).mpr (h.senders id hFind)
      lastInputs := fun id hFind => by
        rw [hIdles.authoritativeLoop] at hFind
        exact (hSeated id).mpr (h.lastInputs id hFind)
      frames := fun frame hFrame input hInput => by
        rw [hIdles.tickFrames] at hFrame
        exact (hSeated _).mpr (h.frames frame hFrame input hInput)
      pickups := hIdles.inventoryLootSimulation ▸ h.pickups
      looters := fun id hFind => by
        rw [hIdles.inventoryLootSimulation] at hFind
        exact (hSeated id).mpr (h.looters id hFind)
      waiting := fun id hPending => by
        rw [hIdles.matchLifecycleSimulation] at hPending
        exact (hSeated id).mpr (h.waiting id hPending) }

/-- The calls for a player that has been seated. -/
theorem Cast.ensurePlayer {playerId : Nat} (h : s.Cast)
    (hTables : t.sessionManager.TablesAgree)
    (hSeated : ∀ id, t.sessionManager.Seated id ↔ id = playerId ∨ s.sessionManager.Seated id)
    (hRest : t = { s with sessionManager := t.sessionManager }.ensurePlayer playerId) : t.Cast := by
  have hKeep : ∀ {id}, s.sessionManager.Seated id → t.sessionManager.Seated id :=
    fun hOld => (hSeated _).mpr (Or.inr hOld)
  have hEnsured := s.matchLifecycleSimulation.standing_ensurePlayer playerId
  have hLoop : t.authoritativeLoop = s.authoritativeLoop := by rw [hRest]; rfl
  have hMovement : t.movementSimulation = s.movementSimulation.ensurePlayer playerId := by
    rw [hRest]; rfl
  have hCombat : t.combatSimulation = s.combatSimulation.ensurePlayer playerId := by
    rw [hRest]; rfl
  have hInventory : t.inventoryLootSimulation = s.inventoryLootSimulation.ensurePlayer playerId := by
    rw [hRest]; rfl
  have hMatch : t.matchLifecycleSimulation = s.matchLifecycleSimulation.ensurePlayer playerId := by
    rw [hRest]; rfl
  have hFrames : t.tickFrames = s.tickFrames := by rw [hRest]; rfl
  exact
    { tables := hTables
      movers := fun id => by
        rw [hSeated, hMovement, MovementSimulation.knows_ensurePlayer, Bool.or_eq_true, beq_iff_eq,
          h.movers]
      moverIds := hMovement ▸ h.moverIds.ensurePlayer playerId
      fighters := fun id => by
        rw [hSeated, hCombat, CombatSimulation.knows_ensurePlayer, Bool.or_eq_true, beq_iff_eq,
          h.fighters]
      fighterIds := hCombat ▸ h.fighterIds.ensurePlayer playerId
      fighterKeys := hCombat ▸ h.fighterKeys.ensurePlayer playerId
      inputOrder := hLoop ▸ h.inputOrder
      senders := fun id hFind => hKeep (h.senders id (hLoop ▸ hFind))
      lastInputs := fun id hFind => hKeep (h.lastInputs id (hLoop ▸ hFind))
      frames := fun frame hFrame input hInput =>
        hKeep (h.frames frame (hFrames ▸ hFrame) input hInput)
      pickups := hInventory ▸
        h.pickups.leave (s.inventoryLootSimulation.leavesPickups_ensurePlayer playerId)
      looters := fun id hFind => by
        rw [hInventory] at hFind
        exact hKeep (h.looters id hFind)
      waiting := fun id hPending => by
        rw [hMatch, hEnsured] at hPending
        exact hKeep (h.waiting id hPending) }

/-- All that is kept for a player ends with its session. -/
theorem Cast.leave {peerToken : PeerToken} {playerId : Nat} (h : s.Cast)
    (hIdle : s.tickFrames = []) (hSeat : s.sessionManager.seat peerToken = some playerId) :
    (s.leave peerToken playerId).Cast := by
  have hSeated := h.tables.seated_handleDisconnect hSeat
  have hKeep : ∀ {id}, id ≠ playerId → s.sessionManager.Seated id →
      (s.sessionManager.handleDisconnect peerToken).2.Seated id :=
    fun hNe hOld => (hSeated _).mpr ⟨hOld, hNe⟩
  have hStanding := s.matchLifecycleSimulation.standing_removePlayer playerId
  exact
    { tables := h.tables.handleDisconnect peerToken
      movers := fun id => by
        refine Iff.trans ?_ (hSeated id).symm
        change (s.movementSimulation.removePlayer playerId).knows id = true ↔ _
        rw [MovementSimulation.knows_removePlayer, Bool.and_eq_true, bne_iff_ne, h.movers, and_comm]
      moverIds := h.moverIds.removePlayer playerId
      fighters := fun id => by
        refine Iff.trans ?_ (hSeated id).symm
        change (s.combatSimulation.removePlayer playerId).knows id = true ↔ _
        rw [CombatSimulation.knows_removePlayer, Bool.and_eq_true, bne_iff_ne, h.fighters, and_comm]
      fighterIds := h.fighterIds.removePlayer playerId
      fighterKeys := h.fighterKeys.removePlayer playerId
      inputOrder := by
        change InOrder _ _ (s.authoritativeLoop.clearPlayer playerId).inputQueuesByPlayer
        rw [AuthoritativeLoop.inputQueuesByPlayer_clearPlayer]
        exact h.inputOrder.erase playerId
      senders := fun id hFind => by
        change (s.authoritativeLoop.clearPlayer playerId).inputQueuesByPlayer.find id ≠ none at hFind
        rw [AuthoritativeLoop.inputQueuesByPlayer_clearPlayer, UnorderedMap.find_erase] at hFind
        split at hFind
        · exact absurd rfl hFind
        · rename_i hNe
          exact hKeep hNe (h.senders id hFind)
      lastInputs := fun id hFind => by
        change (s.authoritativeLoop.clearPlayer playerId).lastInputSeqByPlayer.find id ≠ none at hFind
        rw [AuthoritativeLoop.lastInputSeqByPlayer_clearPlayer, UnorderedMap.find_erase] at hFind
        split at hFind
        · exact absurd rfl hFind
        · rename_i hNe
          exact hKeep hNe (h.lastInputs id hFind)
      frames := fun frame hFrame => by
        change frame ∈ s.tickFrames at hFrame
        rw [hIdle] at hFrame
        cases hFrame
      pickups := h.pickups.removePlayer playerId
      looters := fun id hFind => by
        change (s.inventoryLootSimulation.removePlayer playerId).pickupQueueByPlayer.find id ≠ none
          at hFind
        rw [InventoryLootSimulation.removePlayer_queues, UnorderedMap.find_erase] at hFind
        split at hFind
        · exact absurd rfl hFind
        · rename_i hNe
          exact hKeep hNe (h.looters id hFind)
      waiting := fun id hPending => by
        change ((s.matchLifecycleSimulation.removePlayer playerId).standing id).pendingRespawnTick ≠
          none at hPending
        rw [hStanding] at hPending
        split at hPending
        · exact absurd rfl hPending
        · rename_i hNe
          exact hKeep hNe (h.waiting id hPending) }

/-- Only who is seated can queue an input, and its player is known already. -/
theorem Cast.input {peerToken : PeerToken} {command : PlayerInputCommand F} (h : s.Cast)
    (hSeat : s.sessionManager.seat peerToken = some command.playerId) :
    { s with authoritativeLoop := (s.authoritativeLoop.enqueueInput command).2 : MainLoop F }.Cast := by
  rcases s.authoritativeLoop.enqueueInput_cases command with
    ⟨-, hState⟩ | ⟨-, -, hBehind, -, hState⟩
  · rw [hState]
    exact h
  · rw [hState]
    have hSender : s.sessionManager.Seated command.playerId := ⟨peerToken, hSeat⟩
    exact
      { h with
        inputOrder := h.inputOrder.push command
          (AuthoritativeLoop.lt_of_not_behindQueue h.inputOrder hBehind)
        senders := fun id hFind => by
          dsimp only at hFind
          rw [find_push] at hFind
          split at hFind
          · rename_i hSame
            exact hSame ▸ hSender
          · exact h.senders id hFind
        lastInputs := fun id hFind => by
          dsimp only at hFind
          rw [UnorderedMap.find_set] at hFind
          split at hFind
          · rename_i hSame
            exact hSame ▸ hSender
          · exact h.lastInputs id hFind }

/-- The same of a shot. -/
theorem Cast.fire {peerToken : PeerToken} {command : FireCommand F} (h : s.Cast)
    (hSeat : s.sessionManager.seat peerToken = some command.attackerId) :
    { s with combatSimulation := (s.combatSimulation.enqueueFire command).2 : MainLoop F }.Cast := by
  have hKnown := (h.fighters command.attackerId).mpr ⟨peerToken, hSeat⟩
  have hPlayers := CombatSimulation.players_enqueueFire hKnown
  exact
    { h with
      fighters := fun id => by
        rw [← h.fighters]
        unfold CombatSimulation.knows
        rw [hPlayers]
      fighterIds := by
        unfold CombatSimulation.KeyedById
        rw [hPlayers]
        exact h.fighterIds
      fighterKeys := h.fighterKeys.enqueueFire command }

/-- The same of a pickup. -/
theorem Cast.pickup {peerToken : PeerToken} {command : TreasurePickupCommand} (h : s.Cast)
    (hSeat : s.sessionManager.seat peerToken = some command.playerId) :
    { s with
      inventoryLootSimulation :=
        (s.inventoryLootSimulation.enqueuePickup command).2 : MainLoop F }.Cast := by
  obtain ⟨hQueue, hKept⟩ := h.pickups.enqueuePickup command
  exact
    { h with
      pickups := hKept
      looters := fun id hFind => by
        dsimp only at hFind
        rcases hQueue with ⟨-, hQueue⟩ | ⟨-, -, hQueue⟩
        · rw [hQueue] at hFind
          exact h.looters id hFind
        · rw [hQueue, find_push] at hFind
          split at hFind
          · rename_i hSame
            exact ⟨peerToken, hSame ▸ hSeat⟩
          · exact h.looters id hFind }

/-- The frames that are cut hold what was waiting. -/
theorem mem_cutFrames (loop : AuthoritativeLoop F) (count : Nat) :
    (∀ frame ∈ (loop.cutFrames count).1, ∀ input ∈ frame.inputs,
        ∃ id queue, loop.inputQueuesByPlayer.find id = some queue ∧ input ∈ queue) ∧
      ∀ id, (loop.cutFrames count).2.inputQueuesByPlayer.find id ≠ none →
        loop.inputQueuesByPlayer.find id ≠ none := by
  induction count generalizing loop with
  | zero => exact ⟨fun _ hFrame => absurd hFrame List.not_mem_nil, fun _ hFind => hFind⟩
  | succ count ih =>
      obtain ⟨hLater, hLeft⟩ := ih loop.cutFrame.2
      refine ⟨fun frame hFrame input hInput => ?_, fun id hFind => ?_⟩
      · rcases List.mem_cons.mp hFrame with rfl | hFrame
        · exact mem_drain hInput
        · obtain ⟨id, queue, hFind, hMem⟩ := hLater frame hFrame input hInput
          rw [(AuthoritativeLoop.find_cutFrame hFind).1] at hMem
          cases hMem
      · intro hNone
        exact hLeft id hFind (find_drain_none hNone)

/-- The frames that become due hold inputs of seated players only. -/
theorem Cast.advance (h : s.Cast) (now : TimePoint) : (s.advance now).Cast := by
  obtain ⟨hFrames, hLeft⟩ := mem_cutFrames s.authoritativeLoop (s.authoritativeLoop.framesDue now)
  exact
    { h with
      inputOrder := h.inputOrder.run (s.authoritativeLoop.queueRun_cutFrames _)
      senders := fun id hFind => h.senders id (hLeft id hFind)
      lastInputs := fun id hFind => by
        change (s.authoritativeLoop.cutFrames _).2.lastInputSeqByPlayer.find id ≠ none at hFind
        rw [AuthoritativeLoop.lastInputSeqByPlayer_cutFrames] at hFind
        exact h.lastInputs id hFind
      frames := fun frame hFrame input hInput => by
        obtain ⟨id, queue, hFind, hMem⟩ := hFrames frame hFrame input hInput
        rw [h.inputOrder.sent id queue hFind input hMem]
        exact h.senders id (hFind ▸ Option.some_ne_none queue) }

/-! One tick. -/

/-- The inputs of a frame make nobody known who is not seated. -/
theorem Cast.knows_movedIn (h : s.Cast) {frame : TickFrame F}
    (hInputs : ∀ input ∈ frame.inputs, s.sessionManager.Seated input.playerId) (id : Nat) :
    (s.movedIn frame).knows id = true ↔ s.sessionManager.Seated id := by
  obtain ⟨hKept, hMet⟩ := s.movementSimulation.knows_applyInputs s.tickInterval frame.inputs id
  constructor
  · intro hMoved
    rcases hMet hMoved with hOld | ⟨input, hInput, hSender⟩
    · exact (h.movers id).mp hOld
    · exact hSender ▸ hInputs input hInput
  · intro hSeated
    exact hKept ((h.movers id).mpr hSeated)

/-- Whoever has moved in a frame is seated. -/
theorem Cast.mem_movedIn_snapshot (h : s.Cast) {frame : TickFrame F}
    (hInputs : ∀ input ∈ frame.inputs, s.sessionManager.Seated input.playerId)
    {state : PlayerMotionState F} (hState : state ∈ (s.movedIn frame).snapshot) :
    s.sessionManager.Seated state.playerId := by
  obtain ⟨id, hFind⟩ := MovementSimulation.mem_snapshot.mp hState
  rw [h.moverIds.applyInputs s.tickInterval frame.inputs id state hFind]
  apply (h.knows_movedIn hInputs id).mp
  exact Option.isSome_iff_exists.mpr ⟨state, hFind⟩

/-- The combat of a tick takes its lives from the players that it knows. -/
theorem harms_foughtIn (s : MainLoop F) (frame : TickFrame F) :
    CombatSimulation.Harms
      (s.combatSimulation.setPlayerPositions (s.movedIn frame).snapshot) (s.foughtIn frame).2
      (s.foughtIn frame).1.deathEvents := by
  unfold foughtIn
  exact CombatSimulation.harms_resolveTick _ frame.tick s.tickInterval

/-- Hence the positions make nobody known to the combat who is not seated. -/
theorem Cast.knows_foughtIn (h : s.Cast) {frame : TickFrame F}
    (hInputs : ∀ input ∈ frame.inputs, s.sessionManager.Seated input.playerId) (id : Nat) :
    (s.foughtIn frame).2.knows id = true ↔ s.sessionManager.Seated id := by
  have hSame : (s.foughtIn frame).2.knows id =
      (s.combatSimulation.setPlayerPositions (s.movedIn frame).snapshot).knows id :=
    CombatSimulation.knows_resolveTick _ frame.tick s.tickInterval id
  rw [hSame, CombatSimulation.knows_setPlayerPositions, h.fighters, or_iff_left_iff_imp]
  rintro ⟨state, hState, rfl⟩
  exact h.mem_movedIn_snapshot hInputs hState

/-- Only seated players die. -/
theorem Cast.seated_of_died (h : s.Cast) {frame : TickFrame F}
    (hInputs : ∀ input ∈ frame.inputs, s.sessionManager.Seated input.playerId) {id : Nat}
    (hDied : Died (s.foughtIn frame).1.deathEvents id) : s.sessionManager.Seated id := by
  obtain ⟨hAlive, -⟩ := ((s.harms_foughtIn frame).death_iff id).mp hDied
  rw [← h.knows_foughtIn hInputs, CombatSimulation.knows, (s.harms_foughtIn frame).present]
  unfold CombatSimulation.aliveIn at hAlive
  cases hFind : (s.combatSimulation.setPlayerPositions
      (s.movedIn frame).snapshot).playersById.find id with
  | none =>
      rw [hFind] at hAlive
      cases hAlive
  | some state => rfl

/-- The call on the match that a tick makes. -/
def matchRecord (s : MainLoop F) (frame : TickFrame F) : TickRecord where
  tick := frame.tick
  startPhase := s.matchLifecycleSimulation.phase
  deathEvents := (s.foughtIn frame).1.deathEvents
  result := (s.playedIn frame).1

theorem deathEvents_matchRecord (s : MainLoop F) (frame : TickFrame F) :
    (s.matchRecord frame).deathEvents = (s.foughtIn frame).1.deathEvents := by
  unfold matchRecord
  dsimp only

theorem result_matchRecord (s : MainLoop F) (frame : TickFrame F) :
    (s.matchRecord frame).result = (s.playedIn frame).1 := by
  unfold matchRecord
  dsimp only

/-- The standings after the deaths of a tick, by the deaths that the combat reports. -/
theorem buried_matchRecord (s : MainLoop F) (frame : TickFrame F) (id : Nat) :
    s.matchLifecycleSimulation.buried (s.matchRecord frame) id =
      (s.matchLifecycleSimulation.entering id).dieIf (Died (s.foughtIn frame).1.deathEvents id)
        s.matchLifecycleSimulation.config frame.tick := by
  unfold MatchLifecycleSimulation.buried matchRecord
  dsimp only

/-- The part of the match in a tick of the loop is a call of its simulation. -/
theorem matchCall_playedIn (s : MainLoop F) (frame : TickFrame F) :
    MatchLifecycleSimulation.MatchCall s.matchLifecycleSimulation (.ticked (s.matchRecord frame))
      (s.playedIn frame).2 :=
  .resolveTick _ _ _ _ _ _ _

/-- Who waits for a respawn once the deaths of the tick are recorded. -/
theorem Cast.seated_of_buried (h : s.Cast) {frame : TickFrame F}
    (hInputs : ∀ input ∈ frame.inputs, s.sessionManager.Seated input.playerId) {id pending : Nat}
    (hPending : (s.matchLifecycleSimulation.buried (s.matchRecord frame) id).pendingRespawnTick =
      some pending) : s.sessionManager.Seated id := by
  rw [buried_matchRecord] at hPending
  rcases Standing.pending_dieIf hPending with ⟨hDied, -⟩ | ⟨-, hBefore⟩
  · exact h.seated_of_died hInputs hDied
  · unfold MatchLifecycleSimulation.entering at hBefore
    split at hBefore
    · cases hBefore
    · exact h.waiting id (hBefore ▸ Option.some_ne_none pending)

/-- A tick respawns players with a session, and only they wait after it. -/
theorem Cast.seated_playedIn (h : s.Cast) {frame : TickFrame F}
    (hInputs : ∀ input ∈ frame.inputs, s.sessionManager.Seated input.playerId) (id : Nat) :
    (id ∈ (s.playedIn frame).1.respawnedPlayers → s.sessionManager.Seated id) ∧
      (((s.playedIn frame).2.standing id).pendingRespawnTick ≠ none →
        s.sessionManager.Seated id) := by
  obtain ⟨-, hIdles | ⟨record, hRecord, hPlays⟩⟩ := (s.matchCall_playedIn frame).idles_or_plays
  · refine ⟨fun hRespawned => ?_, fun hPending => ?_⟩
    · have hNobody := hIdles.nobody id
      rw [respawns_ticked, List.count_eq_zero] at hNobody
      exact absurd hRespawned hNobody
    · rcases hIdles.pending id with hSame | hNone
      · exact h.waiting id (hSame ▸ hPending)
      · exact absurd hNone hPending
  · injection hRecord with hRecord
    subst hRecord
    refine ⟨fun hRespawned => ?_, fun hPending => ?_⟩
    · obtain ⟨hDue, -⟩ := (hPlays.respawned id).mp hRespawned
      obtain ⟨pending, hPending, -⟩ := Standing.pending_of_due hDue
      exact h.seated_of_buried hInputs hPending
    · obtain ⟨pending, hPending⟩ := Option.ne_none_iff_exists'.mp hPending
      rw [hPlays.standing] at hPending
      exact h.seated_of_buried hInputs (Standing.pending_revive hPending).2

/-- The respawns of a tick are of seated players, so the combat still knows exactly those. -/
theorem Cast.fighters_respawnedIn (h : s.Cast) {frame : TickFrame F}
    (hInputs : ∀ input ∈ frame.inputs, s.sessionManager.Seated input.playerId) :
    (∀ id, (s.respawnedIn frame).knows id = true ↔ s.sessionManager.Seated id) ∧
      (s.respawnedIn frame).KeyedById ∧ (s.respawnedIn frame).KnownKeys := by
  have hRespawned : ∀ id ∈ (s.playedIn frame).1.respawnedPlayers,
      (s.foughtIn frame).2.knows id = true :=
    fun id hId => (h.knows_foughtIn hInputs id).mpr ((h.seated_playedIn hInputs id).1 hId)
  have hIds := (s.harms_foughtIn frame).keyed (h.fighterIds.setPlayerPositions _)
  have hKeys : (s.foughtIn frame).2.KnownKeys := by
    unfold foughtIn
    exact (h.fighterKeys.setPlayerPositions _).step (.resolveTick _ frame.tick s.tickInterval)
  refine ⟨fun id => ?_, hIds.respawnPlayers _, hKeys.respawnPlayers _⟩
  rw [← h.knows_foughtIn hInputs, ← CombatSimulation.knows_respawnPlayers _ _ hRespawned]
  rfl

/-- A tick leaves no pickup waiting that was not waiting before. -/
theorem Cast.pickups_lootedIn (h : s.Cast) (frame : TickFrame F) :
    (s.lootedIn frame).2.PickupsKept ∧
      ∀ id, s.inventoryLootSimulation.pickupQueueByPlayer.find id = none →
        (s.lootedIn frame).2.pickupQueueByPlayer.find id = none := by
  have hLooted := h.pickups.resolveTick frame.tick (s.movedIn frame).snapshot
    (s.foughtIn frame).2.snapshot (s.foughtIn frame).1.deathEvents
  have hLeaves := s.inventoryLootSimulation.leavesPickups_looted frame.tick
    (s.movedIn frame).snapshot (s.foughtIn frame).2.snapshot (s.foughtIn frame).1.deathEvents
  refine ⟨hLooted.2, fun id hNone => ?_⟩
  unfold lootedIn
  rw [hLooted.1.leaves.queues, (InventoryLootSimulation.drained_queues _).2, hLeaves.queues]
  exact find_drain_none hNone

/-- A tick keeps the cast. -/
theorem Cast.tick {frame : TickFrame F} {rest : List (TickFrame F)} (h : s.Cast)
    (hFrames : s.tickFrames = frame :: rest) (hTicked : s.Ticked frame t)
    (hRest : t.tickFrames = rest) : t.Cast := by
  have hInputs : ∀ input ∈ frame.inputs, s.sessionManager.Seated input.playerId :=
    h.frames frame (hFrames ▸ List.mem_cons_self)
  obtain ⟨hFighters, hFighterIds, hFighterKeys⟩ := h.fighters_respawnedIn hInputs
  obtain ⟨hPickups, hLooters⟩ := h.pickups_lootedIn frame
  constructor
  · rw [hTicked.sessionManager]
    exact h.tables
  · rw [hTicked.sessionManager, hTicked.movementSimulation]
    exact h.knows_movedIn hInputs
  · rw [hTicked.movementSimulation]
    exact h.moverIds.applyInputs s.tickInterval frame.inputs
  · rw [hTicked.sessionManager, hTicked.combatSimulation]
    exact hFighters
  · rw [hTicked.combatSimulation]
    exact hFighterIds
  · rw [hTicked.combatSimulation]
    exact hFighterKeys
  · rw [hTicked.authoritativeLoop]
    exact h.inputOrder
  · rw [hTicked.sessionManager, hTicked.authoritativeLoop]
    exact h.senders
  · rw [hTicked.sessionManager, hTicked.authoritativeLoop]
    exact h.lastInputs
  · rw [hTicked.sessionManager, hRest]
    exact fun other hOther => h.frames other (hFrames ▸ List.mem_cons_of_mem frame hOther)
  · rw [hTicked.inventoryLootSimulation]
    exact hPickups
  · rw [hTicked.sessionManager, hTicked.inventoryLootSimulation]
    exact fun id hFind => h.looters id fun hNone => hFind (hLooters id hNone)
  · rw [hTicked.sessionManager, hTicked.matchLifecycleSimulation]
    exact fun id => (h.seated_playedIn hInputs id).2

/-- Every deed keeps the cast, one case for each. -/
theorem Cast.step {deed : Deed F} (h : s.Cast) (hStep : DeedStep s deed t) : t.Cast := by
  cases hStep with
  | idle hIdles => exact h.idle hIdles
  | seat peerToken playerName now playerId status hToken hNew hFree hSlot hSeats =>
      refine h.ensurePlayer (h.tables.handleJoinRequest hToken playerName now) (fun id => ?_) rfl
      change (s.sessionManager.handleJoinRequest peerToken playerName now).2.Seated id ↔ _
      unfold SessionManager.Seated
      simp only [hSeats]
      constructor
      · rintro ⟨peer, hPeer⟩
        split at hPeer
        · exact Or.inl (Option.some.inj hPeer).symm
        · exact Or.inr ⟨peer, hPeer⟩
      · rintro (rfl | ⟨peer, hPeer⟩)
        · exact ⟨peerToken, if_pos rfl⟩
        · refine ⟨peer, ?_⟩
          rw [if_neg, hPeer]
          rintro rfl
          rw [hNew] at hPeer
          cases hPeer
  | rejoin peerToken playerId hSeat =>
      refine h.ensurePlayer h.tables (fun id => ?_) rfl
      refine ⟨Or.inr, ?_⟩
      rintro (rfl | hOld)
      · exact ⟨peerToken, hSeat⟩
      · exact hOld
  | leave peerToken playerId hIdle hSeat => exact h.leave hIdle hSeat
  | input peerToken command hSeat => exact h.input hSeat
  | fire peerToken command hPhase hSeat => exact h.fire hSeat
  | pickup peerToken command hPhase hSeat => exact h.pickup hSeat
  | advance now hIdle => exact h.advance now
  | tick frame rest hFrames => exact h.tick hFrames (s.ticked_runFrame frame rest) rfl

/-- The cast holds in every state that is reached from one in which it does. -/
theorem Cast.run {deeds : List (Deed F)} (h : s.Cast) (run : Run DeedStep s deeds t) : t.Cast :=
  run.invariant (fun _ _ _ hBefore hStep => hBefore.step hStep) h

/-- Whatever the loop has been through, everybody is known where it has a session only. -/
theorem cast_run {setup : ServerSetup F} {trace : List (LoopEvent F)}
    (run : Run LoopStep (create setup) trace s) : s.Cast :=
  (cast_create setup).run (run_deeds run (cast_create setup).tables).2

/-- The players with an active session are those that the movement knows, and those that the
combat knows, and nobody else has an input waiting. -/
theorem no_ghost_players {setup : ServerSetup F} {trace : List (LoopEvent F)}
    (run : Run LoopStep (create setup) trace s) (id : Nat) :
    (s.movementSimulation.knows id = true ↔
        id ∈ s.sessionManager.activeSessions.map SessionView.playerId) ∧
      (s.combatSimulation.knows id = true ↔
        id ∈ s.sessionManager.activeSessions.map SessionView.playerId) ∧
      (∀ queue, s.authoritativeLoop.inputQueuesByPlayer.find id = some queue →
        id ∈ s.sessionManager.activeSessions.map SessionView.playerId) := by
  have hCast := cast_run run
  rw [SessionManager.mem_activeSessions_playerId]
  refine ⟨hCast.movers id, hCast.fighters id, fun queue hQueue => hCast.senders id ?_⟩
  rw [hQueue]
  exact Option.some_ne_none queue

theorem three_seats_fit : 3 < 2 ^ 32 := by decide

theorem default_extents_fit : (64 : Int) < 2 ^ 31 ∧ (8 : Int) < 2 ^ 31 ∧ (64 : Int) < 2 ^ 31 := by
  decide

/-- Three seats, and a match that starts with its first tick. -/
def duel : ServerSetup ℚ where
  session := ⟨3, 10000, three_seats_fit⟩
  runtime := {}
  movement := {}
  replication := { inRange := default_extents_fit }
  blocks := {}
  weapons := []
  combat := {}
  treasures := []
  inventory := {}
  lifecycle := { preMatchTicks := 1 }
  world := {}
  startTime := 0

/-- The duel with two players, the first of whom has left. -/
def duelDeserted : MainLoop ℚ :=
  ((((create duel).receive 101 (.joinRequest [0x61]) 0).2.receive 102
    (.joinRequest [0x62]) 0).2.disconnect 101).2

/-- Who left is not known any more, and the other one still is. -/
theorem no_ghost_players_deserted : duelDeserted.movementSimulation.knows 1 = false ∧
    duelDeserted.combatSimulation.knows 1 = false ∧
      duelDeserted.movementSimulation.knows 2 = true := by
  have hRun := ((Run.single (LoopStep.receive (create duel) 101 (.joinRequest [0x61]) 0 rfl
    (by decide))).snoc (LoopStep.receive _ 102 (.joinRequest [0x62]) 0 rfl (by decide))).snoc
    (LoopStep.disconnect _ 101 rfl)
  have hSeated : duelDeserted.sessionManager.activeSessions.map SessionView.playerId = [2] := by
    decide
  have hKnown (id : Nat) := no_ghost_players hRun id
  refine ⟨?_, ?_, (hKnown 2).1.mpr (by decide)⟩
  · exact Bool.eq_false_iff.mpr fun hGhost => absurd (hSeated ▸ (hKnown 1).1.mp hGhost) (by decide)
  · exact Bool.eq_false_iff.mpr fun hGhost => absurd (hSeated ▸ (hKnown 1).2.1.mp hGhost) (by decide)

end MainLoop

end DevyFps.Server
