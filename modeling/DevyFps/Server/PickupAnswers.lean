import DevyFps.Foundations.Deliveries
import DevyFps.Server.PickupJudging

/-! What is answered to the pickups that players ask for, over any run of the inventory
simulation without `reset`. -/

namespace DevyFps.Server

open Foundations CommandQueues Game

/-- What a tick took from the queues and what it answered, with who is alive after it. -/
structure PickupTick where
  pickups : List TreasurePickupCommand
  results : List TreasurePickupResolution
  living : Nat → Bool

inductive PickupEvent where
  | ensured (playerId : Nat)
  | removed (playerId : Nat)
  | enqueued (command : TreasurePickupCommand) (status : TreasurePickupEnqueueStatus)
  | ticked (tick : PickupTick)

variable {F : Type} [SingleFloat F]

namespace InventoryLootSimulation

/-- The calls that change the simulation, `reset` left out. -/
inductive PickupCall : InventoryLootSimulation F → PickupEvent → InventoryLootSimulation F →
    Prop where
  | ensurePlayer (s) (playerId : Nat) : PickupCall s (.ensured playerId) (s.ensurePlayer playerId)
  | removePlayer (s) (playerId : Nat) : PickupCall s (.removed playerId) (s.removePlayer playerId)
  | enqueuePickup (s) (command : TreasurePickupCommand) :
      PickupCall s (.enqueued command (s.enqueuePickup command).1) (s.enqueuePickup command).2
  | resolveTick (s) (tick : Nat) (movementStates : List (PlayerMotionState F))
      (combatStates : List PlayerCombatState) (deaths : List DeathResolution) :
      PickupCall s
        (.ticked
          { pickups := (s.looted tick movementStates combatStates deaths).drainPickups.1
            results := (s.resolveTick tick movementStates combatStates deaths).1.pickupResults
            living := (s.resolveTick tick movementStates combatStates deaths).2.livingPlayer })
        (s.resolveTick tick movementStates combatStates deaths).2

/-- One drained pickup is answered. Unless it is collected, nobody's inventory and no active
spawn changes. -/
inductive PickupStep : InventoryLootSimulation F →
    TreasurePickupCommand × TreasurePickupResolution → InventoryLootSimulation F → Prop where
  | collected (s) (pickup : TreasurePickupCommand)
      (hStatus : (s.resolvePickup pickup).1.status = .collected) :
      PickupStep s (pickup, (s.resolvePickup pickup).1) (s.resolvePickup pickup).2.2
  | refused (s) (pickup : TreasurePickupCommand)
      (hStatus : (s.resolvePickup pickup).1.status ≠ .collected)
      (hInventories : ∀ id, (s.resolvePickup pickup).2.2.inventoryOf id = s.inventoryOf id)
      (hSpawns : (s.resolvePickup pickup).2.2.activeSpawnsById = s.activeSpawnsById) :
      PickupStep s (pickup, (s.resolvePickup pickup).1) (s.resolvePickup pickup).2.2

/-- To answer a pickup is one step. -/
theorem pickupStep_resolvePickup (s : InventoryLootSimulation F) (pickup : TreasurePickupCommand) :
    PickupStep s (pickup, (s.resolvePickup pickup).1) (s.resolvePickup pickup).2.2 := by
  by_cases hStatus : (s.resolvePickup pickup).1.status = .collected
  · exact .collected s pickup hStatus
  · obtain ⟨hInventories, hSpawns⟩ := (s.answered_resolvePickup pickup).refused hStatus
    exact .refused s pickup hStatus hInventories hSpawns

/-- The drained pickups of a tick, one after the other. -/
theorem run_resolvePickups (pickups : List TreasurePickupCommand) (s : InventoryLootSimulation F) :
    Run PickupStep s (pickups.zip (s.resolvePickups pickups).1) (s.resolvePickups pickups).2.2 ∧
      (s.resolvePickups pickups).1.length = pickups.length := by
  induction pickups generalizing s with
  | nil => exact ⟨.nil s, rfl⟩
  | cons pickup rest ih =>
      obtain ⟨hRest, hLength⟩ := ih (s.resolvePickup pickup).2.2
      exact ⟨(Run.single (s.pickupStep_resolvePickup pickup)).trans hRest,
        congrArg (· + 1) hLength⟩

/-- A tick answers what it has drained, pickup by pickup. -/
theorem run_resolveQueuedPickups {s t : InventoryLootSimulation F}
    {results : List TreasurePickupResolution} (hState : t = s.resolveQueuedPickups.2.2)
    (hResults : results = s.resolveQueuedPickups.1) :
    Run PickupStep s.drainPickups.2 (s.drainPickups.1.zip results) t ∧
      results.length = s.drainPickups.1.length := by
  subst hState hResults
  exact run_resolvePickups s.drainPickups.1 s.drainPickups.2

/-- How a tick of a run comes about: after the spawns and the death drops, the drained pickups are
answered one after the other, and the tick reports their results. -/
structure AnsweredInTurn (s t : InventoryLootSimulation F) (tick : PickupTick) : Prop where
  looted : ∃ (now : Nat) (movementStates : List (PlayerMotionState F))
    (combatStates : List PlayerCombatState) (deaths : List DeathResolution),
      tick.results = (s.resolveTick now movementStates combatStates deaths).1.pickupResults ∧
      t = (s.resolveTick now movementStates combatStates deaths).2 ∧
      tick.pickups = (s.looted now movementStates combatStates deaths).drainPickups.1 ∧
      Run PickupStep (s.looted now movementStates combatStates deaths).drainPickups.2
        (tick.pickups.zip tick.results) t
  complete : tick.results.length = tick.pickups.length

/-- The answers of a tick are to the pickups that waited, in their turn. -/
theorem answeredInTurn_of_call {s t : InventoryLootSimulation F} {tick : PickupTick}
    (hStep : PickupCall s (.ticked tick) t) : AnsweredInTurn s t tick := by
  cases hStep with
  | resolveTick now movementStates combatStates deaths =>
      obtain ⟨hState, hResults⟩ := s.resolveTick_eq_looted now movementStates combatStates deaths
      obtain ⟨hRun, hLength⟩ := run_resolveQueuedPickups hState hResults
      constructor
      · refine ⟨now, movementStates, combatStates, deaths, ?_, ?_, ?_, ?_⟩
        · dsimp only
        · dsimp only
        · dsimp only
        · dsimp only
          exact hRun
      · dsimp only
        exact hLength

/-- The pickups of a player that is removed are dropped with its queue. -/
theorem removePlayer_queues (s : InventoryLootSimulation F) (playerId : Nat) :
    (s.removePlayer playerId).pickupQueueByPlayer =
      UnorderedMap.erase s.pickupQueueByPlayer playerId := by
  unfold removePlayer
  cases hFind : s.pickupQueueByPlayer.find playerId with
  | none => exact (UnorderedMap.erase_eq_self_of_find_none hFind).symm
  | some queue => rfl

/-- A leaving player is forgotten by the queue only. -/
theorem removePlayer_rest (s : InventoryLootSimulation F) (playerId : Nat) :
    (s.removePlayer playerId).config = s.config ∧
      (s.removePlayer playerId).consumedSpawnIds = s.consumedSpawnIds ∧
      (s.removePlayer playerId).activeSpawnsById = s.activeSpawnsById ∧
      (s.removePlayer playerId).playersById = s.playersById.modify playerId fun player =>
        { player with alive := false, positionX := FloatFormat.ofRat 0,
                      positionY := FloatFormat.ofRat 0 } := by
  unfold removePlayer
  cases s.pickupQueueByPlayer.find playerId with
  | none => exact ⟨rfl, rfl, rfl, rfl⟩
  | some queue => exact ⟨rfl, rfl, rfl, rfl⟩

/-- What holds between the calls: the queues are in order and counted, whoever waits is known,
and the spawns are keyed by their ids. -/
structure PickupsKept (s : InventoryLootSimulation F) : Prop where
  order : InOrder TreasurePickupCommand.playerId TreasurePickupCommand.pickupSeq
    s.pickupQueueByPlayer
  counted : s.queuedPickupCount = s.pickupQueueByPlayer.queued
  room : s.queuedPickupCount ≤ s.config.pickupQueueCapacity
  senders : ∀ id queue, s.pickupQueueByPlayer.find id = some queue →
    s.playersById.find id ≠ none
  keyed : s.KeyedSpawns

/-- At the start nothing waits. -/
theorem pickupsKept_create (definitions : List TreasureDefinition)
    (config : InventoryLootConfig F) : (create definitions config).PickupsKept where
  order := inOrder_empty
  counted := rfl
  room := Nat.zero_le _
  senders _ _ hFind := nomatch hFind
  keyed _ _ hFind := nomatch hFind

/-- A step that leaves the pickups keeps it all. -/
theorem PickupsKept.leave {s t : InventoryLootSimulation F} (h : s.PickupsKept)
    (hLeaves : LeavesPickups s t) : t.PickupsKept where
  order := hLeaves.queues ▸ h.order
  counted := by rw [hLeaves.count, hLeaves.queues, h.counted]
  room := by
    rw [hLeaves.count, hLeaves.config]
    exact h.room
  senders id queue hFind := by
    rw [hLeaves.queues] at hFind
    exact hLeaves.known id (h.senders id queue hFind)
  keyed := hLeaves.keyed h.keyed

/-- A pickup is refused without a trace, or it is put at the end with the largest number of its
player. -/
theorem PickupsKept.enqueuePickup {s : InventoryLootSimulation F} (h : s.PickupsKept)
    (command : TreasurePickupCommand) :
    ((s.enqueuePickup command).1 ≠ .accepted ∧
        (s.enqueuePickup command).2.pickupQueueByPlayer = s.pickupQueueByPlayer ∨
      (s.enqueuePickup command).1 = .accepted ∧
        (∀ other ∈ (s.pickupQueueByPlayer.find command.playerId).getD [],
          other.pickupSeq < command.pickupSeq) ∧
        (s.enqueuePickup command).2.pickupQueueByPlayer =
          s.pickupQueueByPlayer.push command.playerId command) ∧
      (s.enqueuePickup command).2.PickupsKept := by
  have hEnsured := h.leave (s.leavesPickups_ensurePlayer command.playerId)
  rcases s.enqueuePickup_cases command with
    ⟨hStatus, hState⟩ | ⟨hBehind, hStatus, hRoom, state, hFind, hState⟩
  · rw [hState]
    refine ⟨Or.inl ⟨?_, rfl⟩, hEnsured⟩
    rcases hStatus with ⟨-, hStatus⟩ | ⟨hStatus, -⟩
    · rw [hStatus]
      exact nofun
    · rw [hStatus]
      exact nofun
  · have hLess : ∀ other ∈ (s.pickupQueueByPlayer.find command.playerId).getD [],
        other.pickupSeq < command.pickupSeq := by
      apply h.order.lt_of_getLast
      intro back hBack
      rw [behind_inbox, Bool.or_eq_false_iff] at hBehind
      have hQueue := hBehind.2
      unfold behindQueue at hQueue
      rw [hBack] at hQueue
      exact not_le.mp (of_decide_eq_false hQueue)
    rw [hState]
    refine ⟨Or.inr ⟨hStatus, hLess, rfl⟩, ?_⟩
    exact
      { order := h.order.push command hLess
        counted := by
          dsimp only
          rw [queued_push, h.counted]
        room := hRoom
        senders := by
          intro id queue hQueue
          dsimp only at hQueue ⊢
          rw [UnorderedMap.find_set]
          split
          · exact Option.some_ne_none _
          · rename_i hOther
            rw [find_push, if_neg hOther] at hQueue
            exact hEnsured.senders id queue hQueue
        keyed := h.keyed }

theorem PickupsKept.removePlayer {s : InventoryLootSimulation F} (h : s.PickupsKept)
    (playerId : Nat) : (s.removePlayer playerId).PickupsKept := by
  obtain ⟨hConfig, -, hActive, hPlayers⟩ := s.removePlayer_rest playerId
  have hCount : (s.removePlayer playerId).queuedPickupCount =
      CommandQueues.queued (UnorderedMap.erase s.pickupQueueByPlayer playerId) := by
    unfold InventoryLootSimulation.removePlayer
    cases hFind : s.pickupQueueByPlayer.find playerId with
    | none =>
        rw [UnorderedMap.erase_eq_self_of_find_none hFind]
        exact h.counted
    | some queue =>
        have hQueued := queued_of_find hFind
        rw [← h.counted] at hQueued
        dsimp only
        rw [if_pos (by omega)]
        omega
  exact
    { order := by
        rw [removePlayer_queues]
        exact h.order.erase playerId
      counted := by rw [removePlayer_queues, hCount]
      room := by
        rw [hCount, hConfig]
        refine le_trans ?_ h.room
        rw [h.counted]
        cases hFind : s.pickupQueueByPlayer.find playerId with
        | none => rw [UnorderedMap.erase_eq_self_of_find_none hFind]
        | some queue =>
            rw [queued_of_find hFind]
            exact Nat.le_add_left _ _
      senders := by
        intro id queue hFind
        rw [removePlayer_queues, UnorderedMap.find_erase] at hFind
        split at hFind
        · cases hFind
        · rename_i hOther
          rw [hPlayers, UnorderedMap.find_modify, if_neg hOther]
          exact h.senders id queue hFind
      keyed := by
        unfold KeyedSpawns
        rw [hActive]
        exact h.keyed }

/-- Drained queues are empty and keep the last numbers. -/
theorem PickupsKept.drainPickups {s : InventoryLootSimulation F} (h : s.PickupsKept) :
    s.drainPickups.2.PickupsKept where
  order := h.order.drain
  counted := by
    have hLength := length_drain s.pickupQueueByPlayer
    have hCounted := h.counted
    change s.queuedPickupCount - s.pickupQueueByPlayer.drain.1.length =
      CommandQueues.queued s.pickupQueueByPlayer.drain.2
    omega
  room := (Nat.sub_le _ _).trans h.room
  senders id queue hFind := h.senders id [] (find_drain hFind).2
  keyed := h.keyed

/-- Only pickups of known players are drained. -/
theorem PickupsKept.known_drained {s : InventoryLootSimulation F} (h : s.PickupsKept) :
    ∀ pickup ∈ s.drainPickups.1, s.drainPickups.2.playersById.find pickup.playerId ≠ none := by
  intro pickup hPickup
  obtain ⟨id, queue, hFind, hMem⟩ := mem_drain hPickup
  rw [h.order.sent id queue hFind pickup hMem]
  exact h.senders id queue hFind

/-- Everything that is drained is answered. -/
theorem PickupsKept.resolveQueuedPickups {s : InventoryLootSimulation F} (h : s.PickupsKept) :
    AnsweredAll s.drainPickups.2 s.resolveQueuedPickups.2.2 s.drainPickups.1
      s.resolveQueuedPickups.1 :=
  answeredAll_resolvePickups s.drainPickups.1 s.drainPickups.2 h.drainPickups.keyed h.known_drained

/-- A tick drains the queues and answers what they held. -/
theorem PickupsKept.resolveTick {s : InventoryLootSimulation F} (h : s.PickupsKept) (tick : Nat)
    (movementStates : List (PlayerMotionState F)) (combatStates : List PlayerCombatState)
    (deaths : List DeathResolution) :
    AnsweredAll (s.looted tick movementStates combatStates deaths).drainPickups.2
        (s.resolveTick tick movementStates combatStates deaths).2
        (s.looted tick movementStates combatStates deaths).drainPickups.1
        (s.resolveTick tick movementStates combatStates deaths).1.pickupResults ∧
      (s.resolveTick tick movementStates combatStates deaths).2.PickupsKept := by
  have hLooted := h.leave (s.leavesPickups_looted tick movementStates combatStates deaths)
  obtain ⟨hState, hResults⟩ := s.resolveTick_eq_looted tick movementStates combatStates deaths
  have hAnswered := hLooted.resolveQueuedPickups
  rw [hState, hResults]
  exact ⟨hAnswered, hLooted.drainPickups.leave hAnswered.leaves⟩

/-- What a tick does, by what it was given. -/
theorem PickupsKept.ticked {s t : InventoryLootSimulation F} (h : s.PickupsKept)
    {tick : PickupTick} (hStep : PickupCall s (.ticked tick) t) :
    ∃ looted : InventoryLootSimulation F, LeavesPickups s looted ∧
      tick.pickups = looted.drainPickups.1 ∧ tick.living = t.livingPlayer ∧
      AnsweredAll looted.drainPickups.2 t looted.drainPickups.1 tick.results := by
  cases hStep with
  | resolveTick number movementStates combatStates deaths =>
      dsimp only
      exact ⟨s.looted number movementStates combatStates deaths,
        s.leavesPickups_looted number movementStates combatStates deaths, rfl, rfl,
        (h.resolveTick number movementStates combatStates deaths).1⟩

/-- The last number of a player outlives the queue. -/
theorem lastEnqueued_drainPickups (s : InventoryLootSimulation F) (id : Nat) :
    s.drainPickups.2.lastEnqueued id = s.lastEnqueued id := rfl

theorem drained_queues (s : InventoryLootSimulation F) :
    s.drainPickups.1 = s.pickupQueueByPlayer.drain.1 ∧
      s.drainPickups.2.pickupQueueByPlayer = s.pickupQueueByPlayer.drain.2 :=
  ⟨rfl, rfl⟩

end InventoryLootSimulation

namespace PickupEvent

/-- What an event does to the queues. -/
def queueEvents : PickupEvent → List (QueueEvent TreasurePickupCommand)
  | .ensured _ => []
  | .removed playerId => [.cleared playerId]
  | .enqueued command .accepted => [.accepted command]
  | .enqueued _ _ => []
  | .ticked tick => [.drained tick.pickups]

/-- The accepted pickups of a player since the last tick or its last removal. -/
def awaiting (playerId : Nat) (trace : List PickupEvent) : List TreasurePickupCommand :=
  QueueEvent.awaiting TreasurePickupCommand.playerId playerId (trace.flatMap queueEvents)

/-- All pickups accepted in a run. -/
def accepted (trace : List PickupEvent) : List TreasurePickupCommand :=
  trace.flatMap fun event =>
    match event with
    | .enqueued command .accepted => [command]
    | _ => []

/-- All results of a run in their order, each with whether its player was alive. -/
def answered (trace : List PickupEvent) : List (TreasurePickupResolution × Bool) :=
  trace.flatMap fun event =>
    match event with
    | .ticked tick => InventoryLootSimulation.withLives tick.living tick.results
    | _ => []

end PickupEvent

namespace InventoryLootSimulation

open PickupEvent

variable {s t : InventoryLootSimulation F} {trace : List PickupEvent}

/-- Every call keeps the queues in order, as a step of the ordered queues. -/
theorem PickupsKept.step {event : PickupEvent} (h : s.PickupsKept) (hStep : PickupCall s event t) :
    t.PickupsKept ∧
      Run (QueueStep TreasurePickupCommand.playerId TreasurePickupCommand.pickupSeq)
        s.pickupQueueByPlayer event.queueEvents t.pickupQueueByPlayer := by
  cases hStep with
  | ensurePlayer playerId =>
      exact ⟨h.leave (s.leavesPickups_ensurePlayer playerId), .nil _⟩
  | removePlayer playerId =>
      refine ⟨h.removePlayer playerId, ?_⟩
      rw [removePlayer_queues]
      exact Run.single (.clear _ playerId)
  | enqueuePickup command =>
      obtain ⟨hQueue, hKept⟩ := h.enqueuePickup command
      refine ⟨hKept, ?_⟩
      rcases hQueue with ⟨hStatus, hQueue⟩ | ⟨hStatus, hLess, hQueue⟩
      · have hNothing : queueEvents (.enqueued command (s.enqueuePickup command).1) = [] := by
          cases hAnswer : (s.enqueuePickup command).1 with
          | accepted => exact absurd hAnswer hStatus
          | outOfOrder => rfl
          | queueFull => rfl
        rw [hNothing, hQueue]
        exact .nil _
      · rw [hStatus, hQueue]
        exact Run.single (.accept _ command hLess)
  | resolveTick tick movementStates combatStates deaths =>
      obtain ⟨hAnswered, hKept⟩ := h.resolveTick tick movementStates combatStates deaths
      have hLeaves := s.leavesPickups_looted tick movementStates combatStates deaths
      refine ⟨hKept, ?_⟩
      obtain ⟨hPickups, hQueues⟩ :=
        drained_queues (s.looted tick movementStates combatStates deaths)
      rw [hAnswered.leaves.queues, hQueues, queueEvents, hPickups, hLeaves.queues]
      exact Run.single (.drain _)

/-- So every run is one of ordered queues. -/
theorem queueRun {definitions : List TreasureDefinition} {config : InventoryLootConfig F}
    (run : Run PickupCall (create definitions config) trace s) :
    s.PickupsKept ∧
      Run (QueueStep TreasurePickupCommand.playerId TreasurePickupCommand.pickupSeq) ∅
        (trace.flatMap queueEvents) s.pickupQueueByPlayer :=
  run.refine (I := PickupsKept) (f := fun s => s.pickupQueueByPlayer)
    (fun _ _ _ h hStep => h.step hStep) (pickupsKept_create definitions config)

theorem accepted_snoc (trace : List PickupEvent) (event : PickupEvent) :
    accepted (trace ++ [event]) = accepted trace ++ accepted [event] := by
  unfold accepted
  rw [List.flatMap_append]

theorem answered_snoc (trace : List PickupEvent) (event : PickupEvent) :
    answered (trace ++ [event]) = answered trace ++ answered [event] := by
  unfold answered
  rw [List.flatMap_append]

/-- The answers of a tick, each with the life of its player. -/
theorem answered_ticked (tick : PickupTick) :
    answered [.ticked tick] = withLives tick.living tick.results :=
  List.append_nil _

/-- No two accepted pickups of a player share a number, for the last one is never forgotten. -/
def AcceptedInOrder (trace : List PickupEvent) (s : InventoryLootSimulation F) : Prop :=
  ∀ id,
    ((accepted trace).filter fun command => command.playerId = id).Pairwise
        (fun a b => a.pickupSeq < b.pickupSeq) ∧
      ∀ command ∈ accepted trace, command.playerId = id → command.pickupSeq ≤ s.lastEnqueued id

/-- A step that accepts nothing. -/
theorem AcceptedInOrder.idle {event : PickupEvent} (h : AcceptedInOrder trace s)
    (hNothing : accepted [event] = []) (hLast : ∀ id, t.lastEnqueued id = s.lastEnqueued id) :
    AcceptedInOrder (trace ++ [event]) t := by
  intro id
  rw [accepted_snoc, hNothing, List.append_nil, hLast]
  exact h id

theorem lastEnqueued_removePlayer (s : InventoryLootSimulation F) (playerId id : Nat) :
    (s.removePlayer playerId).lastEnqueued id = s.lastEnqueued id := by
  obtain ⟨-, -, -, hPlayers⟩ := s.removePlayer_rest playerId
  unfold lastEnqueued
  rw [hPlayers, UnorderedMap.find_modify]
  split
  · rename_i hSame
    rw [hSame]
    cases s.playersById.find playerId with
    | none => rfl
    | some player => rfl
  · rfl

/-- A call keeps the accepted pickups of each player in the order of their numbers. -/
theorem AcceptedInOrder.step {event : PickupEvent} (h : AcceptedInOrder trace s)
    (hKept : s.PickupsKept) (hStep : PickupCall s event t) :
    AcceptedInOrder (trace ++ [event]) t := by
  cases hStep with
  | ensurePlayer playerId => exact h.idle rfl (s.lastEnqueued_ensurePlayer playerId)
  | removePlayer playerId => exact h.idle rfl (s.lastEnqueued_removePlayer playerId)
  | enqueuePickup command =>
      rcases s.enqueuePickup_cases command with
        ⟨hStatus, hState⟩ | ⟨hBehind, hStatus, -, state, -, hState⟩
      · refine h.idle ?_ ?_
        · rcases hStatus with ⟨-, hStatus⟩ | ⟨hStatus, -⟩
          · rw [hStatus]
            rfl
          · rw [hStatus]
            rfl
        · rw [hState]
          exact s.lastEnqueued_ensurePlayer command.playerId
      · rw [behind_inbox, Bool.or_eq_false_iff] at hBehind
        have hPassed : s.lastEnqueued command.playerId < command.pickupSeq :=
          not_le.mp (of_decide_eq_false hBehind.1)
        have hLast : ∀ id, (s.enqueuePickup command).2.lastEnqueued id =
            if id = command.playerId then command.pickupSeq else s.lastEnqueued id := by
          intro id
          rw [hState, ← s.lastEnqueued_ensurePlayer command.playerId id]
          unfold lastEnqueued
          rw [UnorderedMap.find_set]
          split
          · rfl
          · rfl
        intro id
        obtain ⟨hIncreasing, hBound⟩ := h id
        rw [accepted_snoc, hStatus, hLast]
        change (List.filter _ (_ ++ [command])).Pairwise _ ∧ ∀ other ∈ _ ++ [command], _
        by_cases hSame : command.playerId = id
        · rw [List.filter_append, List.filter_cons_of_pos (by simpa using hSame), List.filter_nil,
            if_pos hSame.symm]
          refine ⟨List.pairwise_append.mpr ⟨hIncreasing, List.pairwise_singleton _ _, ?_⟩, ?_⟩
          · intro other hOther newest hNewest
            obtain ⟨hMem, hId⟩ := List.mem_filter.mp hOther
            rw [List.mem_singleton.mp hNewest]
            rw [hSame] at hPassed
            exact (hBound other hMem (of_decide_eq_true hId)).trans_lt hPassed
          · intro other hOther hId
            rcases List.mem_append.mp hOther with hOld | hNew
            · rw [hSame] at hPassed
              exact (hBound other hOld hId).trans hPassed.le
            · rw [List.mem_singleton.mp hNew]
        · rw [List.filter_append, List.filter_cons_of_neg (by simpa using hSame), List.filter_nil,
            List.append_nil, if_neg (Ne.symm hSame)]
          refine ⟨hIncreasing, fun other hOther hId => ?_⟩
          rcases List.mem_append.mp hOther with hOld | hNew
          · exact hBound other hOld hId
          · rw [List.mem_singleton.mp hNew] at hId
            exact absurd hId hSame
  | resolveTick tick movementStates combatStates deaths =>
      have hAnswered := (hKept.resolveTick tick movementStates combatStates deaths).1
      have hLeaves := s.leavesPickups_looted tick movementStates combatStates deaths
      have hSame : ∀ id, (s.resolveTick tick movementStates combatStates deaths).2.lastEnqueued id =
          s.lastEnqueued id := by
        intro id
        rw [hAnswered.leaves.enqueued, lastEnqueued_drainPickups, hLeaves.enqueued]
      exact h.idle rfl hSame

/-- No spawn is collected again, and what was collected is consumed. -/
def CollectedOnce (trace : List PickupEvent) (s : InventoryLootSimulation F) : Prop :=
  (answered trace).Pairwise NotAgain ∧
    ∀ entry ∈ answered trace, entry.1.status = .collected →
      entry.1.spawnId ∈ s.consumedSpawnIds

/-- A step that answers nothing. -/
theorem CollectedOnce.idle {event : PickupEvent} (h : CollectedOnce trace s)
    (hNothing : answered [event] = []) (hConsumed : s.consumedSpawnIds ⊆ t.consumedSpawnIds) :
    CollectedOnce (trace ++ [event]) t := by
  unfold CollectedOnce
  rw [answered_snoc, hNothing, List.append_nil]
  exact ⟨h.1, fun entry hEntry hStatus => hConsumed (h.2 entry hEntry hStatus)⟩

/-- In a tick no spawn is collected that is not on the ground, and a collected one is gone. -/
theorem CollectedOnce.ticked {tick : PickupTick} (h : CollectedOnce trace s)
    (hKept : s.PickupsKept) (hStep : PickupCall s (.ticked tick) t) :
    CollectedOnce (trace ++ [.ticked tick]) t := by
  obtain ⟨looted, hLeaves, -, hLiving, hAnswered⟩ := hKept.ticked hStep
  have hLives : tick.living = looted.drainPickups.2.livingPlayer :=
    hLiving.trans (funext hAnswered.living)
  have hConsumed : s.consumedSpawnIds ⊆ t.consumedSpawnIds :=
    Finset.Subset.trans hLeaves.consumed hAnswered.leaves.consumed
  unfold CollectedOnce
  rw [answered_snoc, answered_ticked, hLives]
  constructor
  · refine List.pairwise_append.mpr ⟨h.1, hAnswered.once, ?_⟩
    intro first hFirst later hLater hStatus hSame
    obtain ⟨result, hResult, rfl⟩ := List.mem_map.mp hLater
    have hTaken := hLeaves.consumed (h.2 first hFirst hStatus)
    dsimp only at hSame ⊢
    rw [← hSame] at hTaken
    exact hAnswered.spent result hResult hTaken
  · intro entry hEntry hStatus
    rcases List.mem_append.mp hEntry with hOld | hNow
    · exact hConsumed (h.2 entry hOld hStatus)
    · obtain ⟨result, hResult, rfl⟩ := List.mem_map.mp hNow
      exact hAnswered.collected result hResult hStatus

/-- Every call keeps it so. -/
theorem CollectedOnce.step {event : PickupEvent} (h : CollectedOnce trace s)
    (hKept : s.PickupsKept) (hStep : PickupCall s event t) :
    CollectedOnce (trace ++ [event]) t := by
  cases hStep with
  | ensurePlayer playerId => exact h.idle rfl (Finset.Subset.refl _)
  | removePlayer playerId =>
      obtain ⟨-, hConsumed, -, -⟩ := s.removePlayer_rest playerId
      refine h.idle rfl ?_
      rw [hConsumed]
  | enqueuePickup command =>
      refine h.idle ?_ ?_
      · unfold answered
        rfl
      · rcases s.enqueuePickup_cases command with ⟨-, hState⟩ | ⟨-, -, -, state, -, hState⟩
        · rw [hState]
          exact Finset.Subset.refl _
        · rw [hState]
          exact Finset.Subset.refl _
  | resolveTick tick movementStates combatStates deaths =>
      exact h.ticked hKept (.resolveTick s tick movementStates combatStates deaths)

/-- Over a whole run. -/
theorem pickup_history {definitions : List TreasureDefinition} {config : InventoryLootConfig F}
    (run : Run PickupCall (create definitions config) trace s) :
    AcceptedInOrder trace s ∧ CollectedOnce trace s := by
  suffices hAll : s.PickupsKept ∧ AcceptedInOrder trace s ∧ CollectedOnce trace s from hAll.2
  apply run.history (I := fun trace s =>
    s.PickupsKept ∧ AcceptedInOrder trace s ∧ CollectedOnce trace s)
  · intro trace s event t ⟨hKept, hOrder, hOnce⟩ hStep
    exact ⟨(hKept.step hStep).1, hOrder.step hKept hStep, hOnce.step hKept hStep⟩
  · refine ⟨pickupsKept_create definitions config, fun id => ⟨List.Pairwise.nil, ?_⟩,
      List.Pairwise.nil, ?_⟩
    · exact fun command hCommand => nomatch hCommand
    · exact fun entry hEntry => nomatch hEntry

/-- Lists with equal keys are sorted alike. -/
theorem results_sorted {tick : PickupTick}
    (hAsked : tick.results.map resultKey = tick.pickups.map commandKey)
    (hSorted : tick.pickups.Pairwise
      (Precedes TreasurePickupCommand.playerId TreasurePickupCommand.pickupSeq)) :
    tick.results.Pairwise
      (Precedes TreasurePickupResolution.playerId TreasurePickupResolution.pickupSeq) := by
  have hKeys : (tick.pickups.map commandKey).Pairwise
      (Precedes (fun key : Nat × Nat × Nat => key.1) fun key => key.2.1) :=
    List.pairwise_map.mpr hSorted
  rw [← hAsked, List.pairwise_map] at hKeys
  exact hKeys

/-- The answers to one player are to its own pickups, in their order. -/
theorem results_filtered {tick : PickupTick}
    (hAsked : tick.results.map resultKey = tick.pickups.map commandKey) (id : Nat) :
    (tick.results.filter fun result => result.playerId = id).map resultKey =
      (tick.pickups.filter fun command => command.playerId = id).map commandKey := by
  have hResults : (tick.results.filter fun result => result.playerId = id).map resultKey =
      (tick.results.map resultKey).filter fun key => key.1 = id := by
    rw [List.filter_map]
    rfl
  rw [hResults, hAsked, List.filter_map]
  rfl

/-- Every accepted pickup is answered once, in the next tick unless its player is removed
before; a spawn is collected once and a duplicate to the living from then on; among the pickups of
a tick, answered in turn, only a collected one moves treasure; and the counter of waiting pickups
is exact and within the capacity. -/
theorem pickups_answered_once {definitions : List TreasureDefinition}
    {config : InventoryLootConfig F} (run : Run PickupCall (create definitions config) trace s) :
    (∀ before tick later, trace = before ++ .ticked tick :: later →
      (∀ id, (tick.results.filter fun result => result.playerId = id).map resultKey =
          (awaiting id before).map commandKey) ∧
        tick.results.Pairwise
          (Precedes TreasurePickupResolution.playerId TreasurePickupResolution.pickupSeq) ∧
        (∀ result ∈ tick.results, result.status ≠ .playerMissing) ∧
        ∃ u v : InventoryLootSimulation F, Run PickupCall (create definitions config) before u ∧
          AnsweredInTurn u v tick ∧ Run PickupCall v later s) ∧
      (∀ id, ((accepted trace).filter fun command => command.playerId = id).Pairwise
        fun a b => a.pickupSeq < b.pickupSeq) ∧
      (answered trace).Pairwise NotAgain ∧
      s.queuedPickupCount = s.pickupQueueByPlayer.queued ∧
      s.queuedPickupCount ≤ s.config.pickupQueueCapacity := by
  obtain ⟨hOrder, hOnce⟩ := pickup_history run
  have hKept := (queueRun run).1
  refine ⟨?_, fun id => (hOrder id).1, hOnce.1, hKept.counted, hKept.room⟩
  rintro before tick later rfl
  obtain ⟨s₁, s₂, hBefore, hTick, hLater⟩ := run.around
  obtain ⟨hKept₁, hQueues₁⟩ := queueRun hBefore
  have hQueues₂ := hQueues₁.trans (hKept₁.step hTick).2
  obtain ⟨looted, -, hPickups, -, hAnswered⟩ := hKept₁.ticked hTick
  have hAsked : tick.results.map resultKey = tick.pickups.map commandKey := by
    rw [hPickups]
    exact hAnswered.asked
  refine ⟨fun id => ?_, ?_, hAnswered.present, s₁, s₂, hBefore, answeredInTurn_of_call hTick, hLater⟩
  · rw [results_filtered hAsked id, filter_batch hQueues₂ id]
    rfl
  · apply results_sorted hAsked
    apply inOrder_empty.batch_sorted hQueues₂
    exact List.mem_append_right _ (List.mem_singleton_self _)

/-- A player next to the first scheduled spawn. -/
def racer (playerId : Nat) : PlayerMotionState ℚ where
  playerId := playerId
  positionX := 54
  positionY := 82

def raceCommand (playerId : Nat) : TreasurePickupCommand where
  playerId := playerId
  pickupSeq := 1
  spawnId := 1

/-- A gem appears. -/
def raceStart : InventoryLootSimulation ℚ :=
  let gem : TreasureDefinition := { id := Bytes.ofString "gem", value := 5, weight := 2 }
  ((create [gem] {}).resolveTick 90 [] [] []).2

/-- Players 2 and 1 ask for it, in this order. -/
def raceAsked : InventoryLootSimulation ℚ :=
  ((raceStart.enqueuePickup (raceCommand 2)).2.enqueuePickup (raceCommand 1)).2

def raceTick : PickupTick where
  pickups := (raceAsked.looted 91 [racer 1, racer 2] [] []).drainPickups.1
  results := (raceAsked.resolveTick 91 [racer 1, racer 2] [] []).1.pickupResults
  living := (raceAsked.resolveTick 91 [racer 1, racer 2] [] []).2.livingPlayer

/-- Player 1 gets the gem and player 2 is told that it is gone, which changes nothing. -/
theorem pickups_answered_once_race :
    raceTick.results.map (fun result => (result.playerId, result.status)) =
        [(1, .collected), (2, .duplicatePickup)] ∧
      (∃ u v : InventoryLootSimulation ℚ, AnsweredInTurn u v raceTick) ∧
      ∃ start ticked : List PickupEvent,
        (raceTick.results.filter fun result => result.playerId = 2).map resultKey =
            (awaiting 2 start).map commandKey ∧
          awaiting 2 start = [raceCommand 2] ∧
          ticked = start ++ [.ticked raceTick] ∧ (answered ticked).Pairwise NotAgain := by
  have hAsked : PickupCall raceStart (.enqueued (raceCommand 2) .accepted) _ :=
    .enqueuePickup raceStart (raceCommand 2)
  have hAskedToo : PickupCall _ (.enqueued (raceCommand 1) .accepted) raceAsked :=
    .enqueuePickup (raceStart.enqueuePickup (raceCommand 2)).2 (raceCommand 1)
  have hTicked : PickupCall raceAsked (.ticked raceTick) _ :=
    .resolveTick raceAsked 91 [racer 1, racer 2] [] []
  have run := ((((Run.nil _).snoc (.resolveTick (create _ {}) 90 [] [] [])).snoc hAsked).snoc
    hAskedToo).snoc hTicked
  obtain ⟨hTicks, -, hOnce, -⟩ := pickups_answered_once run
  obtain ⟨hAnswers, -, -, u, v, -, hTurn, -⟩ := hTicks _ raceTick [] rfl
  exact ⟨by decide +kernel, ⟨u, v, hTurn⟩, _, _, hAnswers 2, rfl, rfl, hOnce⟩

end InventoryLootSimulation

end DevyFps.Server
