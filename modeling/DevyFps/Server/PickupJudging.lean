import DevyFps.Server.ArrivalOrder

/-! One drained pickup after the other: what an answer depends on, what it changes, and what
a tick leaves alone before it drains the pickups. -/

namespace DevyFps.Server

open Foundations Game

variable {F : Type} [SingleFloat F]

namespace InventoryLootSimulation

def livingPlayer (s : InventoryLootSimulation F) (playerId : Nat) : Bool :=
  ((s.playersById.find playerId).map PlayerInventoryState.alive).getD false

/-- The state in which the pickups of a tick are drained. -/
def looted (s : InventoryLootSimulation F) (tick : Nat)
    (movementStates : List (PlayerMotionState F)) (combatStates : List PlayerCombatState)
    (deaths : List DeathResolution) : InventoryLootSimulation F :=
  ((s.observePlayers movementStates combatStates).spawnAndDrop tick deaths).2.2

/-- A tick moves loot first, and then answers the pickups that have waited. -/
theorem resolveTick_eq_looted (s : InventoryLootSimulation F) (tick : Nat)
    (movementStates : List (PlayerMotionState F)) (combatStates : List PlayerCombatState)
    (deaths : List DeathResolution) :
    (s.resolveTick tick movementStates combatStates deaths).2 =
        (s.looted tick movementStates combatStates deaths).resolveQueuedPickups.2.2 ∧
      (s.resolveTick tick movementStates combatStates deaths).1.pickupResults =
        (s.looted tick movementStates combatStates deaths).resolveQueuedPickups.1 := by
  rw [state_resolveTick, pickupResults_resolveTick, looted]
  exact ⟨rfl, rfl⟩

/-- The queues are drained before the first pickup is answered. -/
theorem resolveQueuedPickups_eq (s : InventoryLootSimulation F) :
    s.resolveQueuedPickups = s.drainPickups.2.resolvePickups s.drainPickups.1 := rfl

/-- Every active spawn is stored under its own id. -/
def KeyedSpawns (s : InventoryLootSimulation F) : Prop :=
  ∀ id spawn, s.activeSpawnsById.find id = some spawn → spawn.spawnId = id

/-- A step that touches no waiting pickup and forgets no player and no consumed spawn. -/
structure LeavesPickups (s t : InventoryLootSimulation F) : Prop where
  queues : t.pickupQueueByPlayer = s.pickupQueueByPlayer
  count : t.queuedPickupCount = s.queuedPickupCount
  config : t.config = s.config
  consumed : s.consumedSpawnIds ⊆ t.consumedSpawnIds
  enqueued : ∀ id, t.lastEnqueued id = s.lastEnqueued id
  known : ∀ id, s.playersById.find id ≠ none → t.playersById.find id ≠ none
  keyed : s.KeyedSpawns → t.KeyedSpawns

namespace LeavesPickups

variable {s t u : InventoryLootSimulation F}

theorem refl (s : InventoryLootSimulation F) : LeavesPickups s s :=
  ⟨rfl, rfl, rfl, Finset.Subset.refl _, fun _ => rfl, fun _ h => h, fun h => h⟩

/-- What leaves the pickups alone twice leaves them alone. -/
theorem trans (h : LeavesPickups s t) (h' : LeavesPickups t u) : LeavesPickups s u where
  queues := h'.queues.trans h.queues
  count := h'.count.trans h.count
  config := h'.config.trans h.config
  consumed := h.consumed.trans h'.consumed
  enqueued id := (h'.enqueued id).trans (h.enqueued id)
  known id hKnown := h'.known id (h.known id hKnown)
  keyed hKeyed := h'.keyed (h.keyed hKeyed)

/-- A loop leaves the pickups alone if each of its rounds does. -/
theorem foldl {α : Type} {f : InventoryLootSimulation F → α → InventoryLootSimulation F}
    (h : ∀ s a, LeavesPickups s (f s a)) (l : List α) (s : InventoryLootSimulation F) :
    LeavesPickups s (l.foldl f s) := by
  induction l generalizing s with
  | nil => exact refl s
  | cons head rest ih => exact (h s head).trans (ih (f s head))

end LeavesPickups

theorem find_ensurePlayer_of_known (s : InventoryLootSimulation F) (playerId : Nat) {id : Nat}
    (h : s.playersById.find id ≠ none) : (s.ensurePlayer playerId).playersById.find id ≠ none := by
  unfold ensurePlayer
  rw [UnorderedMap.find_tryEmplace]
  split
  · exact Option.some_ne_none _
  · exact h

theorem leavesPickups_ensurePlayer (s : InventoryLootSimulation F) (playerId : Nat) :
    LeavesPickups s (s.ensurePlayer playerId) where
  queues := rfl
  count := rfl
  config := rfl
  consumed := Finset.Subset.refl _
  enqueued := s.lastEnqueued_ensurePlayer playerId
  known _ := s.find_ensurePlayer_of_known playerId
  keyed hKeyed := hKeyed

/-- A write to a player record that keeps the last enqueued pickup. -/
theorem leavesPickups_modify (s : InventoryLootSimulation F) (playerId : Nat)
    (f : PlayerInventoryState F → PlayerInventoryState F)
    (hLast : ∀ player, (f player).lastEnqueuedPickupSeq = player.lastEnqueuedPickupSeq) :
    LeavesPickups s { s with playersById := s.playersById.modify playerId f } where
  queues := rfl
  count := rfl
  config := rfl
  consumed := Finset.Subset.refl _
  enqueued id := by
    unfold lastEnqueued
    rw [UnorderedMap.find_modify]
    split
    · rename_i hSame
      rw [hSame]
      cases s.playersById.find playerId with
      | none => rfl
      | some player => exact hLast player
    · rfl
  known id hKnown := by
    rw [UnorderedMap.find_modify]
    split
    · rename_i hSame
      rwa [hSame, Ne, ← Option.map_eq_none_iff (f := f)] at hKnown
    · exact hKnown
  keyed hKeyed := hKeyed

/-- What a tick observes does not touch the pickups that wait. -/
theorem leavesPickups_observePlayers (s : InventoryLootSimulation F)
    (movementStates : List (PlayerMotionState F)) (combatStates : List PlayerCombatState) :
    LeavesPickups s (s.observePlayers movementStates combatStates) := by
  have hPosition : ∀ (t : InventoryLootSimulation F) state,
      LeavesPickups t (t.updatePosition state) := fun t state =>
    (t.leavesPickups_ensurePlayer state.playerId).trans (leavesPickups_modify _ _ _ fun _ => rfl)
  have hAlive : ∀ (t : InventoryLootSimulation F) state,
      LeavesPickups t (t.updateAlive state) := fun t state =>
    (t.leavesPickups_ensurePlayer state.playerId).trans (leavesPickups_modify _ _ _ fun _ => rfl)
  exact (LeavesPickups.foldl hPosition movementStates s).trans
    (LeavesPickups.foldl hAlive combatStates _)

theorem leavesPickups_place (s : InventoryLootSimulation F) (spawn : TreasureSpawnInstance F) :
    LeavesPickups s (s.place spawn) where
  queues := rfl
  count := rfl
  config := rfl
  consumed := Finset.Subset.refl _
  enqueued _ := rfl
  known _ hKnown := hKnown
  keyed hKeyed id found hFind := by
    change (s.activeSpawnsById.set spawn.spawnId spawn).find id = some found at hFind
    rw [UnorderedMap.find_set] at hFind
    split at hFind
    · rename_i hId
      injection hFind with hFound
      rw [← hFound, hId]
    · exact hKeyed id found hFind

/-- Nor does the scheduled spawn. -/
theorem leavesPickups_spawnScheduled (s : InventoryLootSimulation F) (tick : Nat) :
    LeavesPickups s (s.spawnScheduled tick).2 := by
  have hCounted : LeavesPickups s (s.createScheduledSpawn tick).2 :=
    ⟨rfl, rfl, rfl, Finset.Subset.refl _, fun _ => rfl, fun _ h => h, fun h => h⟩
  unfold spawnScheduled
  split
  · exact hCounted.trans (leavesPickups_place _ _)
  · exact .refl s

theorem leavesPickups_dropItems (s : InventoryLootSimulation F) (tick : Nat) (originX originY : F)
    (itemIndex : Nat) (items : List InventoryItem) :
    LeavesPickups s (s.dropItems tick originX originY itemIndex items).2 := by
  induction items generalizing s itemIndex with
  | nil => exact .refl s
  | cons item rest ih =>
      have hCounted : LeavesPickups s
          (s.createDeathDropSpawn tick item.treasure originX originY itemIndex).2 :=
        ⟨rfl, rfl, rfl, Finset.Subset.refl _, fun _ => rfl, fun _ h => h, fun h => h⟩
      exact (hCounted.trans (leavesPickups_place _ _)).trans (ih _ _)

/-- Nor do the drops. -/
theorem leavesPickups_dropLoot (s : InventoryLootSimulation F) (tick victimId : Nat) :
    LeavesPickups s (s.dropLoot tick victimId).2.2 := by
  unfold dropLoot
  cases s.playersById.find victimId with
  | none => exact .refl s
  | some player =>
      dsimp only
      split
      · exact .refl s
      · exact (s.leavesPickups_dropItems tick _ _ _ _).trans
          (leavesPickups_modify _ _ _ fun _ => rfl)

theorem leavesPickups_dropAllLoot (tick : Nat) (deaths : List DeathResolution)
    (s : InventoryLootSimulation F) : LeavesPickups s (s.dropAllLoot tick deaths).2.2 := by
  induction deaths generalizing s with
  | nil => exact .refl s
  | cons death rest ih => exact (s.leavesPickups_dropLoot tick death.victimId).trans (ih _)

/-- The part of a tick before its pickups, in one step. -/
theorem leavesPickups_looted (s : InventoryLootSimulation F) (tick : Nat)
    (movementStates : List (PlayerMotionState F)) (combatStates : List PlayerCombatState)
    (deaths : List DeathResolution) :
    LeavesPickups s (s.looted tick movementStates combatStates deaths) :=
  ((s.leavesPickups_observePlayers movementStates combatStates).trans
    (leavesPickups_spawnScheduled _ tick)).trans (leavesPickups_dropAllLoot tick _ _)

/-- What a player holds and what it is worth. -/
def inventoryOf (s : InventoryLootSimulation F) (playerId : Nat) :
    Option (List InventoryItem × Int × Int) :=
  (s.playersById.find playerId).map fun player =>
    (player.items, player.totalValue, player.totalWeight)

/-- A drained pickup and its result, with the states before and after it. -/
structure Answered (s t : InventoryLootSimulation F) (pickup : TreasurePickupCommand)
    (result : TreasurePickupResolution) : Prop where
  asked : result.playerId = pickup.playerId ∧ result.pickupSeq = pickup.pickupSeq ∧
    result.spawnId = pickup.spawnId
  leaves : LeavesPickups s t
  living : ∀ id, t.livingPlayer id = s.livingPlayer id
  collected : s.KeyedSpawns → result.status = .collected → pickup.spawnId ∈ t.consumedSpawnIds
  spent : s.playersById.find pickup.playerId ≠ none → pickup.spawnId ∈ s.consumedSpawnIds →
    result.status = if s.livingPlayer pickup.playerId then .duplicatePickup else .playerDead
  present : s.playersById.find pickup.playerId ≠ none → result.status ≠ .playerMissing
  refused : result.status ≠ .collected →
    (∀ id, t.inventoryOf id = s.inventoryOf id) ∧ t.activeSpawnsById = s.activeSpawnsById

/-- A player after the sequence number of a drained pickup is noted. -/
def notePickup (before : PlayerInventoryState F) (pickupSeq : Nat) : PlayerInventoryState F :=
  { before with lastPickupSeq := max before.lastPickupSeq pickupSeq }

/-- The state in which a pickup is judged. -/
def noted (s : InventoryLootSimulation F) (pickup : TreasurePickupCommand)
    (before : PlayerInventoryState F) : InventoryLootSimulation F :=
  { s with
    playersById := s.playersById.set pickup.playerId (notePickup before pickup.pickupSeq) }

/-- A pickup is answered for a missing player, refused or granted. -/
theorem resolvePickup_cases (s : InventoryLootSimulation F) (pickup : TreasurePickupCommand) :
    (s.playersById.find pickup.playerId = none ∧
        (s.resolvePickup pickup).1.status = .playerMissing ∧ (s.resolvePickup pickup).2.2 = s) ∨
      ∃ before, s.playersById.find pickup.playerId = some before ∧
        ((∃ status,
            (s.noted pickup before).judgePickup (notePickup before pickup.pickupSeq)
                pickup.spawnId = .error status ∧
              (s.resolvePickup pickup).1.status = status ∧
              (s.resolvePickup pickup).2.2 = s.noted pickup before) ∨
          ∃ spawn,
            (s.noted pickup before).judgePickup (notePickup before pickup.pickupSeq)
                pickup.spawnId = .ok spawn ∧
              (s.resolvePickup pickup).1.status = .collected ∧
              (s.resolvePickup pickup).2.2 =
                ((s.noted pickup before).collect pickup.playerId
                  (notePickup before pickup.pickupSeq) pickup.spawnId spawn).2) := by
  cases hFind : s.playersById.find pickup.playerId with
  | none =>
      left
      unfold resolvePickup
      rw [hFind]
      exact ⟨rfl, rfl, rfl⟩
  | some before =>
      right
      refine ⟨before, rfl, ?_⟩
      have hEq := resolvePickup.eq_1 s pickup
      rw [hFind] at hEq
      dsimp only at hEq
      cases hJudged : (s.noted pickup before).judgePickup (notePickup before pickup.pickupSeq)
        pickup.spawnId with
      | error status =>
          left
          unfold noted notePickup at hJudged
          rw [hJudged] at hEq
          rw [hEq]
          exact ⟨status, rfl, rfl, rfl⟩
      | ok spawn =>
          right
          unfold noted notePickup at hJudged
          rw [hJudged] at hEq
          rw [hEq]
          exact ⟨spawn, rfl, rfl, rfl⟩

/-- An answer names the player, the number and the spawn of its pickup. -/
theorem asked_resolvePickup (s : InventoryLootSimulation F) (pickup : TreasurePickupCommand) :
    (s.resolvePickup pickup).1.playerId = pickup.playerId ∧
      (s.resolvePickup pickup).1.pickupSeq = pickup.pickupSeq ∧
      (s.resolvePickup pickup).1.spawnId = pickup.spawnId := by
  unfold resolvePickup
  cases s.playersById.find pickup.playerId with
  | none => exact ⟨rfl, rfl, rfl⟩
  | some before =>
      dsimp only
      split
      · exact ⟨rfl, rfl, rfl⟩
      · exact ⟨rfl, rfl, rfl⟩

theorem leavesPickups_noted {s : InventoryLootSimulation F} {pickup : TreasurePickupCommand}
    {before : PlayerInventoryState F} (h : s.playersById.find pickup.playerId = some before) :
    LeavesPickups s (s.noted pickup before) where
  queues := rfl
  count := rfl
  config := rfl
  consumed := Finset.Subset.refl _
  enqueued id := by
    unfold noted lastEnqueued
    rw [UnorderedMap.find_set]
    split
    · rename_i hSame
      rw [hSame, h]
      rfl
    · rfl
  known id hKnown := by
    unfold noted
    rw [UnorderedMap.find_set]
    split
    · exact Option.some_ne_none _
    · exact hKnown
  keyed hKeyed := hKeyed

/-- To note the number of a pickup changes nobody's life. -/
theorem livingPlayer_noted {s : InventoryLootSimulation F} {pickup : TreasurePickupCommand}
    {before : PlayerInventoryState F} (h : s.playersById.find pickup.playerId = some before)
    (id : Nat) : (s.noted pickup before).livingPlayer id = s.livingPlayer id := by
  unfold noted livingPlayer
  rw [UnorderedMap.find_set]
  split
  · rename_i hSame
    rw [hSame, h]
    rfl
  · rfl

/-- Nor anybody's inventory. -/
theorem inventoryOf_noted {s : InventoryLootSimulation F} {pickup : TreasurePickupCommand}
    {before : PlayerInventoryState F} (h : s.playersById.find pickup.playerId = some before)
    (id : Nat) : (s.noted pickup before).inventoryOf id = s.inventoryOf id := by
  unfold noted inventoryOf
  rw [UnorderedMap.find_set]
  split
  · rename_i hSame
    rw [hSame, h]
    rfl
  · rfl

/-- The noted player is as before but for its last number. -/
theorem find_noted_self (s : InventoryLootSimulation F) (pickup : TreasurePickupCommand)
    (before : PlayerInventoryState F) :
    (s.noted pickup before).playersById.find pickup.playerId =
      some (notePickup before pickup.pickupSeq) := by
  unfold noted
  rw [UnorderedMap.find_set, if_pos rfl]

/-- A collected spawn changes the player who collects it only. -/
theorem find_collect (s : InventoryLootSimulation F) (playerId : Nat)
    (player : PlayerInventoryState F) (spawnId : Nat) (spawn : TreasureSpawnInstance F) (id : Nat) :
    (s.collect playerId player spawnId spawn).2.playersById.find id =
      if id = playerId then some (s.collect playerId player spawnId spawn).1
      else s.playersById.find id :=
  UnorderedMap.find_set _ _ _ _

/-- The granted player keeps the last enqueued pickup. -/
theorem leavesPickups_collect {s : InventoryLootSimulation F} {playerId : Nat}
    {player : PlayerInventoryState F} (h : s.playersById.find playerId = some player)
    (spawnId : Nat) (spawn : TreasureSpawnInstance F) :
    LeavesPickups s (s.collect playerId player spawnId spawn).2 where
  queues := rfl
  count := rfl
  config := rfl
  consumed := Finset.subset_insert _ _
  enqueued id := by
    unfold lastEnqueued
    rw [find_collect]
    split
    · rename_i hSame
      rw [hSame, h]
      rfl
    · rfl
  known id hKnown := by
    rw [find_collect]
    split
    · exact Option.some_ne_none _
    · exact hKnown
  keyed hKeyed id found hFound := by
    change (s.activeSpawnsById.erase spawnId).find id = some found at hFound
    rw [UnorderedMap.find_erase] at hFound
    split at hFound
    · cases hFound
    · exact hKeyed id found hFound

/-- The granted player keeps its life. -/
theorem livingPlayer_collect {s : InventoryLootSimulation F} {playerId : Nat}
    {player : PlayerInventoryState F} (h : s.playersById.find playerId = some player)
    (spawnId : Nat) (spawn : TreasureSpawnInstance F) (id : Nat) :
    (s.collect playerId player spawnId spawn).2.livingPlayer id = s.livingPlayer id := by
  unfold livingPlayer
  rw [find_collect]
  split
  · rename_i hSame
    rw [hSame, h]
    rfl
  · rfl

/-- A pickup is answered by what is known of its player and its spawn when its turn comes. -/
theorem answered_resolvePickup (s : InventoryLootSimulation F) (pickup : TreasurePickupCommand) :
    Answered s (s.resolvePickup pickup).2.2 pickup (s.resolvePickup pickup).1 := by
  have hAsked := s.asked_resolvePickup pickup
  rcases s.resolvePickup_cases pickup with ⟨hMissing, hStatus, hState⟩ |
    ⟨before, hFind, ⟨status, hJudged, hStatus, hState⟩ | ⟨spawn, hJudged, hStatus, hState⟩⟩
  · rw [hState]
    exact
      { asked := hAsked
        leaves := .refl s
        living := fun _ => rfl
        collected := fun _ hCollected => nomatch hStatus.symm.trans hCollected
        spent := fun hKnown => absurd hMissing hKnown
        present := fun hKnown => absurd hMissing hKnown
        refused := fun _ => ⟨fun _ => rfl, rfl⟩ }
  · obtain ⟨hNotCollected, hNotMissing⟩ := judgePickup_error hJudged
    rw [hState]
    exact
      { asked := hAsked
        leaves := leavesPickups_noted hFind
        living := livingPlayer_noted hFind
        collected := fun _ hCollected => absurd (hStatus.symm.trans hCollected) hNotCollected
        spent := by
          intro _ hSpent
          rw [judgePickup_spent (s := s.noted pickup before) _ hSpent] at hJudged
          injection hJudged with hJudged
          rw [hStatus, ← hJudged]
          unfold livingPlayer
          rw [hFind]
          rfl
        present := fun _ => hStatus ▸ hNotMissing
        refused := fun _ => ⟨inventoryOf_noted hFind, rfl⟩ }
  · obtain ⟨hActive, hFresh⟩ := judgePickup_ok hJudged
    have hNoted := s.find_noted_self pickup before
    rw [hState]
    exact
      { asked := hAsked
        leaves := (leavesPickups_noted hFind).trans (leavesPickups_collect hNoted _ _)
        living := fun id => (livingPlayer_collect hNoted _ _ id).trans (livingPlayer_noted hFind id)
        collected := by
          intro hKeyed _
          rw [← hKeyed pickup.spawnId spawn hActive]
          exact Finset.mem_insert_self _ _
        spent := fun _ hSpent => absurd hSpent hFresh
        present := fun _ hMissing => nomatch hStatus.symm.trans hMissing
        refused := fun hRefused => absurd hStatus hRefused }

/-- To answer pickups queues none. -/
theorem leavesPickups_resolvePickups (pickups : List TreasurePickupCommand)
    (s : InventoryLootSimulation F) :
    LeavesPickups s (s.resolvePickups pickups).2.2 := by
  induction pickups generalizing s with
  | nil => exact .refl s
  | cons pickup rest ih => exact (s.answered_resolvePickup pickup).leaves.trans (ih _)

/-- What identifies a pickup, in the command and in its result. -/
def commandKey (pickup : TreasurePickupCommand) : Nat × Nat × Nat :=
  (pickup.playerId, pickup.pickupSeq, pickup.spawnId)

def resultKey (result : TreasurePickupResolution) : Nat × Nat × Nat :=
  (result.playerId, result.pickupSeq, result.spawnId)

/-- The answer to whoever asks for a spawn that was collected before. -/
def spentStatus (alive : Bool) : TreasurePickupResolveStatus :=
  if alive then .duplicatePickup else .playerDead

/-- If the first result collects a spawn, the later one, for a player who lives or not, does
not collect it again. -/
def NotAgain (first later : TreasurePickupResolution × Bool) : Prop :=
  first.1.status = .collected → later.1.spawnId = first.1.spawnId →
    later.1.status = spentStatus later.2

/-- Each result with the life of its player. -/
def withLives (living : Nat → Bool) (results : List TreasurePickupResolution) :
    List (TreasurePickupResolution × Bool) :=
  results.map fun result => (result, living result.playerId)

/-- The drained pickups of a tick and their results, with the states before and after. -/
structure AnsweredAll (s t : InventoryLootSimulation F) (pickups : List TreasurePickupCommand)
    (results : List TreasurePickupResolution) : Prop where
  asked : results.map resultKey = pickups.map commandKey
  leaves : LeavesPickups s t
  living : ∀ id, t.livingPlayer id = s.livingPlayer id
  present : ∀ result ∈ results, result.status ≠ .playerMissing
  collected : ∀ result ∈ results, result.status = .collected → result.spawnId ∈ t.consumedSpawnIds
  spent : ∀ result ∈ results, result.spawnId ∈ s.consumedSpawnIds →
    result.status = spentStatus (s.livingPlayer result.playerId)
  once : (withLives s.livingPlayer results).Pairwise NotAgain

/-- All drained pickups are answered one after the other, each in the state that those before it
leave; by induction on the list. -/
theorem answeredAll_resolvePickups (pickups : List TreasurePickupCommand)
    (s : InventoryLootSimulation F) (hKeyed : s.KeyedSpawns)
    (hKnown : ∀ pickup ∈ pickups, s.playersById.find pickup.playerId ≠ none) :
    AnsweredAll s (s.resolvePickups pickups).2.2 pickups (s.resolvePickups pickups).1 := by
  induction pickups generalizing s with
  | nil =>
      exact
        { asked := rfl
          leaves := .refl s
          living := fun _ => rfl
          present := fun result hResult => nomatch hResult
          collected := fun result hResult => nomatch hResult
          spent := fun result hResult => nomatch hResult
          once := List.Pairwise.nil }
  | cons pickup rest ih =>
      have hFirst := s.answered_resolvePickup pickup
      have hRest := ih (s.resolvePickup pickup).2.2 (hFirst.leaves.keyed hKeyed)
        fun other hOther => hFirst.leaves.known _ (hKnown other (List.mem_cons_of_mem _ hOther))
      have hSender := hKnown pickup List.mem_cons_self
      obtain ⟨hPlayer, hSeq, hSpawn⟩ := hFirst.asked
      have hLives : (s.resolvePickup pickup).2.2.livingPlayer = s.livingPlayer :=
        funext hFirst.living
      have hResults : (s.resolvePickups (pickup :: rest)).1 =
          (s.resolvePickup pickup).1 :: ((s.resolvePickup pickup).2.2.resolvePickups rest).1 := rfl
      have hState : (s.resolvePickups (pickup :: rest)).2.2 =
          ((s.resolvePickup pickup).2.2.resolvePickups rest).2.2 := rfl
      rw [hResults, hState]
      exact
        { asked := by
            rw [List.map_cons, List.map_cons, hRest.asked, resultKey, hPlayer, hSeq, hSpawn,
              commandKey]
          leaves := hFirst.leaves.trans hRest.leaves
          living := fun id => (hRest.living id).trans (hFirst.living id)
          present := by
            intro result hResult
            cases hResult with
            | head => exact hFirst.present hSender
            | tail _ hLater => exact hRest.present result hLater
          collected := by
            intro result hResult hStatus
            cases hResult with
            | head =>
                rw [hSpawn]
                exact hRest.leaves.consumed (hFirst.collected hKeyed hStatus)
            | tail _ hLater => exact hRest.collected result hLater hStatus
          spent := by
            intro result hResult hSpent
            cases hResult with
            | head =>
                rw [hSpawn] at hSpent
                rw [hPlayer]
                exact hFirst.spent hSender hSpent
            | tail _ hLater =>
                rw [← hLives]
                exact hRest.spent result hLater (hFirst.leaves.consumed hSpent)
          once := by
            have hOnce := hRest.once
            rw [hLives] at hOnce
            refine List.Pairwise.cons ?_ hOnce
            intro later hLater hStatus hSame
            obtain ⟨result, hResult, rfl⟩ := List.mem_map.mp hLater
            have hTaken := hFirst.collected hKeyed hStatus
            rw [← hSpawn] at hTaken
            dsimp only at hSame ⊢
            rw [← hSame] at hTaken
            rw [← hLives]
            exact hRest.spent result hResult hTaken }

end InventoryLootSimulation

end DevyFps.Server
