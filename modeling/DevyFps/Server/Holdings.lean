import DevyFps.Server.InventoryLimits
import DevyFps.Server.MatchStandings

/-! What a player holds, and what changes it: a death empties an inventory and a collected
pickup adds to it. No other call does either, but for a reset. -/

namespace DevyFps.Server

open Foundations FloatFormat

variable {F : Type} [SingleFloat F]

structure Holdings where
  items : List InventoryItem := []
  totalValue : Int := 0
  totalWeight : Int := 0
  deriving DecidableEq

namespace InventoryLootSimulation

variable {s t : InventoryLootSimulation F}

def holdings (player : PlayerInventoryState F) : Holdings where
  items := player.items
  totalValue := player.totalValue
  totalWeight := player.totalWeight

/-- An unknown player holds nothing. -/
def holdingsOf (s : InventoryLootSimulation F) (playerId : Nat) : Holdings :=
  ((s.playersById.find playerId).map holdings).getD {}

theorem holdingsOf_of_find {playerId : Nat} {player : PlayerInventoryState F}
    (h : s.playersById.find playerId = some player) : s.holdingsOf playerId = holdings player := by
  unfold holdingsOf
  rw [h]
  rfl

/-- Who is not known holds nothing. -/
theorem holdingsOf_of_unknown {playerId : Nat} (h : s.playersById.find playerId = none) :
    s.holdingsOf playerId = {} := by
  unfold holdingsOf
  rw [h]
  rfl

/-- The holdings are read from one table. -/
theorem holdingsOf_congr (h : t.playersById = s.playersById) (id : Nat) :
    t.holdingsOf id = s.holdingsOf id := by
  unfold holdingsOf
  rw [h]

/-- Whoever becomes known holds nothing, as before. -/
theorem holdingsOf_ensurePlayer (s : InventoryLootSimulation F) (playerId id : Nat) :
    (s.ensurePlayer playerId).holdingsOf id = s.holdingsOf id := by
  unfold holdingsOf ensurePlayer
  rw [UnorderedMap.find_tryEmplace]
  split
  · rename_i hId
    rw [hId]
    cases s.playersById.find playerId with
    | none => rfl
    | some player => rfl
  · rfl

/-- A write to one record that moves no treasure. -/
theorem holdingsOf_set {playerId : Nat} {old : PlayerInventoryState F}
    (new : PlayerInventoryState F)
    (hFind : s.playersById.find playerId = some old) (hSame : holdings new = holdings old)
    (hPlayers : t.playersById = s.playersById.set playerId new) (id : Nat) :
    t.holdingsOf id = s.holdingsOf id := by
  unfold holdingsOf
  rw [hPlayers, UnorderedMap.find_set]
  split
  · rename_i hId
    rw [hId, hFind]
    exact hSame
  · rfl

/-- A write that keeps the holdings of its player keeps those of all. -/
theorem holdingsOf_modify {playerId : Nat} {f : PlayerInventoryState F → PlayerInventoryState F}
    (hPlayers : t.playersById = s.playersById.modify playerId f)
    (hSame : ∀ player, holdings (f player) = holdings player) (id : Nat) :
    t.holdingsOf id = s.holdingsOf id := by
  unfold UnorderedMap.modify at hPlayers
  cases hFind : s.playersById.find playerId with
  | none =>
      rw [hFind] at hPlayers
      exact holdingsOf_congr hPlayers id
  | some player =>
      rw [hFind] at hPlayers
      exact holdingsOf_set _ hFind (hSame player) hPlayers id

/-- A removed player keeps what it holds, in the table of the inventories. -/
theorem holdingsOf_removePlayer (s : InventoryLootSimulation F) (playerId id : Nat) :
    (s.removePlayer playerId).holdingsOf id = s.holdingsOf id := by
  have hPlayers : (s.removePlayer playerId).playersById =
      s.playersById.modify playerId fun player =>
        { player with alive := false, positionX := ofRat 0, positionY := ofRat 0 } := by
    unfold removePlayer
    cases s.pickupQueueByPlayer.find playerId with
    | none => rfl
    | some queue => rfl
  exact holdingsOf_modify hPlayers (fun _ => rfl) id

theorem holdingsOf_enqueuePickup (s : InventoryLootSimulation F) (command : TreasurePickupCommand)
    (id : Nat) : (s.enqueuePickup command).2.holdingsOf id = s.holdingsOf id := by
  rw [← s.holdingsOf_ensurePlayer command.playerId id]
  rcases s.enqueuePickup_cases command with ⟨-, hState⟩ | ⟨-, -, -, state, hFind, hState⟩
  · rw [hState]
  · rw [hState]
    exact holdingsOf_set { state with lastEnqueuedPickupSeq := command.pickupSeq } hFind
      rfl rfl id

/-- A loop keeps the holdings of a player if each of its rounds does. -/
theorem holdingsOf_foldl {α : Type} {f : InventoryLootSimulation F → α → InventoryLootSimulation F}
    {id : Nat} (h : ∀ t a, (f t a).holdingsOf id = t.holdingsOf id) (l : List α)
    (s : InventoryLootSimulation F) : (l.foldl f s).holdingsOf id = s.holdingsOf id := by
  induction l generalizing s with
  | nil => rfl
  | cons head rest ih => exact (ih (f s head)).trans (h s head)

/-- What a tick observes moves nothing. -/
theorem holdingsOf_observePlayers (s : InventoryLootSimulation F)
    (movementStates : List (PlayerMotionState F)) (combatStates : List PlayerCombatState)
    (id : Nat) :
    (s.observePlayers movementStates combatStates).holdingsOf id = s.holdingsOf id := by
  have hPosition : ∀ (t : InventoryLootSimulation F) state,
      (t.updatePosition state).holdingsOf id = t.holdingsOf id := fun t state =>
    (holdingsOf_modify (f := fun player =>
      { player with positionX := state.positionX, positionY := state.positionY }) rfl
        (fun _ => rfl) id).trans (t.holdingsOf_ensurePlayer state.playerId id)
  have hAlive : ∀ (t : InventoryLootSimulation F) state,
      (t.updateAlive state).holdingsOf id = t.holdingsOf id := fun t state =>
    (holdingsOf_modify (f := fun player => { player with alive := state.alive }) rfl
      (fun _ => rfl) id).trans (t.holdingsOf_ensurePlayer state.playerId id)
  unfold observePlayers
  rw [holdingsOf_foldl hAlive, holdingsOf_foldl hPosition]

/-- A scheduled spawn lies on the ground. -/
theorem players_spawnScheduled (s : InventoryLootSimulation F) (tick : Nat) :
    (s.spawnScheduled tick).2.playersById = s.playersById := by
  unfold spawnScheduled
  split
  · rfl
  · rfl

/-- Dropped items are placed on the ground before the inventory of the victim is emptied. -/
theorem players_dropItems (s : InventoryLootSimulation F) (tick : Nat) (originX originY : F)
    (itemIndex : Nat) (items : List InventoryItem) :
    (s.dropItems tick originX originY itemIndex items).2.playersById = s.playersById := by
  induction items generalizing s itemIndex with
  | nil => rfl
  | cons item rest ih => exact ih _ (itemIndex + 1)

theorem players_drainPickups (s : InventoryLootSimulation F) :
    s.drainPickups.2.playersById = s.playersById := rfl

/-- Pickups that are taken out of the queues have moved nothing yet. -/
theorem holdingsOf_drainPickups (s : InventoryLootSimulation F) (id : Nat) :
    s.drainPickups.2.holdingsOf id = s.holdingsOf id :=
  holdingsOf_congr s.players_drainPickups id

/-- A death empties the inventory of its victim, unless it is empty, and says so. -/
theorem dropLoot_spec (s : InventoryLootSimulation F) (tick victimId : Nat) :
    (s.dropLoot tick victimId).2.1 =
        (if (s.holdingsOf victimId).items = [] then [] else [victimId]) ∧
      ∀ id, (s.dropLoot tick victimId).2.2.holdingsOf id =
        if id = victimId ∧ (s.holdingsOf victimId).items ≠ [] then {} else s.holdingsOf id := by
  unfold dropLoot
  cases hFind : s.playersById.find victimId with
  | none =>
      rw [holdingsOf_of_unknown hFind]
      exact ⟨rfl, fun id => (if_neg fun h => h.2 rfl).symm⟩
  | some player =>
      have hItems : (s.holdingsOf victimId).items = player.items := by
        rw [holdingsOf_of_find hFind]
        rfl
      dsimp only
      rw [hItems]
      by_cases hEmpty : player.items = []
      · simp [hEmpty]
      · rw [if_neg fun h => hEmpty (List.isEmpty_iff.mp h), if_neg hEmpty]
        refine ⟨rfl, fun id => ?_⟩
        unfold holdingsOf clearItems
        dsimp only
        rw [UnorderedMap.find_modify, players_dropItems, hFind]
        by_cases hId : id = victimId
        · rw [if_pos hId, if_pos ⟨hId, hEmpty⟩]
          rfl
        · rw [if_neg hId, if_neg fun h => hId h.1]

/-- The dead drop all that they hold, and nobody else drops anything; by induction on the deaths.
-/
theorem dropAllLoot_spec (tick : Nat) (deaths : List DeathResolution)
    (s : InventoryLootSimulation F) (id : Nat) :
    (id ∈ (s.dropAllLoot tick deaths).2.1 ↔ Died deaths id ∧ (s.holdingsOf id).items ≠ []) ∧
      (s.dropAllLoot tick deaths).2.2.holdingsOf id =
        if Died deaths id ∧ (s.holdingsOf id).items ≠ [] then {} else s.holdingsOf id := by
  induction deaths generalizing s with
  | nil =>
      have hNobody : ¬ Died [] id := fun ⟨death, hDeath, _⟩ => nomatch hDeath
      rw [if_neg fun h => hNobody h.1]
      exact ⟨iff_of_false List.not_mem_nil fun h => hNobody h.1, rfl⟩
  | cons death rest ih =>
      obtain ⟨hChanged, hHeld⟩ := s.dropLoot_spec tick death.victimId
      obtain ⟨hMem, hLater⟩ := ih (s.dropLoot tick death.victimId).2.2
      have hDied := died_cons death rest id
      have hAll : (s.dropAllLoot tick (death :: rest)).2.1 =
          (s.dropLoot tick death.victimId).2.1 ++
            ((s.dropLoot tick death.victimId).2.2.dropAllLoot tick rest).2.1 := rfl
      have hState : (s.dropAllLoot tick (death :: rest)).2.2 =
          ((s.dropLoot tick death.victimId).2.2.dropAllLoot tick rest).2.2 := rfl
      rw [hAll, hState, List.mem_append, hMem, hLater, hChanged, hHeld id]
      simp only [hDied]
      by_cases hId : id = death.victimId
      · subst hId
        by_cases hEmpty : (s.holdingsOf death.victimId).items = []
        · simp [hEmpty]
        · simp [hEmpty]
      · have hOther : ¬ death.victimId = id := fun h => hId h.symm
        by_cases hEmpty : (s.holdingsOf death.victimId).items = []
        · simp [hId, hOther, hEmpty]
        · simp [hId, hOther, hEmpty]

/-- Deaths count for the loot in the mode that drops all of it only. -/
theorem died_lootDeaths (s : InventoryLootSimulation F) (deaths : List DeathResolution) (id : Nat) :
    Died (s.lootDeaths deaths) id ↔ s.config.lootDropMode = .all ∧ Died deaths id := by
  unfold lootDeaths
  split
  · rename_i hMode
    exact iff_of_false (fun ⟨death, hDeath, _⟩ => nomatch hDeath) fun h => hMode h.1
  · rename_i hMode
    rw [and_iff_right (not_not.mp hMode)]
    split
    · exact Iff.rfl
    · simp [Died]

end InventoryLootSimulation

end DevyFps.Server
