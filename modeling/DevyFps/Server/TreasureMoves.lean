import DevyFps.Server.PickupJudging
import Mathlib.Logic.Relation

/-! How treasure moves. Every call is a series of few kinds of moves, so what each of them keeps is
kept by all calls. -/

namespace DevyFps.Server

open Foundations Game

variable {F : Type} [SingleFloat F]

/-- The arguments of one `resolve_tick`. -/
structure LootTickCall (F : Type) [SingleFloat F] where
  tick : Nat := 0
  movementStates : List (PlayerMotionState F) := []
  combatStates : List PlayerCombatState := []
  deaths : List DeathResolution := []

inductive LootAction (F : Type) [SingleFloat F] where
  | reset
  | ensurePlayer (playerId : Nat)
  | removePlayer (playerId : Nat)
  | enqueuePickup (command : TreasurePickupCommand)
  | resolveTick (call : LootTickCall F)

namespace InventoryLootSimulation

def tickWith (s : InventoryLootSimulation F) (call : LootTickCall F) :
    InventoryLootTickResult F × InventoryLootSimulation F :=
  s.resolveTick call.tick call.movementStates call.combatStates call.deaths

def act (s : InventoryLootSimulation F) : LootAction F → InventoryLootSimulation F
  | .reset => s.reset
  | .ensurePlayer playerId => s.ensurePlayer playerId
  | .removePlayer playerId => s.removePlayer playerId
  | .enqueuePickup command => (s.enqueuePickup command).2
  | .resolveTick call => (s.tickWith call).2

/-- A tick among the operations, without what it answers. -/
theorem act_resolveTick (s : InventoryLootSimulation F) (call : LootTickCall F) :
    s.act (.resolveTick call) = (s.tickWith call).2 := rfl

/-- The state in which the pickups of the tick are drained. -/
def lootedWith (s : InventoryLootSimulation F) (call : LootTickCall F) :
    InventoryLootSimulation F :=
  s.looted call.tick call.movementStates call.combatStates call.deaths

/-- A tick loots first and resolves the pickups that waited after it. -/
theorem state_tickWith (s : InventoryLootSimulation F) (call : LootTickCall F) :
    (s.tickWith call).2 =
      ((s.lootedWith call).drainPickups.2.resolvePickups
        (s.lootedWith call).drainPickups.1).2.2 := by
  unfold tickWith lootedWith
  rw [← resolveQueuedPickups_eq, state_resolveTick, looted]

/-- The answers of a tick are those to the pickups that waited. -/
theorem pickupResults_tickWith (s : InventoryLootSimulation F) (call : LootTickCall F) :
    (s.tickWith call).1.pickupResults =
      ((s.lootedWith call).drainPickups.2.resolvePickups (s.lootedWith call).drainPickups.1).1 := by
  unfold tickWith lootedWith
  rw [← resolveQueuedPickups_eq, pickupResults_resolveTick, looted]

/-- The simulation after a list of calls. -/
def history (s : InventoryLootSimulation F) (actions : List (LootAction F)) :
    InventoryLootSimulation F :=
  actions.foldl act s

/-- The same inventory in two records. -/
structure SameHoldings (player player' : PlayerInventoryState F) : Prop where
  playerId : player'.playerId = player.playerId
  items : player'.items = player.items
  totalValue : player'.totalValue = player.totalValue
  totalWeight : player'.totalWeight = player.totalWeight

/-- A player without anything, as a new record has it. -/
structure Empty (id : Nat) (player : PlayerInventoryState F) : Prop where
  playerId : player.playerId = id
  items : player.items = []
  totalValue : player.totalValue = 0
  totalWeight : player.totalWeight = 0

variable {s t u : InventoryLootSimulation F}

/-- A step that moves no treasure: every record keeps its inventory or is new. -/
structure KeepsHoldings (s t : InventoryLootSimulation F) : Prop where
  config : t.config = s.config
  definitions : t.treasureDefinitions = s.treasureDefinitions
  spawns : t.activeSpawnsById = s.activeSpawnsById
  players : ∀ id player', t.playersById.find id = some player' →
    Empty id player' ∨ ∃ player, s.playersById.find id = some player ∧ SameHoldings player player'

namespace KeepsHoldings

theorem refl (s : InventoryLootSimulation F) : KeepsHoldings s s :=
  ⟨rfl, rfl, rfl, fun _ player hFind => Or.inr ⟨player, hFind, rfl, rfl, rfl, rfl⟩⟩

/-- Holdings that are kept twice are kept. -/
theorem trans (h : KeepsHoldings s t) (h' : KeepsHoldings t u) : KeepsHoldings s u where
  config := h'.config.trans h.config
  definitions := h'.definitions.trans h.definitions
  spawns := h'.spawns.trans h.spawns
  players id player' hFind := by
    rcases h'.players id player' hFind with hEmpty | ⟨middle, hMiddle, hSame'⟩
    · exact Or.inl hEmpty
    · rcases h.players id middle hMiddle with hEmpty | ⟨player, hPlayer, hSame⟩
      · exact Or.inl ⟨hSame'.playerId.trans hEmpty.playerId, hSame'.items.trans hEmpty.items,
          hSame'.totalValue.trans hEmpty.totalValue, hSame'.totalWeight.trans hEmpty.totalWeight⟩
      · exact Or.inr ⟨player, hPlayer, hSame'.playerId.trans hSame.playerId,
          hSame'.items.trans hSame.items, hSame'.totalValue.trans hSame.totalValue,
          hSame'.totalWeight.trans hSame.totalWeight⟩

/-- A loop keeps the holdings that each of its rounds keeps. -/
theorem foldl {α : Type} {f : InventoryLootSimulation F → α → InventoryLootSimulation F}
    (h : ∀ s a, KeepsHoldings s (f s a)) (l : List α) (s : InventoryLootSimulation F) :
    KeepsHoldings s (l.foldl f s) := by
  induction l generalizing s with
  | nil => exact refl s
  | cons head rest ih => exact (h s head).trans (ih (f s head))

end KeepsHoldings

/-- Whoever becomes known holds nothing. -/
theorem keepsHoldings_ensurePlayer (s : InventoryLootSimulation F) (playerId : Nat) :
    KeepsHoldings s (s.ensurePlayer playerId) where
  config := rfl
  definitions := rfl
  spawns := rfl
  players id player' hFind := by
    unfold ensurePlayer at hFind
    rw [UnorderedMap.find_tryEmplace] at hFind
    split at hFind
    · rename_i hId
      rw [hId]
      cases hOld : s.playersById.find playerId with
      | none =>
          rw [hOld] at hFind
          injection hFind with hFind
          exact Or.inl (hFind ▸ ⟨rfl, rfl, rfl, rfl⟩)
      | some player =>
          rw [hOld] at hFind
          injection hFind with hFind
          exact Or.inr ⟨player, rfl, hFind ▸ ⟨rfl, rfl, rfl, rfl⟩⟩
    · exact Or.inr ⟨player', hFind, rfl, rfl, rfl, rfl⟩

/-- A write to one record that leaves its inventory alone. -/
theorem keepsHoldings_set {playerId : Nat} {player player' : PlayerInventoryState F}
    (hFind : s.playersById.find playerId = some player)
    (hPlayers : t.playersById = s.playersById.set playerId player')
    (hSame : SameHoldings player player') (hConfig : t.config = s.config)
    (hDefinitions : t.treasureDefinitions = s.treasureDefinitions)
    (hSpawns : t.activeSpawnsById = s.activeSpawnsById) : KeepsHoldings s t where
  config := hConfig
  definitions := hDefinitions
  spawns := hSpawns
  players id found hFound := by
    rw [hPlayers, UnorderedMap.find_set] at hFound
    split at hFound
    · rename_i hId
      injection hFound with hFound
      exact Or.inr ⟨player, hId ▸ hFind, hFound ▸ hSame⟩
    · exact Or.inr ⟨found, hFound, rfl, rfl, rfl, rfl⟩

/-- A write to a player that keeps what it holds keeps the holdings of all. -/
theorem keepsHoldings_modify {playerId : Nat}
    {f : PlayerInventoryState F → PlayerInventoryState F}
    (hPlayers : t.playersById = s.playersById.modify playerId f)
    (hSame : ∀ player, SameHoldings player (f player)) (hConfig : t.config = s.config)
    (hDefinitions : t.treasureDefinitions = s.treasureDefinitions)
    (hSpawns : t.activeSpawnsById = s.activeSpawnsById) : KeepsHoldings s t where
  config := hConfig
  definitions := hDefinitions
  spawns := hSpawns
  players id found hFound := by
    rw [hPlayers, UnorderedMap.find_modify] at hFound
    split at hFound
    · rename_i hId
      obtain ⟨player, hPlayer, hFound⟩ := Option.map_eq_some_iff.mp hFound
      exact Or.inr ⟨player, hId ▸ hPlayer, hFound ▸ hSame player⟩
    · exact Or.inr ⟨found, hFound, rfl, rfl, rfl, rfl⟩

/-- A removed player keeps what it holds. -/
theorem keepsHoldings_removePlayer (s : InventoryLootSimulation F) (playerId : Nat) :
    KeepsHoldings s (s.removePlayer playerId) := by
  unfold removePlayer
  cases s.pickupQueueByPlayer.find playerId with
  | none => exact keepsHoldings_modify rfl (fun _ => ⟨rfl, rfl, rfl, rfl⟩) rfl rfl rfl
  | some queue => exact keepsHoldings_modify rfl (fun _ => ⟨rfl, rfl, rfl, rfl⟩) rfl rfl rfl

theorem keepsHoldings_enqueuePickup (s : InventoryLootSimulation F)
    (command : TreasurePickupCommand) : KeepsHoldings s (s.enqueuePickup command).2 := by
  have hEnsured := s.keepsHoldings_ensurePlayer command.playerId
  unfold enqueuePickup
  dsimp only
  cases hFind : (s.ensurePlayer command.playerId).playersById.find command.playerId with
  | none => exact hEnsured
  | some state =>
      dsimp only
      split_ifs
      · exact hEnsured
      · exact hEnsured
      · exact hEnsured
      · exact hEnsured.trans (keepsHoldings_set hFind rfl ⟨rfl, rfl, rfl, rfl⟩ rfl rfl rfl)

theorem keepsHoldings_observePlayers (s : InventoryLootSimulation F)
    (movementStates : List (PlayerMotionState F)) (combatStates : List PlayerCombatState) :
    KeepsHoldings s (s.observePlayers movementStates combatStates) := by
  have hPosition : ∀ (t : InventoryLootSimulation F) state,
      KeepsHoldings t (t.updatePosition state) := fun t state =>
    (t.keepsHoldings_ensurePlayer state.playerId).trans
      (keepsHoldings_modify rfl (fun _ => ⟨rfl, rfl, rfl, rfl⟩) rfl rfl rfl)
  have hAlive : ∀ (t : InventoryLootSimulation F) state,
      KeepsHoldings t (t.updateAlive state) := fun t state =>
    (t.keepsHoldings_ensurePlayer state.playerId).trans
      (keepsHoldings_modify rfl (fun _ => ⟨rfl, rfl, rfl, rfl⟩) rfl rfl rfl)
  exact (KeepsHoldings.foldl hPosition movementStates s).trans
    (KeepsHoldings.foldl hAlive combatStates _)

theorem keepsHoldings_drainPickups (s : InventoryLootSimulation F) :
    KeepsHoldings s s.drainPickups.2 :=
  ⟨rfl, rfl, rfl, fun _ player hFind => Or.inr ⟨player, hFind, rfl, rfl, rfl, rfl⟩⟩

/-- The number of an answered pickup is noted without moving anything. -/
theorem keepsHoldings_noted {pickup : TreasurePickupCommand} {before : PlayerInventoryState F}
    (h : s.playersById.find pickup.playerId = some before) :
    KeepsHoldings s (s.noted pickup before) :=
  keepsHoldings_set h rfl ⟨rfl, rfl, rfl, rfl⟩ rfl rfl rfl

/-- A granted pickup passes both limits. -/
theorem judgePickup_fits {player : PlayerInventoryState F} {spawnId : Nat}
    {spawn : TreasureSpawnInstance F} (h : s.judgePickup player spawnId = .ok spawn) :
    player.items.length + 1 ≤ s.config.maxItemsPerPlayer ∧
      player.totalWeight + spawn.weight ≤ s.config.maxWeightPerPlayer := by
  unfold judgePickup at h
  split at h
  · cases h
  · split at h
    · cases h
    · cases hFind : s.activeSpawnsById.find spawnId with
      | none =>
          rw [hFind] at h
          cases h
      | some found =>
          simp only [hFind] at h
          split_ifs at h with hReach hItems hWeight
          injection h with hSpawn
          exact ⟨not_lt.mp hItems, hSpawn ▸ not_lt.mp hWeight⟩

/-- Some definition has this value and weight. -/
def Defined (definitions : List TreasureDefinition) (value weight : Int) : Prop :=
  ∃ definition ∈ definitions, definition.value = value ∧ definition.weight = weight

/-- A definition has this value and weight, or an item that somebody holds. -/
def Sourced (s : InventoryLootSimulation F) (value weight : Int) : Prop :=
  Defined s.treasureDefinitions value weight ∨
    ∃ id player item, s.playersById.find id = some player ∧ item ∈ player.items ∧
      item.treasure.value = value ∧ item.treasure.weight = weight

/-- The kinds of moves: none, a new spawn, an inventory that is emptied, a spawn that is taken
within the limits, and the loss of everything. -/
inductive TreasureMove (s : InventoryLootSimulation F) : InventoryLootSimulation F → Prop where
  | keep {t : InventoryLootSimulation F} (h : KeepsHoldings s t) : TreasureMove s t
  | place {t : InventoryLootSimulation F} (spawn : TreasureSpawnInstance F)
      (hConfig : t.config = s.config) (hDefinitions : t.treasureDefinitions = s.treasureDefinitions)
      (hPlayers : t.playersById = s.playersById)
      (hSpawns : t.activeSpawnsById = s.activeSpawnsById.set spawn.spawnId spawn)
      (hSource : s.Sourced spawn.value spawn.weight) : TreasureMove s t
  | clear (playerId : Nat) : TreasureMove s (s.clearItems playerId)
  | collect {playerId spawnId : Nat} {player : PlayerInventoryState F}
      {spawn : TreasureSpawnInstance F} (hPlayer : s.playersById.find playerId = some player)
      (hSpawn : s.activeSpawnsById.find spawnId = some spawn)
      (hItems : player.items.length + 1 ≤ s.config.maxItemsPerPlayer)
      (hWeight : player.totalWeight + spawn.weight ≤ s.config.maxWeightPerPlayer) :
      TreasureMove s (s.collect playerId player spawnId spawn).2
  | reset : TreasureMove s s.reset

/-- Any number of moves. -/
abbrev TreasureMoves : InventoryLootSimulation F → InventoryLootSimulation F → Prop :=
  Relation.ReflTransGen TreasureMove

/-- What every move keeps is kept by all of them. -/
theorem invariant_of_moves {I : InventoryLootSimulation F → Prop}
    (hMove : ∀ s t, TreasureMove s t → I s → I t) (h : TreasureMoves s t) (hStart : I s) : I t := by
  induction h with
  | refl => exact hStart
  | tail _ hLast ih => exact hMove _ _ hLast ih

/-- To move nothing is a move of treasure. -/
theorem KeepsHoldings.moves (h : KeepsHoldings s t) : TreasureMoves s t :=
  Relation.ReflTransGen.single (.keep h)

/-- The schedule takes the definitions in turn, so it never leaves the list. -/
theorem moves_spawnScheduled (s : InventoryLootSimulation F) (tick : Nat) :
    TreasureMoves s (s.spawnScheduled tick).2 := by
  unfold InventoryLootSimulation.spawnScheduled
  split
  · rename_i hDue
    have hSome : 0 < s.treasureDefinitions.length := by
      simp only [Bool.and_eq_true, Bool.not_eq_true'] at hDue
      exact List.length_pos_iff.mpr (List.isEmpty_eq_false_iff.mp hDue.1.1.1)
    have hIndex := Nat.mod_lt s.nextSpawnDefinitionIndex hSome
    have hDefined : Defined s.treasureDefinitions (s.createScheduledSpawn tick).1.value
        (s.createScheduledSpawn tick).1.weight := by
      refine ⟨_, List.getElem_mem hIndex, ?_⟩
      unfold createScheduledSpawn takeSpawnId
      dsimp only
      simp [List.getD_eq_getElem?_getD, hIndex]
    exact Relation.ReflTransGen.single
      (.place (s.createScheduledSpawn tick).1 rfl rfl rfl rfl (Or.inl hDefined))
  · exact Relation.ReflTransGen.refl

/-- A victim drops items that it holds. -/
theorem moves_dropItems (s : InventoryLootSimulation F) (tick : Nat) (originX originY : F)
    (itemIndex : Nat) {items : List InventoryItem} {id : Nat} {player : PlayerInventoryState F}
    (hPlayer : s.playersById.find id = some player) (hItems : ∀ item ∈ items, item ∈ player.items) :
    TreasureMoves s (s.dropItems tick originX originY itemIndex items).2 := by
  induction items generalizing s itemIndex with
  | nil => exact Relation.ReflTransGen.refl
  | cons item rest ih =>
      have hHeld : s.Sourced item.treasure.value item.treasure.weight :=
        Or.inr ⟨id, player, item, hPlayer, hItems item List.mem_cons_self, rfl, rfl⟩
      have hFirst : TreasureMove s ((s.createDeathDropSpawn tick item.treasure originX originY
          itemIndex).2.place (s.createDeathDropSpawn tick item.treasure originX originY
            itemIndex).1) :=
        .place _ rfl rfl rfl rfl hHeld
      exact Relation.ReflTransGen.head hFirst (ih _ (itemIndex + 1) hPlayer fun other hOther =>
        hItems other (List.mem_cons_of_mem _ hOther))

/-- The loot of one victim. -/
theorem moves_dropLoot (s : InventoryLootSimulation F) (tick victimId : Nat) :
    TreasureMoves s (s.dropLoot tick victimId).2.2 := by
  unfold InventoryLootSimulation.dropLoot
  cases hFind : s.playersById.find victimId with
  | none => exact Relation.ReflTransGen.refl
  | some player =>
      dsimp only
      split
      · exact Relation.ReflTransGen.refl
      · exact (s.moves_dropItems tick player.positionX player.positionY 0 hFind
          fun item hItem => hItem).tail (.clear victimId)

theorem moves_dropAllLoot (s : InventoryLootSimulation F) (tick : Nat)
    (deaths : List DeathResolution) : TreasureMoves s (s.dropAllLoot tick deaths).2.2 := by
  induction deaths generalizing s with
  | nil => exact Relation.ReflTransGen.refl
  | cons death rest ih => exact (s.moves_dropLoot tick death.victimId).trans (ih _)

/-- The part of a tick before the pickups: scheduled spawns and drops. -/
theorem moves_lootedWith (s : InventoryLootSimulation F) (call : LootTickCall F) :
    TreasureMoves s (s.lootedWith call) :=
  ((s.keepsHoldings_observePlayers call.movementStates call.combatStates).moves.trans
    (moves_spawnScheduled _ call.tick)).trans (moves_dropAllLoot _ call.tick _)

/-- A pickup takes one spawn from the ground, or nothing. -/
theorem moves_resolvePickup (s : InventoryLootSimulation F) (pickup : TreasurePickupCommand) :
    TreasureMoves s (s.resolvePickup pickup).2.2 := by
  rcases s.resolvePickup_cases pickup with
    ⟨-, -, hState⟩ | ⟨before, hFind, ⟨status, -, -, hState⟩ | ⟨spawn, hJudged, -, hState⟩⟩
  · rw [hState]
  · rw [hState]
    exact (keepsHoldings_noted hFind).moves
  · rw [hState]
    obtain ⟨hItems, hWeight⟩ := judgePickup_fits hJudged
    exact (keepsHoldings_noted hFind).moves.tail
      (.collect (s.find_noted_self pickup before) (judgePickup_ok hJudged).1 hItems hWeight)

theorem moves_resolvePickups (s : InventoryLootSimulation F)
    (pickups : List TreasurePickupCommand) : TreasureMoves s (s.resolvePickups pickups).2.2 := by
  induction pickups generalizing s with
  | nil => exact Relation.ReflTransGen.refl
  | cons pickup rest ih => exact (s.moves_resolvePickup pickup).trans (ih _)

/-- A tick as a whole. -/
theorem moves_tickWith (s : InventoryLootSimulation F) (call : LootTickCall F) :
    TreasureMoves s (s.tickWith call).2 := by
  rw [state_tickWith]
  exact ((s.moves_lootedWith call).trans (keepsHoldings_drainPickups _).moves).trans
    (moves_resolvePickups _ _)

/-- Every operation moves treasure as the rules say. -/
theorem moves_act (s : InventoryLootSimulation F) (action : LootAction F) :
    TreasureMoves s (s.act action) := by
  cases action with
  | reset => exact Relation.ReflTransGen.single .reset
  | ensurePlayer playerId => exact (s.keepsHoldings_ensurePlayer playerId).moves
  | removePlayer playerId => exact (s.keepsHoldings_removePlayer playerId).moves
  | enqueuePickup command => exact (s.keepsHoldings_enqueuePickup command).moves
  | resolveTick call => exact s.moves_tickWith call

/-- Every run of operations does. -/
theorem moves_history (s : InventoryLootSimulation F) (actions : List (LootAction F)) :
    TreasureMoves s (s.history actions) := by
  induction actions generalizing s with
  | nil => exact Relation.ReflTransGen.refl
  | cons action actions ih => exact (s.moves_act action).trans (ih (s.act action))

/-- No move touches the definitions and the config. -/
theorem TreasureMove.settings (h : TreasureMove s t) :
    t.treasureDefinitions = s.treasureDefinitions ∧ t.config = s.config := by
  cases h with
  | keep h => exact ⟨h.definitions, h.config⟩
  | place spawn hConfig hDefinitions => exact ⟨hDefinitions, hConfig⟩
  | clear playerId => exact ⟨rfl, rfl⟩
  | collect => exact ⟨rfl, rfl⟩
  | reset => exact ⟨rfl, rfl⟩

/-- No move changes the definitions or the limits. -/
theorem settings_of_moves (h : TreasureMoves s t) :
    t.treasureDefinitions = s.treasureDefinitions ∧ t.config = s.config := by
  induction h with
  | refl => exact ⟨rfl, rfl⟩
  | tail _ hLast ih =>
      exact ⟨hLast.settings.1.trans ih.1, hLast.settings.2.trans ih.2⟩

theorem config_history (s : InventoryLootSimulation F) (actions : List (LootAction F)) :
    (s.history actions).config = s.config :=
  (settings_of_moves (s.moves_history actions)).2

end InventoryLootSimulation

end DevyFps.Server
