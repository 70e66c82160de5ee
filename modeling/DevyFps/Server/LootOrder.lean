import DevyFps.Server.InventoryLimits
import DevyFps.Server.MatchOrder

/-! The order of its inputs and of its tables does not matter to a tick of the treasure:
the victims of a tick are emptied in the order of their ids, and a victim only once. -/

namespace DevyFps.Server

open Foundations Game

variable {F : Type} [SingleFloat F]

namespace InventoryLootSimulation

/-- The two states differ in the iteration order of their tables only. -/
structure SameLoot (s t : InventoryLootSimulation F) : Prop where
  frame : t = { s with
    playersById := t.playersById
    pickupQueueByPlayer := t.pickupQueueByPlayer
    activeSpawnsById := t.activeSpawnsById }
  players : s.playersById.SameContents t.playersById
  queues : s.pickupQueueByPlayer.SameContents t.pickupQueueByPlayer
  spawns : s.activeSpawnsById.SameContents t.activeSpawnsById

/-- The same tick with its lists in another order. -/
structure Reordered (call call' : LootTickCall F) : Prop where
  tick : call'.tick = call.tick
  movementStates : call.movementStates.Perm call'.movementStates
  combatStates : call.combatStates.Perm call'.combatStates
  deaths : call.deaths.Perm call'.deaths
  movementIds : (call.movementStates.map PlayerMotionState.playerId).Nodup
  combatIds : (call.combatStates.map PlayerCombatState.playerId).Nodup

variable {s t u : InventoryLootSimulation F}

theorem sameLoot_equivalence : Equivalence (SameLoot (F := F)) where
  refl s := ⟨rfl, .refl _, .refl _, .refl _⟩
  symm h := by
    obtain ⟨hFrame, hPlayers, hQueues, hSpawns⟩ := h
    refine ⟨?_, hPlayers.symm, hQueues.symm, hSpawns.symm⟩
    rw [hFrame]
  trans h h' := by
    obtain ⟨hFrame, hPlayers, hQueues, hSpawns⟩ := h
    obtain ⟨hFrame', hPlayers', hQueues', hSpawns'⟩ := h'
    refine ⟨?_, hPlayers.trans hPlayers', hQueues.trans hQueues', hSpawns.trans hSpawns'⟩
    rw [hFrame', hFrame]

theorem SameLoot.refl (s : InventoryLootSimulation F) : SameLoot s s := sameLoot_equivalence.refl s

/-- The other state, as the same one around other tables. -/
theorem SameLoot.exists_tables (h : SameLoot s t) :
    ∃ players queues spawns, s.playersById.SameContents players ∧
      s.pickupQueueByPlayer.SameContents queues ∧ s.activeSpawnsById.SameContents spawns ∧
      t = { s with
        playersById := players
        pickupQueueByPlayer := queues
        activeSpawnsById := spawns } :=
  ⟨_, _, _, h.players, h.queues, h.spawns, h.frame⟩

/-! Writes to the records of two players. -/

/-- What the loops over the movement and the combat states do for each entry. -/
def writePlayer (s : InventoryLootSimulation F) (playerId : Nat)
    (f : PlayerInventoryState F → PlayerInventoryState F) : InventoryLootSimulation F :=
  let ensured := s.ensurePlayer playerId
  { ensured with playersById := ensured.playersById.modify playerId f }

/-- A write changes one player, and makes it known first. -/
theorem find_writePlayer (s : InventoryLootSimulation F) (playerId id : Nat)
    (f : PlayerInventoryState F → PlayerInventoryState F) :
    (s.writePlayer playerId f).playersById.find id =
      if id = playerId then
        some (f ((s.playersById.find playerId).getD { playerId := playerId }))
      else s.playersById.find id := by
  unfold writePlayer ensurePlayer
  dsimp only
  rw [UnorderedMap.find_modify, UnorderedMap.find_tryEmplace, UnorderedMap.find_tryEmplace]
  split
  · rw [if_pos rfl, Option.map_some]
  · rfl

/-- The next lemmas follow the tick: each stage keeps two simulations with the same loot so. -/
theorem SameLoot.writePlayer (h : SameLoot s t) (playerId : Nat)
    (f : PlayerInventoryState F → PlayerInventoryState F) :
    SameLoot (s.writePlayer playerId f) (t.writePlayer playerId f) := by
  obtain ⟨players, queues, spawns, hPlayers, hQueues, hSpawns, rfl⟩ := h.exists_tables
  refine ⟨rfl, fun id => ?_, hQueues, hSpawns⟩
  rw [find_writePlayer, find_writePlayer, hPlayers playerId, hPlayers id]

/-- Writes to two players can be exchanged, up to the order of the table. -/
theorem writePlayer_comm (s : InventoryLootSimulation F) {playerId otherId : Nat}
    (h : playerId ≠ otherId) (f g : PlayerInventoryState F → PlayerInventoryState F) :
    SameLoot ((s.writePlayer playerId f).writePlayer otherId g)
      ((s.writePlayer otherId g).writePlayer playerId f) := by
  refine ⟨rfl, fun id => ?_, .refl _, .refl _⟩
  simp only [find_writePlayer, if_neg h, if_neg h.symm]
  by_cases hId : id = playerId
  · rw [if_pos hId, if_pos hId, if_neg (fun hOther => h (hId.symm.trans hOther))]
  · rw [if_neg hId, if_neg hId]

/-- A loop that writes to one player for each entry, with distinct players. -/
theorem SameLoot.writes {α : Type} (h : SameLoot s t) (key : α → Nat)
    (write : α → PlayerInventoryState F → PlayerInventoryState F) {l l' : List α}
    (hPerm : l.Perm l') (hKeys : (l.map key).Nodup) :
    SameLoot (l.foldl (fun u a => u.writePlayer (key a) (write a)) s)
      (l'.foldl (fun u a => u.writePlayer (key a) (write a)) t) := by
  have hCongr : ∀ u v a, SameLoot u v →
      SameLoot (u.writePlayer (key a) (write a)) (v.writePlayer (key a) (write a)) :=
    fun _ _ a hSame => hSame.writePlayer (key a) (write a)
  refine sameLoot_equivalence.trans (foldl_perm sameLoot_equivalence hCongr hPerm ?_ s)
    (foldl_congr hCongr l' h)
  intro a ha b hb u
  by_cases hSame : key a = key b
  · rw [List.inj_on_of_nodup_map hKeys ha hb hSame]
    exact .refl _
  · exact u.writePlayer_comm hSame (write a) (write b)

/-- What a tick observes does not depend on the order of the lists. -/
theorem SameLoot.observed (h : SameLoot s t) {call call' : LootTickCall F}
    (hPerm : Reordered call call') :
    SameLoot (s.observePlayers call.movementStates call.combatStates)
      (t.observePlayers call'.movementStates call'.combatStates) := by
  have hMoved := h.writes PlayerMotionState.playerId
    (fun state player => { player with positionX := state.positionX, positionY := state.positionY })
    hPerm.movementStates hPerm.movementIds
  exact hMoved.writes PlayerCombatState.playerId
    (fun state player => { player with alive := state.alive }) hPerm.combatStates hPerm.combatIds

/-! Spawns and drops. -/

theorem SameLoot.place (h : SameLoot s t) (spawn : TreasureSpawnInstance F) :
    SameLoot (s.place spawn) (t.place spawn) := by
  obtain ⟨players, queues, spawns, hPlayers, hQueues, hSpawns, rfl⟩ := h.exists_tables
  exact ⟨rfl, hPlayers, hQueues, hSpawns.set spawn.spawnId spawn⟩

/-- The scheduled spawn depends on the size of the table of spawns only. -/
theorem SameLoot.spawnScheduled (h : SameLoot s t) (tick : Nat) :
    ∃ spawned s' t', s.spawnScheduled tick = (spawned, s') ∧
      t.spawnScheduled tick = (spawned, t') ∧ SameLoot s' t' := by
  have hPlaced : ∀ spawn, SameLoot ((s.createScheduledSpawn tick).2.place spawn)
      ((t.createScheduledSpawn tick).2.place spawn) := by
    intro spawn
    apply SameLoot.place
    obtain ⟨players, queues, spawns, hPlayers, hQueues, hSpawns, rfl⟩ := h.exists_tables
    exact ⟨rfl, hPlayers, hQueues, hSpawns⟩
  have hSize := h.spawns.size_eq
  obtain ⟨players, queues, spawns, hPlayers, hQueues, hSpawns, rfl⟩ := h.exists_tables
  unfold InventoryLootSimulation.spawnScheduled
  rw [hSize]
  split
  · exact ⟨_, _, _, rfl, rfl, hPlaced _⟩
  · exact ⟨_, _, _, rfl, rfl, h⟩

/-- A victim drops the same items as the same spawns. -/
theorem SameLoot.dropItems (h : SameLoot s t) (tick : Nat) (originX originY : F)
    (itemIndex : Nat) (items : List InventoryItem) :
    ∃ spawned s' t', s.dropItems tick originX originY itemIndex items = (spawned, s') ∧
      t.dropItems tick originX originY itemIndex items = (spawned, t') ∧ SameLoot s' t' := by
  induction items generalizing s t itemIndex with
  | nil => exact ⟨_, _, _, rfl, rfl, h⟩
  | cons item rest ih =>
      have hCounted : SameLoot
          (s.createDeathDropSpawn tick item.treasure originX originY itemIndex).2
          (t.createDeathDropSpawn tick item.treasure originX originY itemIndex).2 := by
        obtain ⟨players, queues, spawns, hPlayers, hQueues, hSpawns, rfl⟩ := h.exists_tables
        exact ⟨rfl, hPlayers, hQueues, hSpawns⟩
      have hSpawn : (t.createDeathDropSpawn tick item.treasure originX originY itemIndex).1 =
          (s.createDeathDropSpawn tick item.treasure originX originY itemIndex).1 := by
        obtain ⟨players, queues, spawns, -, -, -, rfl⟩ := h.exists_tables
        rfl
      obtain ⟨spawned, s', t', hs, ht, hSame⟩ := ih (hCounted.place _) (itemIndex + 1)
      unfold InventoryLootSimulation.dropItems
      dsimp only
      rw [hSpawn, hs, ht]
      exact ⟨_, _, _, rfl, rfl, hSame⟩

/-- The loot of one victim. -/
theorem SameLoot.dropLoot (h : SameLoot s t) (tick victimId : Nat) :
    ∃ spawned changed s' t', s.dropLoot tick victimId = (spawned, changed, s') ∧
      t.dropLoot tick victimId = (spawned, changed, t') ∧ SameLoot s' t' := by
  unfold InventoryLootSimulation.dropLoot
  rw [← h.players victimId]
  cases s.playersById.find victimId with
  | none => exact ⟨_, _, _, _, rfl, rfl, h⟩
  | some player =>
      dsimp only
      split
      · exact ⟨_, _, _, _, rfl, rfl, h⟩
      · obtain ⟨spawned, s', t', hs, ht, hSame⟩ :=
          h.dropItems tick player.positionX player.positionY 0 player.items
        rw [hs, ht]
        obtain ⟨players, queues, spawns, hPlayers, hQueues, hSpawns, rfl⟩ := hSame.exists_tables
        exact ⟨_, _, _, _, rfl, rfl, rfl, hPlayers.modify victimId _, hQueues, hSpawns⟩

/-- Of the deaths only the victims are read. -/
theorem SameLoot.dropAllLoot (h : SameLoot s t) (tick : Nat) {deaths deaths' : List DeathResolution}
    (hVictims : deaths.map DeathResolution.victimId = deaths'.map DeathResolution.victimId) :
    ∃ spawned changed s' t', s.dropAllLoot tick deaths = (spawned, changed, s') ∧
      t.dropAllLoot tick deaths' = (spawned, changed, t') ∧ SameLoot s' t' := by
  induction deaths generalizing s t deaths' with
  | nil =>
      cases deaths' with
      | nil => exact ⟨_, _, _, _, rfl, rfl, h⟩
      | cons death' rest' => cases hVictims
  | cons death rest ih =>
      cases deaths' with
      | nil => cases hVictims
      | cons death' rest' =>
          rw [List.map_cons, List.map_cons, List.cons.injEq] at hVictims
          obtain ⟨spawned, changed, s', t', hs, ht, hSame⟩ := h.dropLoot tick death.victimId
          obtain ⟨later, changedLater, s'', t'', hs', ht', hSame'⟩ := ih hSame hVictims.2
          unfold InventoryLootSimulation.dropAllLoot
          rw [← hVictims.1, hs, ht]
          dsimp only
          rw [hs', ht']
          exact ⟨_, _, _, _, rfl, rfl, hSame'⟩

/-- A list that passes the test has its victims in increasing order. -/
theorem sorted_of_isSortedPlayerId {deaths : List DeathResolution}
    (h : isSortedPlayerId deaths = true) :
    (deaths.map DeathResolution.victimId).Pairwise (· ≤ ·) := by
  rw [← List.isChain_iff_pairwise]
  induction deaths with
  | nil => exact List.IsChain.nil
  | cons first rest ih =>
      cases rest with
      | nil => exact List.IsChain.singleton _
      | cons second later =>
          unfold isSortedPlayerId at h
          rw [Bool.and_eq_true, Bool.not_eq_true', decide_eq_false_iff_not, not_lt] at h
          exact List.IsChain.cons_cons h.1 (ih h.2)

/-- The victims are visited in the order of their ids. -/
theorem victims_sorted (deaths : List DeathResolution) :
    ((sortBy deathLess deaths).map DeathResolution.victimId).Pairwise (· ≤ ·) := by
  rw [List.pairwise_map]
  refine (sortBy_pairwise deathLess_isComparator deaths).imp ?_
  intro a b hNotAfter
  unfold deathLess at hNotAfter
  split_ifs at hNotAfter <;> simp only [decide_eq_false_iff_not] at hNotAfter <;> omega

/-- The weaker test of the fast path and the full sort agree on the order of the victims. -/
theorem victims_of_sorted {deaths deaths' : List DeathResolution}
    (hSorted : (deaths.map DeathResolution.victimId).Pairwise (· ≤ ·))
    (hSorted' : (deaths'.map DeathResolution.victimId).Pairwise (· ≤ ·))
    (hPerm : deaths.Perm deaths') :
    deaths.map DeathResolution.victimId = deaths'.map DeathResolution.victimId :=
  List.Perm.eq_of_pairwise (fun _ _ _ _ hab hba => le_antisymm hab hba) hSorted hSorted'
    (hPerm.map _)

/-- Either nothing is dropped, or the deaths are visited in the order of their victims. -/
theorem lootDeaths_cases (s : InventoryLootSimulation F) (deaths : List DeathResolution) :
    s.config.lootDropMode ≠ .all ∧ s.lootDeaths deaths = [] ∨
      s.config.lootDropMode = .all ∧ (s.lootDeaths deaths).Perm deaths ∧
        ((s.lootDeaths deaths).map DeathResolution.victimId).Pairwise (· ≤ ·) := by
  unfold lootDeaths
  split
  · rename_i hMode
    exact Or.inl ⟨hMode, rfl⟩
  · rename_i hMode
    right
    refine ⟨not_not.mp hMode, ?_⟩
    split
    · rename_i hSorted
      exact ⟨.refl _, sorted_of_isSortedPlayerId hSorted⟩
    · exact ⟨sortBy_perm _ _, victims_sorted deaths⟩

/-- The victims are the same for deaths in any order. -/
theorem SameLoot.victims (h : SameLoot s t) {deaths deaths' : List DeathResolution}
    (hPerm : deaths.Perm deaths') :
    (s.lootDeaths deaths).map DeathResolution.victimId =
      (t.lootDeaths deaths').map DeathResolution.victimId := by
  have hMode : t.config.lootDropMode = s.config.lootDropMode := by rw [h.frame]
  rcases s.lootDeaths_cases deaths with ⟨hNone, hs⟩ | ⟨hAll, hs, hSorted⟩
  · rcases t.lootDeaths_cases deaths' with ⟨-, ht⟩ | ⟨hAll', -⟩
    · rw [hs, ht]
    · exact absurd (hMode.symm.trans hAll') hNone
  · rcases t.lootDeaths_cases deaths' with ⟨hNone', -⟩ | ⟨-, ht, hSorted'⟩
    · exact absurd (hMode.trans hAll) hNone'
    · exact victims_of_sorted hSorted hSorted' (hs.trans (hPerm.trans ht.symm))

/-- The loop over the deaths from one state. -/
theorem dropAllLoot_congr (s : InventoryLootSimulation F) (tick : Nat)
    {deaths deaths' : List DeathResolution}
    (hVictims : deaths.map DeathResolution.victimId = deaths'.map DeathResolution.victimId) :
    s.dropAllLoot tick deaths = s.dropAllLoot tick deaths' := by
  induction deaths generalizing s deaths' with
  | nil =>
      cases deaths' with
      | nil => rfl
      | cons death' rest' => cases hVictims
  | cons death rest ih =>
      cases deaths' with
      | nil => cases hVictims
      | cons death' rest' =>
          rw [List.map_cons, List.map_cons, List.cons.injEq] at hVictims
          unfold InventoryLootSimulation.dropAllLoot
          rw [hVictims.1]
          dsimp only
          rw [ih _ hVictims.2]

/-! Pickups. -/

/-- A pickup is judged by what both simulations hold. -/
theorem SameLoot.judgePickup_eq (h : SameLoot s t) (player : PlayerInventoryState F)
    (spawnId : Nat) : t.judgePickup player spawnId = s.judgePickup player spawnId := by
  have hSpawn := h.spawns spawnId
  obtain ⟨players, queues, spawns, -, -, -, rfl⟩ := h.exists_tables
  unfold judgePickup
  rw [hSpawn]
  rfl

theorem SameLoot.setPlayer (h : SameLoot s t) (playerId : Nat) (player : PlayerInventoryState F) :
    SameLoot { s with playersById := s.playersById.set playerId player }
      { t with playersById := t.playersById.set playerId player } := by
  obtain ⟨players, queues, spawns, hPlayers, hQueues, hSpawns, rfl⟩ := h.exists_tables
  exact ⟨rfl, hPlayers.set playerId player, hQueues, hSpawns⟩

/-- A collected spawn leaves both with the same loot. -/
theorem SameLoot.collect (h : SameLoot s t) (playerId : Nat) (player : PlayerInventoryState F)
    (spawnId : Nat) (spawn : TreasureSpawnInstance F) :
    (t.collect playerId player spawnId spawn).1 = (s.collect playerId player spawnId spawn).1 ∧
      SameLoot (s.collect playerId player spawnId spawn).2
        (t.collect playerId player spawnId spawn).2 := by
  obtain ⟨players, queues, spawns, hPlayers, hQueues, hSpawns, rfl⟩ := h.exists_tables
  refine ⟨rfl, rfl, hPlayers.set playerId _, hQueues, fun id => ?_⟩
  change (s.activeSpawnsById.erase spawnId).find id = (spawns.erase spawnId).find id
  rw [UnorderedMap.find_erase, UnorderedMap.find_erase, hSpawns id]

/-- A pickup gets the same answer. -/
theorem SameLoot.resolvePickup (h : SameLoot s t) (pickup : TreasurePickupCommand) :
    ∃ resolution changed s' t', s.resolvePickup pickup = (resolution, changed, s') ∧
      t.resolvePickup pickup = (resolution, changed, t') ∧ SameLoot s' t' := by
  unfold InventoryLootSimulation.resolvePickup
  rw [← h.players pickup.playerId]
  cases s.playersById.find pickup.playerId with
  | none => exact ⟨_, _, _, _, rfl, rfl, h⟩
  | some before =>
      have hNoted := h.setPlayer pickup.playerId
        { before with lastPickupSeq := max before.lastPickupSeq pickup.pickupSeq }
      dsimp only
      rw [hNoted.judgePickup_eq]
      split
      · exact ⟨_, _, _, _, rfl, rfl, hNoted⟩
      · rename_i spawn hJudged
        obtain ⟨hRicher, hTaken⟩ := hNoted.collect pickup.playerId
          { before with lastPickupSeq := max before.lastPickupSeq pickup.pickupSeq }
          pickup.spawnId spawn
        rw [hRicher]
        exact ⟨_, _, _, _, rfl, rfl, hTaken⟩

/-- All pickups of a tick get the same answers. -/
theorem SameLoot.resolvePickups (h : SameLoot s t) (pickups : List TreasurePickupCommand) :
    ∃ results changed s' t', s.resolvePickups pickups = (results, changed, s') ∧
      t.resolvePickups pickups = (results, changed, t') ∧ SameLoot s' t' := by
  induction pickups generalizing s t with
  | nil => exact ⟨_, _, _, _, rfl, rfl, h⟩
  | cons pickup rest ih =>
      obtain ⟨resolution, changed, s', t', hs, ht, hSame⟩ := h.resolvePickup pickup
      obtain ⟨later, changedLater, s'', t'', hs', ht', hSame'⟩ := ih hSame
      unfold InventoryLootSimulation.resolvePickups
      rw [hs, ht]
      dsimp only
      rw [hs', ht']
      exact ⟨_, _, _, _, rfl, rfl, hSame'⟩

/-- The queues are drained in the order of the players, not in that of the table. -/
theorem SameLoot.drainPickups (h : SameLoot s t) :
    t.drainPickups.1 = s.drainPickups.1 ∧ SameLoot s.drainPickups.2 t.drainPickups.2 := by
  have hDrained := CommandQueues.drain_congr h.queues
  have hLeft := CommandQueues.drain_rest_congr h.queues
  obtain ⟨players, queues, spawns, hPlayers, hQueues, hSpawns, rfl⟩ := h.exists_tables
  refine ⟨hDrained.symm, ?_, hPlayers, hLeft, hSpawns⟩
  unfold InventoryLootSimulation.drainPickups
  dsimp only
  rw [hDrained]

/-- What is reported of a player is the same. -/
theorem SameLoot.summaryFor (h : SameLoot s t) : t.summaryFor = s.summaryFor := by
  funext id
  unfold InventoryLootSimulation.summaryFor
  rw [h.players id]

/-- Permuting the lists of a tick changes neither its result, ids included, nor the state it
leaves; and whether the deaths are sorted makes no difference to a list that the test lets
through. -/
theorem loot_order_irrelevant (s t : InventoryLootSimulation F) (call call' : LootTickCall F)
    (hSame : SameLoot s t) (hPerm : Reordered call call') :
    ((s.tickWith call).1 = (t.tickWith call').1 ∧
        SameLoot (s.tickWith call).2 (t.tickWith call').2) ∧
      ∀ (u : InventoryLootSimulation F) (tick : Nat) (deaths : List DeathResolution),
        u.config.lootDropMode = .all →
          u.dropAllLoot tick (u.lootDeaths deaths) = u.dropAllLoot tick (sortBy deathLess deaths) := by
  refine ⟨?_, ?_⟩
  · have hObserved := hSame.observed hPerm
    obtain ⟨scheduled, s₁, t₁, hs₁, ht₁, hSpawned⟩ := hObserved.spawnScheduled call.tick
    obtain ⟨dropped, robbed, s₂, t₂, hs₂, ht₂, hLooted⟩ :=
      hSpawned.dropAllLoot call.tick (hSpawned.victims hPerm.deaths)
    obtain ⟨hDrained, hLeft⟩ := hLooted.drainPickups
    obtain ⟨results, enriched, s₃, t₃, hs₃, ht₃, hFinish⟩ :=
      hLeft.resolvePickups s₂.drainPickups.1
    unfold tickWith resolveTick spawnAndDrop resolveQueuedPickups
    rw [hPerm.tick, hs₁, ht₁]
    dsimp only
    rw [hs₂, ht₂]
    dsimp only
    rw [hDrained, hs₃, ht₃]
    dsimp only
    rw [hFinish.summaryFor]
    exact ⟨rfl, hFinish⟩
  · intro u tick deaths hAll
    apply u.dropAllLoot_congr tick
    rcases u.lootDeaths_cases deaths with ⟨hNone, -⟩ | ⟨-, hReordered, hSorted⟩
    · exact absurd hAll hNone
    · exact victims_of_sorted hSorted (victims_sorted deaths)
        (hReordered.trans (sortBy_perm _ _).symm)

/-- Player 1 has collected the first scheduled spawn, next to which player 2 stands too. -/
def gemHeld : InventoryLootSimulation ℚ :=
  let gem : TreasureDefinition := { id := Bytes.ofString "gem", value := 5, weight := 2 }
  let start : InventoryLootSimulation ℚ := create [gem] {}
  let spawned := (start.resolveTick 90 [] [] []).2
  let asked := (spawned.enqueuePickup { playerId := 1, pickupSeq := 1, spawnId := 1 }).2
  (asked.resolveTick 91 [{ playerId := 1, positionX := 54, positionY := 82 },
    { playerId := 2, positionX := 54, positionY := 82 }] [] []).2

/-- Player 1 is shot twice in one tick. -/
def shotTwice (first second : DeathResolution) : LootTickCall ℚ where
  tick := 92
  combatStates := [{ playerId := first.killerId }, { playerId := second.killerId }]
  deaths := [first, second]

/-- The gem is dropped once, under the same id in both orders of the two deaths. -/
theorem loot_order_irrelevant_twoDeaths :
    let first : DeathResolution := { victimId := 1, killerId := 2, shotSeq := 7 }
    let second : DeathResolution := { victimId := 1, killerId := 3, shotSeq := 4 }
    ((gemHeld.tickWith (shotTwice first second)).1.spawned.map fun spawn => spawn.spawnId) = [2] ∧
      (gemHeld.tickWith (shotTwice first second)).1 =
        (gemHeld.tickWith (shotTwice second first)).1 := by
  intro first second
  have hReordered : Reordered (shotTwice first second) (shotTwice second first) :=
    { tick := rfl
      movementStates := List.Perm.nil
      combatStates := List.Perm.swap _ _ _
      deaths := List.Perm.swap _ _ _
      movementIds := List.nodup_nil
      combatIds := by decide }
  have hSame := loot_order_irrelevant gemHeld gemHeld (shotTwice first second)
    (shotTwice second first) (.refl gemHeld) hReordered
  exact ⟨by decide +kernel, hSame.1.1⟩

end InventoryLootSimulation

end DevyFps.Server
