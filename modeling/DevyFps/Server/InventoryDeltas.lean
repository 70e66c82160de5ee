import DevyFps.Server.Holdings
import DevyFps.Server.LootOrder

/-! The deltas of a tick name exactly the players whose inventory changed, so that a client
that overwrites what it knows of an inventory with each delta always has the true amounts. -/

namespace DevyFps.Server

open Foundations Game

variable {F : Type} [SingleFloat F]

/-- What a client shows of an inventory. -/
structure InventoryTotals where
  totalValue : Int := 0
  totalWeight : Int := 0
  itemCount : Nat := 0
  deriving DecidableEq

def InventorySummary.totals (summary : InventorySummary) : InventoryTotals where
  totalValue := summary.totalValue
  totalWeight := summary.totalWeight
  itemCount := summary.itemCount

/-- Some result of the list is a collected pickup of the player. -/
def Collects (results : List TreasurePickupResolution) (playerId : Nat) : Prop :=
  ∃ result ∈ results, result.playerId = playerId ∧ result.status = .collected

namespace InventoryLootSimulation

variable {s t : InventoryLootSimulation F}

/-- The held items of the player are changed in the tick: by a collected pickup, or by a death
that drops at least one item. -/
def ChangedIn (s : InventoryLootSimulation F) (call : LootTickCall F) (playerId : Nat) : Prop :=
  Collects (s.tickWith call).1.pickupResults playerId ∨
    s.config.lootDropMode = .all ∧ Died call.deaths playerId ∧ s.itemsOf playerId ≠ []

/-- What `summary_for` tells; nothing is held by a player that it does not know. -/
def totalsFor (s : InventoryLootSimulation F) (playerId : Nat) : InventoryTotals :=
  ((s.summaryFor playerId).map InventorySummary.totals).getD {}

/-- A client overwrites the amounts of the player with those of each delta for it. -/
def overwrite (playerId : Nat) (known : InventoryTotals) (delta : InventorySummary) :
    InventoryTotals :=
  if delta.playerId = playerId then delta.totals else known

/-- What the client knows of the player after one call; only a tick sends deltas. -/
def received (s : InventoryLootSimulation F) (playerId : Nat) (known : InventoryTotals) :
    LootAction F → InventoryTotals
  | .resolveTick call => (s.tickWith call).1.inventoryDeltas.foldl (overwrite playerId) known
  | _ => known

def follow (playerId : Nat) :
    InventoryLootSimulation F → InventoryTotals → List (LootAction F) → InventoryTotals
  | _, known, [] => known
  | s, known, action :: later =>
      follow playerId (s.act action) (s.received playerId known action) later

def totalsOf (held : Holdings) : InventoryTotals where
  totalValue := held.totalValue
  totalWeight := held.totalWeight
  itemCount := held.items.length % 2 ^ 32

theorem totalsFor_eq (s : InventoryLootSimulation F) (playerId : Nat) :
    s.totalsFor playerId = totalsOf (s.holdingsOf playerId) := by
  unfold totalsFor summaryFor holdingsOf
  cases s.playersById.find playerId with
  | none => rfl
  | some player => rfl

theorem itemsOf_eq (s : InventoryLootSimulation F) (playerId : Nat) :
    s.itemsOf playerId = (s.holdingsOf playerId).items := by
  unfold itemsOf holdingsOf
  cases s.playersById.find playerId with
  | none => rfl
  | some player => rfl

/-! Whose inventory a pickup changes. -/

/-- A pickup changes its player's inventory exactly if it is collected. -/
theorem Lawful.changed_resolvePickup (h : s.Lawful) (pickup : TreasurePickupCommand) :
    (s.resolvePickup pickup).2.1 =
      if (s.resolvePickup pickup).1.status = .collected then [pickup.playerId] else [] := by
  have hEq := InventoryLootSimulation.resolvePickup.eq_1 s pickup
  cases hFind : s.playersById.find pickup.playerId with
  | none =>
      rw [hFind] at hEq
      rw [hEq]
      rfl
  | some before =>
      rw [hFind] at hEq
      dsimp only at hEq
      cases hJudged : (s.noted pickup before).judgePickup (notePickup before pickup.pickupSeq)
        pickup.spawnId with
      | error status =>
          have hRefused := (judgePickup_error hJudged).1
          unfold noted notePickup at hJudged
          rw [hJudged] at hEq
          rw [hEq]
          exact (if_neg hRefused).symm
      | ok spawn =>
          unfold noted notePickup at hJudged
          rw [hJudged] at hEq
          rw [hEq, ← (h.players pickup.playerId before hFind).1]
          exact (if_pos rfl).symm

/-- Only a collected pickup changes an inventory, that of its player. -/
theorem holdingsOf_resolvePickup (s : InventoryLootSimulation F) (pickup : TreasurePickupCommand)
    {id : Nat} (h : ¬ ((s.resolvePickup pickup).1.status = .collected ∧ pickup.playerId = id)) :
    (s.resolvePickup pickup).2.2.holdingsOf id = s.holdingsOf id := by
  rcases s.resolvePickup_cases pickup with ⟨-, -, hState⟩ |
    ⟨before, hFind, ⟨status, -, -, hState⟩ | ⟨spawn, -, hStatus, hState⟩⟩
  · rw [hState]
  · rw [hState]
    exact holdingsOf_set (notePickup before pickup.pickupSeq) hFind rfl rfl id
  · have hOther : id ≠ pickup.playerId := fun hId => h ⟨hStatus, hId.symm⟩
    rw [hState]
    unfold holdingsOf
    rw [find_collect, if_neg hOther]
    exact holdingsOf_set (t := s.noted pickup before) (notePickup before pickup.pickupSeq)
      hFind rfl rfl id

/-- The drained pickups of a tick: who is listed as changed, and who keeps its inventory. -/
theorem Lawful.resolvePickups_spec (h : s.Lawful) (pickups : List TreasurePickupCommand)
    (id : Nat) :
    (id ∈ (s.resolvePickups pickups).2.1 ↔ Collects (s.resolvePickups pickups).1 id) ∧
      (id ∈ (s.resolvePickups pickups).2.1 →
        (s.resolvePickups pickups).2.2.playersById.find id ≠ none) ∧
      (id ∉ (s.resolvePickups pickups).2.1 →
        (s.resolvePickups pickups).2.2.holdingsOf id = s.holdingsOf id) := by
  induction pickups generalizing s with
  | nil =>
      refine ⟨iff_of_false List.not_mem_nil fun ⟨_, hResult, _⟩ => ?_, fun hMem => ?_, fun _ => rfl⟩
      · exact List.not_mem_nil hResult
      · exact absurd hMem List.not_mem_nil
  | cons pickup rest ih =>
      obtain ⟨hMem, hKnown, hKept⟩ := ih (h.of_moves (s.moves_resolvePickup pickup))
      have hAsked := (s.asked_resolvePickup pickup).1
      have hChanged := h.changed_resolvePickup pickup
      have hFirst : id ∈ (s.resolvePickup pickup).2.1 ↔
          (s.resolvePickup pickup).1.status = .collected ∧ pickup.playerId = id := by
        rw [hChanged]
        split
        · rename_i hCollected
          rw [List.mem_singleton, and_iff_right hCollected, eq_comm]
        · rename_i hRefused
          exact iff_of_false List.not_mem_nil fun hBoth => hRefused hBoth.1
      have hResults : (s.resolvePickups (pickup :: rest)).1 =
          (s.resolvePickup pickup).1 :: ((s.resolvePickup pickup).2.2.resolvePickups rest).1 := rfl
      have hAll : (s.resolvePickups (pickup :: rest)).2.1 =
          (s.resolvePickup pickup).2.1 ++
            ((s.resolvePickup pickup).2.2.resolvePickups rest).2.1 := rfl
      have hState : (s.resolvePickups (pickup :: rest)).2.2 =
          ((s.resolvePickup pickup).2.2.resolvePickups rest).2.2 := rfl
      rw [hResults, hAll, hState]
      refine ⟨?_, fun hListed => ?_, fun hUnlisted => ?_⟩
      · unfold Collects at hMem ⊢
        rw [List.mem_append, hFirst, hMem, List.exists_mem_cons_iff, hAsked, and_comm]
      · rcases List.mem_append.mp hListed with hNow | hLater
        · obtain ⟨hCollected, rfl⟩ := hFirst.mp hNow
          have hPresent : s.playersById.find pickup.playerId ≠ none := by
            intro hMissing
            rcases s.resolvePickup_cases pickup with ⟨-, hStatus, -⟩ | ⟨before, hFind, -⟩
            · exact nomatch hStatus.symm.trans hCollected
            · exact nomatch hMissing.symm.trans hFind
          exact (leavesPickups_resolvePickups rest _).known _
            ((s.answered_resolvePickup pickup).leaves.known _ hPresent)
        · exact hKnown hLater
      · rw [List.mem_append, not_or] at hUnlisted
        rw [hKept hUnlisted.2, s.holdingsOf_resolvePickup pickup fun hNow =>
          hUnlisted.1 (hFirst.mpr hNow)]

/-! Whose inventory a tick changes. -/

/-- The players that a tick lists as changed, in the order in which they change. -/
def changedPlayers (s : InventoryLootSimulation F) (call : LootTickCall F) : List Nat :=
  ((s.observePlayers call.movementStates call.combatStates).spawnAndDrop call.tick
      call.deaths).2.1 ++
    (s.lootedWith call).resolveQueuedPickups.2.1

/-- The deltas of a tick are the summaries of the changed players, each once and in the order of
their ids. -/
theorem inventoryDeltas_tickWith (s : InventoryLootSimulation F) (call : LootTickCall F) :
    (s.tickWith call).1.inventoryDeltas =
      (sortBy (fun a b => decide (a < b)) (s.changedPlayers call).dedup).filterMap
        (s.tickWith call).2.summaryFor := by
  unfold tickWith resolveTick changedPlayers lootedWith looted
  generalize (s.observePlayers call.movementStates call.combatStates).spawnAndDrop call.tick
    call.deaths = loot
  obtain ⟨spawned, robbed, looted⟩ := loot
  dsimp only

/-- The state before the deaths of a tick has everybody's inventory unchanged. -/
theorem holdingsOf_spawned (s : InventoryLootSimulation F) (call : LootTickCall F) (id : Nat) :
    ((s.observePlayers call.movementStates call.combatStates).spawnScheduled
      call.tick).2.holdingsOf id = s.holdingsOf id := by
  rw [holdingsOf_congr (players_spawnScheduled _ call.tick), holdingsOf_observePlayers]

theorem config_spawned (s : InventoryLootSimulation F) (call : LootTickCall F) :
    ((s.observePlayers call.movementStates call.combatStates).spawnScheduled call.tick).2.config =
      s.config :=
  ((s.leavesPickups_observePlayers call.movementStates call.combatStates).trans
    (leavesPickups_spawnScheduled _ call.tick)).config

/-- The players who lose their loot in a tick. -/
theorem robbed_spec (s : InventoryLootSimulation F) (call : LootTickCall F) (id : Nat) :
    (id ∈ ((s.observePlayers call.movementStates call.combatStates).spawnAndDrop call.tick
        call.deaths).2.1 ↔
      s.config.lootDropMode = .all ∧ Died call.deaths id ∧ s.itemsOf id ≠ []) ∧
    (id ∉ ((s.observePlayers call.movementStates call.combatStates).spawnAndDrop call.tick
        call.deaths).2.1 → (s.lootedWith call).holdingsOf id = s.holdingsOf id) := by
  obtain ⟨hMem, hHeld⟩ := dropAllLoot_spec call.tick
    (((s.observePlayers call.movementStates call.combatStates).spawnScheduled
      call.tick).2.lootDeaths call.deaths)
    ((s.observePlayers call.movementStates call.combatStates).spawnScheduled call.tick).2 id
  rw [holdingsOf_spawned] at hMem hHeld
  refine ⟨?_, fun hNot => ?_⟩
  · rw [itemsOf_eq, ← and_assoc, ← s.config_spawned call, ← died_lootDeaths]
    exact hMem
  · exact hHeld.trans (if_neg fun hBoth => hNot (hMem.mpr hBoth))

/-- A player is reported as changed exactly if it was robbed or has collected something. -/
theorem Lawful.mem_changedPlayers (h : s.Lawful) (call : LootTickCall F) (id : Nat) :
    id ∈ s.changedPlayers call ↔ s.ChangedIn call id := by
  have hCollected := ((h.lootedWith call).drainPickups.resolvePickups_spec
    (s.lootedWith call).drainPickups.1 id).1
  unfold changedPlayers ChangedIn
  rw [List.mem_append, (s.robbed_spec call id).1, resolveQueuedPickups_eq, hCollected,
    pickupResults_tickWith, or_comm]

/-- Whoever changes is known at the end of the tick. -/
theorem Lawful.known_of_changed (h : s.Lawful) (call : LootTickCall F) {id : Nat}
    (hChanged : id ∈ s.changedPlayers call) : (s.tickWith call).2.playersById.find id ≠ none := by
  rw [state_tickWith]
  rcases List.mem_append.mp hChanged with hRobbed | hEnriched
  · have hHeld := ((s.robbed_spec call id).1.mp hRobbed).2.2
    have hKnown : s.playersById.find id ≠ none := by
      intro hMissing
      rw [itemsOf_eq, holdingsOf_of_unknown hMissing] at hHeld
      exact hHeld rfl
    have hLooted := (s.leavesPickups_looted call.tick call.movementStates call.combatStates
      call.deaths).known id hKnown
    change (s.lootedWith call).playersById.find id ≠ none at hLooted
    rw [← players_drainPickups] at hLooted
    exact (leavesPickups_resolvePickups _ _).known id hLooted
  · rw [resolveQueuedPickups_eq] at hEnriched
    exact ((h.lootedWith call).drainPickups.resolvePickups_spec
      (s.lootedWith call).drainPickups.1 id).2.1 hEnriched

/-- Whoever is not listed keeps its inventory. -/
theorem Lawful.holdingsOf_tickWith (h : s.Lawful) (call : LootTickCall F) {id : Nat}
    (hUnchanged : id ∉ s.changedPlayers call) :
    (s.tickWith call).2.holdingsOf id = s.holdingsOf id := by
  obtain ⟨hRobbed, hEnriched⟩ := not_or.mp (mt List.mem_append.mpr hUnchanged)
  rw [resolveQueuedPickups_eq] at hEnriched
  rw [state_tickWith, ((h.lootedWith call).drainPickups.resolvePickups_spec
    (s.lootedWith call).drainPickups.1 id).2.2 hEnriched, holdingsOf_drainPickups]
  exact (s.robbed_spec call id).2 hRobbed

/-! The deltas. -/

/-- Summaries that exist for all listed players and carry their ids. -/
theorem map_playerId_filterMap {summaryFor : Nat → Option InventorySummary} {ids : List Nat}
    (h : ∀ id ∈ ids, ∃ summary, summaryFor id = some summary ∧ summary.playerId = id) :
    (ids.filterMap summaryFor).map InventorySummary.playerId = ids := by
  induction ids with
  | nil => rfl
  | cons head rest ih =>
      obtain ⟨summary, hSummary, hId⟩ := h head List.mem_cons_self
      rw [List.filterMap_cons_some hSummary, List.map_cons, hId,
        ih fun id hMem => h id (List.mem_cons_of_mem _ hMem)]

theorem Lawful.map_deltas (h : s.Lawful) (call : LootTickCall F) :
    (s.tickWith call).1.inventoryDeltas.map InventorySummary.playerId =
      sortBy (fun a b => decide (a < b)) (s.changedPlayers call).dedup := by
  rw [inventoryDeltas_tickWith]
  apply map_playerId_filterMap
  intro id hMem
  have hKnown := h.known_of_changed call (List.mem_dedup.mp (mem_sortBy.mp hMem))
  obtain ⟨player, hFind⟩ := Option.ne_none_iff_exists'.mp hKnown
  refine ⟨toSummary player, ?_, ((h.tickWith call).players id player hFind).1⟩
  unfold summaryFor
  rw [hFind]
  rfl

/-- No player has two deltas in a tick. -/
theorem Lawful.deltas_increasing (h : s.Lawful) (call : LootTickCall F) :
    ((s.tickWith call).1.inventoryDeltas.map InventorySummary.playerId).Pairwise (· < ·) := by
  rw [h.map_deltas]
  have hNodup : (sortBy (fun a b : Nat => decide (a < b)) (s.changedPlayers call).dedup).Nodup :=
    (sortBy_perm _ _).nodup_iff.mpr (List.nodup_dedup _)
  refine (sortBy_pairwise (isComparator_key id) _).imp₂ ?_ hNodup
  intro a b hNotAfter hNe
  exact lt_of_le_of_ne (not_lt.mp (of_decide_eq_false hNotAfter)) hNe

/-- A player has a delta in a tick exactly if its inventory has changed in it. -/
theorem Lawful.mem_deltas_iff (h : s.Lawful) (call : LootTickCall F) (id : Nat) :
    id ∈ (s.tickWith call).1.inventoryDeltas.map InventorySummary.playerId ↔
      s.ChangedIn call id := by
  rw [h.map_deltas, mem_sortBy, List.mem_dedup, h.mem_changedPlayers]

/-- A delta is the summary of its player at the end of the tick. -/
theorem Lawful.delta_eq (h : s.Lawful) (call : LootTickCall F) {delta : InventorySummary}
    (hDelta : delta ∈ (s.tickWith call).1.inventoryDeltas) :
    (s.tickWith call).2.summaryFor delta.playerId = some delta := by
  obtain ⟨id, hSummary⟩ := s.inventoryDeltas_resolveTick call hDelta
  obtain ⟨player, hFind, rfl⟩ := Option.map_eq_some_iff.mp hSummary
  have hId : (toSummary player).playerId = id := ((h.tickWith call).players id player hFind).1
  rw [hId]
  exact hSummary

/-- The last delta of a player wins, and all of them say the same. -/
theorem foldl_overwrite {playerId : Nat} {deltas : List InventorySummary}
    {known final : InventoryTotals}
    (h : ∀ delta ∈ deltas, delta.playerId = playerId → delta.totals = final)
    (hKnown : playerId ∉ deltas.map InventorySummary.playerId → known = final) :
    deltas.foldl (overwrite playerId) known = final := by
  induction deltas generalizing known with
  | nil => exact hKnown List.not_mem_nil
  | cons delta rest ih =>
      refine ih (fun other hOther => h other (List.mem_cons_of_mem _ hOther)) fun hLater => ?_
      unfold overwrite
      split
      · rename_i hId
        exact h delta List.mem_cons_self hId
      · rename_i hId
        refine hKnown fun hMem => ?_
        rcases List.mem_cons.mp hMem with hHead | hTail
        · exact hId hHead.symm
        · exact hLater hTail

/-- A client that agrees with the summary before a tick agrees with it after the tick. -/
theorem Lawful.overwritten (h : s.Lawful) (call : LootTickCall F) (playerId : Nat) :
    (s.tickWith call).1.inventoryDeltas.foldl (overwrite playerId) (s.totalsFor playerId) =
      (s.tickWith call).2.totalsFor playerId := by
  apply foldl_overwrite
  · rintro delta hDelta rfl
    unfold totalsFor
    rw [h.delta_eq call hDelta]
    rfl
  · intro hUnlisted
    rw [h.mem_deltas_iff, ← h.mem_changedPlayers] at hUnlisted
    rw [totalsFor_eq, totalsFor_eq, h.holdingsOf_tickWith call hUnlisted]

/-- Every call but a reset carries the agreement on. -/
theorem Lawful.received_eq (h : s.Lawful) (playerId : Nat) {action : LootAction F}
    (hNoReset : action ≠ .reset) :
    s.received playerId (s.totalsFor playerId) action = (s.act action).totalsFor playerId := by
  cases action with
  | reset => exact absurd rfl hNoReset
  | resolveTick call => exact h.overwritten call playerId
  | ensurePlayer id =>
      rw [totalsFor_eq (s.act _)]
      exact (s.totalsFor_eq playerId).trans
        (congrArg totalsOf (s.holdingsOf_ensurePlayer id playerId).symm)
  | removePlayer id =>
      rw [totalsFor_eq (s.act _)]
      exact (s.totalsFor_eq playerId).trans
        (congrArg totalsOf (s.holdingsOf_removePlayer id playerId).symm)
  | enqueuePickup command =>
      rw [totalsFor_eq (s.act _)]
      exact (s.totalsFor_eq playerId).trans
        (congrArg totalsOf (s.holdingsOf_enqueuePickup command playerId).symm)

/-- Who follows the deltas of a player holds its totals, as long as there is no reset; by
induction on the operations. -/
theorem Lawful.follow_eq (h : s.Lawful) (playerId : Nat) (later : List (LootAction F))
    (hNoReset : ∀ action ∈ later, action ≠ .reset) :
    follow playerId s (s.totalsFor playerId) later = (s.history later).totalsFor playerId := by
  induction later generalizing s with
  | nil => rfl
  | cons action rest ih =>
      rw [follow, h.received_eq playerId (hNoReset action List.mem_cons_self)]
      exact ih (h.of_moves (s.moves_act action)) fun other hOther => hNoReset other (List.mem_cons_of_mem _ hOther)

/-- From every reachable state: the deltas of a tick are the summaries, at its end, of exactly
the players whose held items it changed, each once and in ascending order of the ids. So a
client that starts from the summary of a player and overwrites it with each delta agrees with
the summary after any calls without a reset. -/
theorem inventory_deltas_complete (definitions : List TreasureDefinition)
    (config : InventoryLootConfig F) (actions : List (LootAction F)) :
    let s := (create definitions config).history actions
    (∀ call : LootTickCall F,
      ((s.tickWith call).1.inventoryDeltas.map InventorySummary.playerId).Pairwise (· < ·) ∧
        (∀ id, id ∈ (s.tickWith call).1.inventoryDeltas.map InventorySummary.playerId ↔
          s.ChangedIn call id) ∧
        ∀ delta ∈ (s.tickWith call).1.inventoryDeltas,
          (s.tickWith call).2.summaryFor delta.playerId = some delta) ∧
      ∀ (playerId : Nat) (later : List (LootAction F)), (∀ action ∈ later, action ≠ .reset) →
        follow playerId s (s.totalsFor playerId) later = (s.history later).totalsFor playerId := by
  intro s
  have hLawful : s.Lawful := (lawful_create definitions config).history actions
  refine ⟨fun call => ⟨hLawful.deltas_increasing call, hLawful.mem_deltas_iff call, ?_⟩, ?_⟩
  · exact fun delta hDelta => hLawful.delta_eq call hDelta
  · exact fun playerId later hNoReset => hLawful.follow_eq playerId later hNoReset

/-- The calls before player 1 holds the gem. -/
def gemCalls : List (LootAction ℚ) :=
  [.resolveTick { tick := 90 }, .enqueuePickup { playerId := 1, pickupSeq := 1, spawnId := 1 }]

/-- The calls in which player 1 collects the gem. -/
def gemPickup : LootAction ℚ :=
  .resolveTick { tick := 91, movementStates := [{ playerId := 1, positionX := 54, positionY := 82 }] }

def gemDefinitions : List TreasureDefinition :=
  [{ id := Bytes.ofString "gem", value := 5, weight := 2 }]

/-- A client that knew of an empty inventory learns of the gem. -/
theorem inventory_deltas_complete_gem :
    let s : InventoryLootSimulation ℚ := (create gemDefinitions {}).history gemCalls
    s.totalsFor 1 = {} ∧
      follow 1 s (s.totalsFor 1) [gemPickup] = { totalValue := 5, totalWeight := 2, itemCount := 1 } ∧
      follow 1 s (s.totalsFor 1) [gemPickup] = (s.history [gemPickup]).totalsFor 1 := by
  refine ⟨by decide +kernel, by decide +kernel, ?_⟩
  have hNoReset : ∀ action ∈ [gemPickup], action ≠ .reset := by
    intro action hAction
    rw [List.mem_singleton.mp hAction]
    exact fun hReset => nomatch hReset
  exact (inventory_deltas_complete gemDefinitions {} gemCalls).2 1 [gemPickup] hNoReset

/-- A reset empties the inventory of player 1, and no delta tells the client so. -/
theorem reset_untold :
    ¬ ∀ (definitions : List TreasureDefinition) (config : InventoryLootConfig ℚ)
        (actions : List (LootAction ℚ)) (playerId : Nat) (later : List (LootAction ℚ)),
      let s := (create definitions config).history actions
      follow playerId s (s.totalsFor playerId) later = (s.history later).totalsFor playerId := by
  intro h
  have hAgree := h gemDefinitions {} (gemCalls ++ [gemPickup]) 1 [.reset]
  revert hAgree
  decide +kernel

end InventoryLootSimulation

end DevyFps.Server
