import DevyFps.Foundations.Reordering
import DevyFps.Server.MatchHistory

/-! The order of its inputs and of its player table does not matter to a tick of the match,
and the scoreboard is a strict ranking. -/

namespace DevyFps.Server

open Foundations

/-- The same tick with its lists in another order. -/
structure Permuted (call call' : TickCall) : Prop where
  tick : call'.tick = call.tick
  tickInterval : call'.tickInterval = call.tickInterval
  activePlayerIds : call.activePlayerIds.Perm call'.activePlayerIds
  combatStates : call.combatStates.Perm call'.combatStates
  deathEvents : call.deathEvents.Perm call'.deathEvents
  inventorySummaries : call.inventorySummaries.Perm call'.inventorySummaries
  combatIds : (call.combatStates.map PlayerCombatState.playerId).Nodup
  summaryIds : (call.inventorySummaries.map InventorySummary.playerId).Nodup

/-- More kills, then more coins, then fewer deaths, then the smaller player id. -/
def Outranks (a b : MatchScoreEntry) : Prop :=
  b.kills < a.kills ∨ a.kills = b.kills ∧ (b.coins < a.coins ∨ a.coins = b.coins ∧
    (a.deaths < b.deaths ∨ a.deaths = b.deaths ∧ a.playerId < b.playerId))

namespace MatchLifecycleSimulation

/-- The two states differ in the iteration order of their player tables only. -/
structure Alike (s t : MatchLifecycleSimulation) : Prop where
  clock : SameClock s t
  records : s.playersById.SameContents t.playersById

/-- Every record is stored under the id that it carries. -/
def Keyed (s : MatchLifecycleSimulation) : Prop :=
  ∀ id, (s.recordOf id).playerId = id

section Alike

variable {s t : MatchLifecycleSimulation}

theorem alike_equivalence : Equivalence Alike where
  refl s := ⟨.refl s, .refl _⟩
  symm h := by
    obtain ⟨hClock, hRecords⟩ := h
    refine ⟨?_, hRecords.symm⟩
    rw [hClock]
    rfl
  trans h h' := ⟨h.clock.trans h'.clock, h.records.trans h'.records⟩

theorem Alike.refl (s : MatchLifecycleSimulation) : Alike s s := alike_equivalence.refl s

/-- The other state, as the same one around another table. -/
theorem Alike.exists_players (h : Alike s t) :
    ∃ players, s.playersById.SameContents players ∧ t = { s with playersById := players } :=
  ⟨t.playersById, h.records, h.clock⟩

/-- Simulations that are alike read the same record of every player. -/
theorem Alike.recordOf_eq (h : Alike s t) (id : Nat) : s.recordOf id = t.recordOf id := by
  obtain ⟨players, hSame, rfl⟩ := h.exists_players
  unfold recordOf
  rw [hSame id]
  rfl

theorem Alike.keyed (h : Alike s t) (hKeyed : s.Keyed) : t.Keyed := by
  intro id
  rw [← h.recordOf_eq]
  exact hKeyed id

/-- The next lemmas follow `tick` call by call: each step keeps two simulations alike. -/
theorem Alike.ensurePlayer (h : Alike s t) (playerId : Nat) :
    Alike (s.ensurePlayer playerId) (t.ensurePlayer playerId) := by
  have hRecord := h.recordOf_eq playerId
  obtain ⟨players, hSame, rfl⟩ := h.exists_players
  refine ⟨rfl, fun id => ?_⟩
  rw [find_ensurePlayer, find_ensurePlayer, hRecord]
  split
  · rfl
  · exact hSame id

theorem Alike.modifyPlayer (h : Alike s t) (playerId : Nat) (f : PlayerRecord → PlayerRecord) :
    Alike (s.modifyPlayer playerId f) (t.modifyPlayer playerId f) := by
  obtain ⟨players, hSame, rfl⟩ := h.exists_players
  exact ⟨rfl, hSame.modify playerId f⟩

theorem Alike.mapValues (h : Alike s t) (f : Nat → PlayerRecord → PlayerRecord) :
    Alike { s with playersById := s.playersById.mapValues f }
      { t with playersById := t.playersById.mapValues f } := by
  obtain ⟨players, hSame, rfl⟩ := h.exists_players
  refine ⟨rfl, fun id => ?_⟩
  rw [UnorderedMap.find_mapValues, UnorderedMap.find_mapValues, hSame id]

/-! Writes to the records of two players. -/

/-- What the loops of a tick do for each of their entries. -/
def writePlayer (s : MatchLifecycleSimulation) (playerId : Nat)
    (f : PlayerRecord → PlayerRecord) : MatchLifecycleSimulation :=
  (s.ensurePlayer playerId).modifyPlayer playerId f

/-- A write changes the record of its player only, and creates it first where there was none. -/
theorem find_writePlayer (s : MatchLifecycleSimulation) (playerId id : Nat)
    (f : PlayerRecord → PlayerRecord) :
    (s.writePlayer playerId f).playersById.find id =
      if id = playerId then some (f (touch (s.recordOf playerId)))
      else s.playersById.find id := by
  unfold writePlayer modifyPlayer
  rw [UnorderedMap.find_modify, find_ensurePlayer, find_ensurePlayer]
  split
  · rw [if_pos rfl, Option.map_some]
  · rfl

theorem recordOf_writePlayer_ne (s : MatchLifecycleSimulation) {playerId id : Nat}
    (f : PlayerRecord → PlayerRecord) (h : id ≠ playerId) :
    (s.writePlayer playerId f).recordOf id = s.recordOf id := by
  rw [writePlayer, recordOf_modifyPlayer_ensured, if_neg h]

theorem Alike.writePlayer (h : Alike s t) (playerId : Nat) (f : PlayerRecord → PlayerRecord) :
    Alike (s.writePlayer playerId f) (t.writePlayer playerId f) :=
  (h.ensurePlayer playerId).modifyPlayer playerId f

/-- Writes for two players can be exchanged, up to the order of the table. -/
theorem writePlayer_comm (s : MatchLifecycleSimulation) {playerId otherId : Nat}
    (h : playerId ≠ otherId) (f g : PlayerRecord → PlayerRecord) :
    Alike ((s.writePlayer playerId f).writePlayer otherId g)
      ((s.writePlayer otherId g).writePlayer playerId f) := by
  refine ⟨rfl, fun id => ?_⟩
  rw [find_writePlayer, find_writePlayer, find_writePlayer, find_writePlayer,
    recordOf_writePlayer_ne s f h.symm, recordOf_writePlayer_ne s g h]
  by_cases hId : id = playerId
  · rw [if_pos hId, if_pos hId, if_neg (fun hOther => h (hId.symm.trans hOther))]
  · rw [if_neg hId, if_neg hId]

/-- Players can be made known in either order. -/
theorem ensurePlayer_comm (s : MatchLifecycleSimulation) (playerId otherId : Nat) :
    Alike ((s.ensurePlayer playerId).ensurePlayer otherId)
      ((s.ensurePlayer otherId).ensurePlayer playerId) := by
  by_cases h : playerId = otherId
  · rw [h]
    exact .refl _
  refine ⟨rfl, fun id => ?_⟩
  rw [find_ensurePlayer, find_ensurePlayer, find_ensurePlayer, find_ensurePlayer,
    recordOf_ensurePlayer, recordOf_ensurePlayer, if_neg h, if_neg (Ne.symm h)]
  by_cases hId : id = playerId
  · rw [if_pos hId, if_pos hId, if_neg (fun hOther => h (hId.symm.trans hOther))]
  · rw [if_neg hId, if_neg hId]

/-! The stages of a tick. -/

/-- A loop that writes to one player for each entry, with distinct players. -/
theorem Alike.writes {α : Type} (h : Alike s t) (key : α → Nat)
    (write : α → PlayerRecord → PlayerRecord) {l l' : List α} (hPerm : l.Perm l')
    (hKeys : (l.map key).Nodup) :
    Alike (l.foldl (fun u a => u.writePlayer (key a) (write a)) s)
      (l'.foldl (fun u a => u.writePlayer (key a) (write a)) t) := by
  have hCongr : ∀ u v a, Alike u v →
      Alike (u.writePlayer (key a) (write a)) (v.writePlayer (key a) (write a)) :=
    fun _ _ a hAlike => hAlike.writePlayer (key a) (write a)
  refine alike_equivalence.trans (foldl_perm alike_equivalence hCongr hPerm ?_ s)
    (foldl_congr hCongr l' h)
  intro a ha b hb u
  by_cases hSame : key a = key b
  · rw [List.inj_on_of_nodup_map hKeys ha hb hSame]
    exact .refl _
  · exact u.writePlayer_comm hSame (write a) (write b)

/-- The order in which the active players are listed does not show. -/
theorem Alike.markActive (h : Alike s t) {ids ids' : List Nat} (hPerm : ids.Perm ids') :
    Alike (s.markActive ids) (t.markActive ids') := by
  have hCongr : ∀ u v id, Alike u v → Alike (u.ensurePlayer id) (v.ensurePlayer id) :=
    fun _ _ id hAlike => hAlike.ensurePlayer id
  have hEnsured : Alike (ids.foldl MatchLifecycleSimulation.ensurePlayer s)
      (ids'.foldl MatchLifecycleSimulation.ensurePlayer t) :=
    alike_equivalence.trans
      (foldl_perm alike_equivalence hCongr hPerm (fun a _ b _ u => u.ensurePlayer_comm a b) s)
      (foldl_congr hCongr ids' h)
  have hActive : ∀ id, ids'.contains id = ids.contains id := fun id => hPerm.symm.contains_eq
  unfold MatchLifecycleSimulation.markActive
  simp only [hActive]
  exact hEnsured.mapValues fun id record => { record with connected := ids.contains id }

/-- Nor does the order of the combat states that are copied after them. -/
theorem Alike.synced (h : Alike s t) {call call' : TickCall} (hPerm : Permuted call call') :
    Alike (call.combatStates.foldl syncCombatState (s.markActive call.activePlayerIds))
      (call'.combatStates.foldl syncCombatState (t.markActive call'.activePlayerIds)) :=
  (h.markActive hPerm.activePlayerIds).writes PlayerCombatState.playerId
    (fun state record =>
      if record.pendingRespawnTick.isNone then { record with alive := state.alive } else record)
    hPerm.combatStates hPerm.combatIds

/-- What a tick observes is the same for lists in any order. -/
theorem Alike.observeWith (h : Alike s t) {call call' : TickCall} (hPerm : Permuted call call') :
    Alike (s.observeWith call) (t.observeWith call') :=
  (h.synced hPerm).writes InventorySummary.playerId
    (fun summary record => { record with coins := summary.totalValue })
    hPerm.inventorySummaries hPerm.summaryIds

/-- With distinct players every summary is compared with the coins before the loop. -/
theorem coinsChange_eq {summaries : List InventorySummary}
    (hIds : (summaries.map InventorySummary.playerId).Nodup) (s : MatchLifecycleSimulation) :
    s.coinsChange summaries =
      summaries.any fun summary => (s.recordOf summary.playerId).coins != summary.totalValue := by
  induction summaries generalizing s with
  | nil => rfl
  | cons summary rest ih =>
      rw [List.map_cons, List.nodup_cons] at hIds
      have hLater : ∀ other ∈ rest,
          ((s.syncCoins summary).recordOf other.playerId).coins =
            (s.recordOf other.playerId).coins := by
        intro other hOther
        have hId : other.playerId ≠ summary.playerId := fun hSame =>
          hIds.1 (hSame ▸ List.mem_map_of_mem hOther)
        exact congrArg PlayerRecord.coins (s.recordOf_writePlayer_ne _ hId)
      rw [coinsChange, List.any_cons, ih hIds.2, find_ensurePlayer, if_pos rfl, Option.any_some]
      congr 1
      rw [Bool.eq_iff_iff, List.any_eq_true, List.any_eq_true]
      refine exists_congr fun other => and_congr_right fun hOther => ?_
      rw [hLater other hOther]

/-- Whether some coins change does not depend on the order of the summaries, as each player has
one. -/
theorem Alike.coinsChange_eq (h : Alike s t) {summaries summaries' : List InventorySummary}
    (hPerm : summaries.Perm summaries') (hIds : (summaries.map InventorySummary.playerId).Nodup) :
    t.coinsChange summaries' = s.coinsChange summaries := by
  rw [MatchLifecycleSimulation.coinsChange_eq hIds,
    MatchLifecycleSimulation.coinsChange_eq ((hPerm.map _).nodup_iff.mp hIds), hPerm.any_eq]
  simp only [h.recordOf_eq]

theorem Alike.values_perm (h : Alike s t) : s.playersById.values.Perm t.playersById.values := by
  rw [← UnorderedMap.map_snd_items, ← UnorderedMap.map_snd_items]
  exact h.records.items_perm.map Prod.snd

/-- As many players are connected in either order of the table. -/
theorem Alike.connectedCount_eq (h : Alike s t) : t.connectedCount = s.connectedCount :=
  (h.values_perm.filter _).length_eq.symm

/-- The countdown answers the same and leaves the same match. -/
theorem Alike.countDown (h : Alike s t) (tick : Nat) :
    ∃ changed started s' t', s.countDown tick = (changed, started, s') ∧
      t.countDown tick = (changed, started, t') ∧ Alike s' t' := by
  have hCount := h.connectedCount_eq
  have hEnter := h.mapValues fun _ record => enterRecord s.config record
  obtain ⟨players, hSame, rfl⟩ := h.exists_players
  unfold MatchLifecycleSimulation.countDown
  rw [hCount]
  dsimp only
  split
  · exact ⟨_, _, _, _, rfl, rfl, rfl, hSame⟩
  · split
    · exact ⟨_, _, _, _, rfl, rfl, rfl, hSame⟩
    · split
      · exact ⟨_, _, _, _, rfl, rfl, rfl, hEnter.records⟩
      · exact ⟨_, _, _, _, rfl, rfl, rfl, hSame⟩

/-- The clock does not read the records. -/
theorem Alike.runClock (h : Alike s t) (tickInterval : Int) (started : Bool) :
    ∃ expired s' t', s.runClock tickInterval started = (expired, s') ∧
      t.runClock tickInterval started = (expired, t') ∧ Alike s' t' := by
  obtain ⟨players, hSame, rfl⟩ := h.exists_players
  unfold MatchLifecycleSimulation.runClock
  dsimp only
  split
  · exact ⟨_, _, _, rfl, rfl, rfl, hSame⟩
  · exact ⟨_, _, _, rfl, rfl, rfl, hSame⟩

/-- What is read of a death. -/
def deathKey (death : DeathResolution) : Nat × Nat × Nat :=
  (death.victimId, death.killerId, death.shotSeq)

/-- The deaths of a tick in the order of the sort, whatever order they came in. -/
theorem map_sortBy_deathLess {deaths deaths' : List DeathResolution} (hPerm : deaths.Perm deaths') :
    (sortBy deathLess deaths).map deathKey = (sortBy deathLess deaths').map deathKey := by
  apply map_sortBy_perm deathLess_isComparator _ _ hPerm
  · intro a b hab hba
    unfold deathLess at hab hba
    unfold deathKey
    split_ifs at hab hba <;> simp only [decide_eq_false_iff_not, Prod.mk.injEq] at * <;> omega
  · intro a a' b b' ha hb
    simp only [deathKey, Prod.mk.injEq] at ha hb
    unfold deathLess
    rw [ha.1, ha.2.1, ha.2.2, hb.1, hb.2.1, hb.2.2]

/-- Only the victim and the attacker of a death are read. -/
theorem Alike.recordDeath (h : Alike s t) (tick : Nat) {death death' : DeathResolution}
    (hKey : deathKey death = deathKey death') :
    Alike (s.recordDeath tick death) (t.recordDeath tick death') := by
  simp only [deathKey, Prod.mk.injEq] at hKey
  have hBuried := h.writePlayer death.victimId (victimRecord s.config tick)
  unfold MatchLifecycleSimulation.recordDeath
  rw [← hKey.1, ← hKey.2.1, h.clock.config_eq]
  dsimp only
  split
  · exact hBuried.writePlayer death.killerId killerRecord
  · exact hBuried

/-- The deaths of a tick, in the order of their keys. -/
theorem Alike.recordDeaths (tick : Nat) {deaths deaths' : List DeathResolution}
    (hKeys : deaths.map deathKey = deaths'.map deathKey) (h : Alike s t) (handled : Finset Nat) :
    Alike (s.recordDeaths tick deaths handled) (t.recordDeaths tick deaths' handled) := by
  induction deaths generalizing s t deaths' handled with
  | nil =>
      cases deaths' with
      | nil => exact h
      | cons death' rest' => cases hKeys
  | cons death rest ih =>
      cases deaths' with
      | nil => cases hKeys
      | cons death' rest' =>
          rw [List.map_cons, List.map_cons, List.cons.injEq] at hKeys
          have hVictim : death.victimId = death'.victimId := congrArg Prod.fst hKeys.1
          unfold MatchLifecycleSimulation.recordDeaths
          rw [← hVictim]
          split
          · exact ih hKeys.2 h handled
          · exact ih hKeys.2 (h.recordDeath tick hKeys.1) _

/-- The deaths are sorted before they are applied, so their order in the call is forgotten. -/
theorem Alike.applyDeaths (h : Alike s t) (tick : Nat) {deaths deaths' : List DeathResolution}
    (hPerm : deaths.Perm deaths') : Alike (s.applyDeaths tick deaths) (t.applyDeaths tick deaths') := by
  unfold MatchLifecycleSimulation.applyDeaths
  rw [h.clock.phase_eq]
  split
  · exact Alike.recordDeaths tick (map_sortBy_deathLess hPerm) h ∅
  · exact h

/-- Respawns in one given order. -/
theorem Alike.respawnDue (tick : Nat) (ids : List Nat) (h : Alike s t) :
    ∃ respawned s' t', s.respawnDue tick ids = (respawned, s') ∧
      t.respawnDue tick ids = (respawned, t') ∧ Alike s' t' := by
  induction ids generalizing s t with
  | nil => exact ⟨_, _, _, rfl, rfl, h⟩
  | cons head rest ih =>
      unfold MatchLifecycleSimulation.respawnDue
      rw [← h.records head]
      split
      · exact ih h
      · split
        · exact ih h
        · split
          · exact ih (h.modifyPlayer head _)
          · obtain ⟨respawned, s', t', hs, ht, hAlike⟩ := ih (h.modifyPlayer head
              fun player => { player with pendingRespawnTick := none, alive := true })
            dsimp only
            rw [hs, ht]
            exact ⟨_, _, _, rfl, rfl, hAlike⟩

theorem Alike.keys_perm (h : Alike s t) : s.playersById.keys.Perm t.playersById.keys := by
  rw [← UnorderedMap.map_fst_items, ← UnorderedMap.map_fst_items]
  exact h.records.items_perm.map Prod.fst

/-- Sorted ids do not show the order in which they came. -/
theorem sortBy_ids_perm {ids ids' : List Nat} (hPerm : ids.Perm ids') :
    sortBy (fun a b => decide (a < b)) ids = sortBy (fun a b => decide (a < b)) ids' := by
  apply sortBy_eq_of_perm (isComparator_key id) hPerm
  intro a _ b _ hab hba
  exact le_antisymm (not_lt.mp (of_decide_eq_false hba)) (not_lt.mp (of_decide_eq_false hab))

/-- The players are visited in the order of their ids, whatever the order of the table. -/
theorem Alike.applyRespawns (h : Alike s t) (tick : Nat) :
    ∃ respawned s' t', s.applyRespawns tick = (respawned, s') ∧
      t.applyRespawns tick = (respawned, t') ∧ Alike s' t' := by
  unfold MatchLifecycleSimulation.applyRespawns
  rw [h.clock.phase_eq]
  split
  · have hIds : t.sortedPlayerIds = s.sortedPlayerIds := sortBy_ids_perm h.keys_perm.symm
    rw [hIds]
    exact h.respawnDue tick _
  · exact ⟨_, _, _, rfl, rfl, h⟩

/-- The players who are still in the match, in the order of their ids. -/
theorem Alike.contenders_eq (h : Alike s t) : t.contenders = s.contenders :=
  sortBy_ids_perm ((h.records.symm.items_perm.filter _).map Prod.fst)

end Alike

/-! The ranking. -/

/-- The comparison of the scoreboard is the order of the ranking. -/
theorem rankingBetter_iff {a b : MatchScoreEntry} : rankingBetter a b = true ↔ Outranks a b := by
  unfold rankingBetter Outranks
  split_ifs <;> simp only [decide_eq_true_eq] <;> omega

theorem rankingBetter_eq_false_iff {a b : MatchScoreEntry} :
    rankingBetter a b = false ↔ ¬ Outranks a b := by
  rw [← rankingBetter_iff, Bool.not_eq_true]

/-- The comparison is a strict weak order, as `std::sort` asks of it. -/
theorem rankingBetter_isComparator : IsComparator rankingBetter where
  asymm a b h := by
    rw [rankingBetter_iff] at h
    rw [rankingBetter_eq_false_iff]
    unfold Outranks at h ⊢
    omega
  notAfter_trans a b c h h' := by
    rw [rankingBetter_eq_false_iff] at h h' ⊢
    unfold Outranks at h h' ⊢
    omega

/-- Entries of two players never tie. -/
theorem outranks_of_not {a b : MatchScoreEntry} (hIds : a.playerId ≠ b.playerId)
    (h : ¬ Outranks b a) : Outranks a b := by
  unfold Outranks at h ⊢
  omega

/-- No entry is above one that is above it. -/
theorem not_outranks {a b : MatchScoreEntry} (h : Outranks a b) : ¬ Outranks b a := by
  unfold Outranks at h ⊢
  omega

/-- The scoreboard lists every participating record exactly once, from the best down. -/
structure Ranking (s : MatchLifecycleSimulation) (scoreboard : List MatchScoreEntry) : Prop where
  listed : scoreboard.Perm ((s.playersById.values.filter (·.participated)).map PlayerRecord.score)
  ids : (scoreboard.map MatchScoreEntry.playerId).Nodup
  ordered : scoreboard.Pairwise Outranks

section Ranking

variable {s t : MatchLifecycleSimulation}

/-- In a table whose records hold their own keys the ids are the keys. -/
theorem Keyed.map_values (h : s.Keyed) :
    s.playersById.values.map PlayerRecord.playerId = s.playersById.keys := by
  rw [← UnorderedMap.map_snd_items, ← UnorderedMap.map_fst_items, List.map_map]
  apply List.map_congr_left
  intro item hItem
  have hFind : s.playersById.find item.1 = some item.2 := UnorderedMap.mem_items_iff.mp hItem
  have hId := h item.1
  rw [recordOf_of_find hFind] at hId
  exact hId

/-- No player has two entries on the board. -/
theorem Keyed.scores_nodup (h : s.Keyed) :
    (((s.playersById.values.filter (·.participated)).map PlayerRecord.score).map
      MatchScoreEntry.playerId).Nodup := by
  have hSub : ((s.playersById.values.filter (·.participated)).map PlayerRecord.playerId).Sublist
      (s.playersById.values.map PlayerRecord.playerId) := List.filter_sublist.map _
  rw [h.map_values] at hSub
  rw [List.map_map]
  exact s.playersById.keys_nodup.sublist hSub

/-- The board of a state lists every participant once, in the order of the ranking. -/
theorem Keyed.ranking (h : s.Keyed) : Ranking s s.buildScoreboard where
  listed := sortBy_perm _ _
  ids := ((sortBy_perm _ _).map _).nodup_iff.mpr h.scores_nodup
  ordered := by
    have hIds : (s.buildScoreboard.map MatchScoreEntry.playerId).Nodup :=
      ((sortBy_perm _ _).map _).nodup_iff.mpr h.scores_nodup
    have hApart := List.pairwise_map.mp hIds
    have hSorted := sortBy_pairwise rankingBetter_isComparator
      ((s.playersById.values.filter (·.participated)).map PlayerRecord.score)
    refine (hSorted.and hApart).imp ?_
    rintro a b ⟨hNot, hNe⟩
    exact outranks_of_not hNe (rankingBetter_eq_false_iff.mp hNot)

/-- The best entry of a ranking, as its winner is read from it. -/
theorem Ranking.winner_iff {scoreboard : List MatchScoreEntry} (h : Ranking s scoreboard)
    (winner : Nat) :
    resolveWinnerFromScoreboard scoreboard = some winner ↔
      ∃ entry ∈ scoreboard, entry.playerId = winner ∧
        ∀ other ∈ scoreboard, other ≠ entry → Outranks entry other := by
  have hOrdered := h.ordered
  unfold resolveWinnerFromScoreboard
  cases scoreboard with
  | nil => simp
  | cons best rest =>
      rw [List.pairwise_cons] at hOrdered
      rw [List.head?_cons, Option.map_some, Option.some.injEq]
      constructor
      · intro hWinner
        refine ⟨best, List.mem_cons_self, hWinner, fun other hOther hNe => ?_⟩
        exact hOrdered.1 other ((List.mem_cons.mp hOther).resolve_left hNe)
      · rintro ⟨entry, hEntry, hWinner, hBest⟩
        rcases List.mem_cons.mp hEntry with rfl | hRest
        · exact hWinner
        · by_cases hSame : best = entry
          · rw [hSame]
            exact hWinner
          · exact absurd (hBest best List.mem_cons_self hSame)
              (not_outranks (hOrdered.1 entry hRest))

/-- The board does not depend on the order of the table, since no two entries are equal. -/
theorem Alike.buildScoreboard_eq (h : Alike s t) (hKeyed : s.Keyed) :
    t.buildScoreboard = s.buildScoreboard := by
  refine (sortBy_eq_of_perm rankingBetter_isComparator
    ((h.values_perm.filter (·.participated)).map PlayerRecord.score) ?_).symm
  intro a ha b hb hab hba
  rw [rankingBetter_eq_false_iff] at hab hba
  by_contra hNe
  have hIds : a.playerId ≠ b.playerId := fun hSame =>
    hNe (List.inj_on_of_nodup_map hKeyed.scores_nodup ha hb hSame)
  exact hba (outranks_of_not hIds.symm hab)

/-- The match ends in the same way. -/
theorem Alike.finishMatch (h : Alike s t) (hKeyed : s.Keyed) (tick : Nat) (timerExpired : Bool) :
    ∃ ended s' t', s.finishMatch tick timerExpired = (ended, s') ∧
      t.finishMatch tick timerExpired = (ended, t') ∧ Alike s' t' := by
  have hOver : ∀ winner, Alike (s.enterPostMatch tick winner) (t.enterPostMatch tick winner) := by
    intro winner
    obtain ⟨players, hSame, rfl⟩ := h.exists_players
    exact ⟨rfl, hSame⟩
  unfold MatchLifecycleSimulation.finishMatch
  rw [h.clock.phase_eq, h.contenders_eq, h.buildScoreboard_eq hKeyed]
  split
  · exact ⟨_, _, _, rfl, rfl, h⟩
  · split
    · exact ⟨_, _, _, rfl, rfl, hOver _⟩
    · split
      · exact ⟨_, _, _, rfl, rfl, hOver _⟩
      · exact ⟨_, _, _, rfl, rfl, h⟩

end Ranking

/-! Records stay under their ids. -/

/-- No stage of a tick writes the id of a record. -/
theorem unread_playerId : Unread PlayerRecord.playerId where
  participated _ _ := rfl
  connected _ _ := rfl
  alive _ _ := rfl
  coins _ _ := rfl

theorem steady_playerId : Steady PlayerRecord.playerId where
  alive _ _ := rfl
  enter _ _ := rfl
  pending _ _ := rfl

theorem deathless_playerId : Deathless PlayerRecord.playerId where
  touch _ := rfl
  victim config tick record := by
    unfold victimRecord
    dsimp only
    split
    · rfl
    · rfl
  killer _ := rfl

section Keyed

variable {s : MatchLifecycleSimulation}

theorem Keyed.playWith (h : s.Keyed) (call : TickCall) : (s.playWith call).2.Keyed := by
  intro id
  unfold MatchLifecycleSimulation.playWith playTick
  rw [view_applyRespawns steady_playerId, view_applyDeaths deathless_playerId,
    view_openTick unread_playerId steady_playerId]
  exact h id

/-- A tick keeps every record under its own key. -/
theorem Keyed.tickWith (h : s.Keyed) (call : TickCall) : (s.tickWith call).2.Keyed := by
  intro id
  rw [MatchLifecycleSimulation.tickWith, resolveTick_snd, view_finishMatch PlayerRecord.playerId]
  exact h.playWith call id

/-- In every state that is reached each record is under its own key. -/
theorem Reachable.keyed {config : MatchLifecycleConfig} (h : Reachable config s) : s.Keyed := by
  induction h with
  | refl => exact fun _ => rfl
  | @tail before _ _ last ih =>
      intro id
      cases last with
      | ensurePlayer playerId =>
          rw [view_ensurePlayer unread_playerId]
          exact ih id
      | removePlayer playerId =>
          have hLeft := view_modifyPlayer PlayerRecord.playerId before playerId
            (fun record => { record with connected := false, pendingRespawnTick := none })
            (fun _ => rfl) id
          exact hLeft.trans (ih id)
      | reset =>
          have hReset := view_mapValues PlayerRecord.playerId before
            (fun _ record => { record with
              kills := 0
              deaths := 0
              coins := 0
              respawnsRemaining := before.config.respawnsPerPlayer
              alive := true
              eliminated := false
              pendingRespawnTick := none }) (fun _ _ => rfl) id
          exact hReset.trans (ih id)
      | resolveTick tick tickInterval activePlayerIds combatStates deathEvents inventorySummaries =>
          exact ih.tickWith ⟨tick, tickInterval, activePlayerIds, combatStates, deathEvents,
            inventorySummaries⟩ id

end Keyed

/-- The clock ends the match: it runs out in a tick that is not decided by its contenders. -/
def EndsByTimer (s : MatchLifecycleSimulation) (call : TickCall) : Prop :=
  s.RunsOut call.tickInterval ∧ (s.playWith call).2.contenders.length ≠ 1

instance (s : MatchLifecycleSimulation) (call : TickCall) : Decidable (s.EndsByTimer call) :=
  inferInstanceAs (Decidable ((s.phase = .inMatch ∧ 0 < call.tickInterval ∧
    0 < s.inMatchSecondsRemaining ∧ s.inMatchSecondsRemaining * kOneSecond ≤
      s.inMatchSecondAccumulator + call.tickInterval) ∧
    (s.playWith call).2.contenders.length ≠ 1))

section Tick

variable {s t : MatchLifecycleSimulation} {call : TickCall}

/-- The board that a tick reports is that of the state after it. -/
theorem scoreboard_tickWith (s : MatchLifecycleSimulation) (call : TickCall) :
    (s.tickWith call).1.scoreboard = (s.tickWith call).2.buildScoreboard := by
  rw [tickWith, resolveTick]

theorem Alike.buildState_eq (h : Alike s t) (tickInterval : Int) :
    t.buildState tickInterval = s.buildState tickInterval := by
  obtain ⟨players, _, rfl⟩ := h.exists_players
  rfl

/-! A tick, put together from what its stages answer. -/

/-- The opening of a tick from what its two parts give. -/
theorem openWith_eq {call : TickCall} {changed started expired : Bool}
    {counted timed : MatchLifecycleSimulation}
    (hCounted : (s.observeWith call).countDown call.tick = (changed, started, counted))
    (hTimed : counted.runClock call.tickInterval started = (expired, timed)) :
    s.openWith call = (expired, changed, timed) := by
  unfold observeWith at hCounted
  unfold openWith openTick
  rw [hCounted]
  dsimp only
  rw [hTimed]

/-- The playing of a tick from its opening and the stage of deaths and respawns. -/
theorem playWith_eq {call : TickCall} {changed expired : Bool}
    {timed played : MatchLifecycleSimulation} {respawned : List Nat}
    (hOpen : s.openWith call = (expired, changed, timed))
    (hPlayed : (timed.applyDeaths call.tick call.deathEvents).applyRespawns call.tick =
      (respawned, played)) :
    s.playWith call = (respawned, played) := by
  unfold openWith at hOpen
  unfold playWith playTick
  rw [hOpen]
  exact hPlayed

/-- The result of a tick, put together from its three stages. -/
theorem tickWith_eq {call : TickCall} {changed expired ended : Bool}
    {timed played finished : MatchLifecycleSimulation} {respawned : List Nat}
    (hOpen : s.openWith call = (expired, changed, timed))
    (hPlay : s.playWith call = (respawned, played))
    (hFinish : played.finishMatch call.tick expired = (ended, finished)) :
    s.tickWith call =
      ({ state := finished.buildState call.tickInterval
         scoreboard := finished.buildScoreboard
         respawnedPlayers := respawned
         stateChanged := changed || ended
         scoreboardChanged :=
          (call.combatStates.foldl syncCombatState
              (s.markActive call.activePlayerIds)).coinsChange call.inventorySummaries ||
            (timed.phase == .inMatch && !call.deathEvents.isEmpty) || !respawned.isEmpty },
        finished) := by
  unfold playWith playTick at hPlay
  unfold openWith at hOpen
  rw [hOpen] at hPlay
  dsimp only at hPlay
  unfold tickWith resolveTick
  rw [hOpen]
  dsimp only
  rw [hPlay]
  dsimp only
  rw [hFinish]

/-- A tick of alike matches with permuted lists. -/
theorem Alike.tickWith (h : Alike s t) (hKeyed : s.Keyed) {call call' : TickCall}
    (hPerm : Permuted call call') :
    (t.tickWith call').1 = (s.tickWith call).1 ∧
      Alike (s.tickWith call).2 (t.tickWith call').2 := by
  have hCoins := (h.synced hPerm).coinsChange_eq hPerm.inventorySummaries hPerm.summaryIds
  obtain ⟨changed, started, s₁, t₁, hs₁, ht₁, hCounted⟩ := (h.observeWith hPerm).countDown call.tick
  obtain ⟨expired, s₂, t₂, hs₂, ht₂, hTimed⟩ := hCounted.runClock call.tickInterval started
  obtain ⟨respawned, s₄, t₄, hs₄, ht₄, hPlayed⟩ :=
    (hTimed.applyDeaths call.tick hPerm.deathEvents).applyRespawns call.tick
  have hOpen : s.openWith call = (expired, changed, s₂) := openWith_eq hs₁ hs₂
  have hOpen' : t.openWith call' = (expired, changed, t₂) :=
    openWith_eq (hPerm.tick ▸ ht₁) (hPerm.tickInterval ▸ ht₂)
  have hPlay : s.playWith call = (respawned, s₄) := playWith_eq hOpen hs₄
  have hPlay' : t.playWith call' = (respawned, t₄) := by
    apply playWith_eq hOpen'
    rw [hPerm.tick]
    exact ht₄
  have hKeyedPlayed : s₄.Keyed := by
    have hKept := hKeyed.playWith call
    rw [hPlay] at hKept
    exact hKept
  obtain ⟨ended, s₅, t₅, hs₅, ht₅, hEnded⟩ := hPlayed.finishMatch hKeyedPlayed call.tick expired
  have hTick := tickWith_eq hOpen hPlay hs₅
  have hFinish' : t₄.finishMatch call'.tick expired = (ended, t₅) := by
    rw [hPerm.tick]
    exact ht₅
  have hTick' := tickWith_eq hOpen' hPlay' hFinish'
  have hKeyedEnded : s₅.Keyed := by
    have hKept := hKeyed.tickWith call
    rw [hTick] at hKept
    exact hKept
  rw [hTick, hTick']
  refine ⟨?_, hEnded⟩
  dsimp only
  rw [hEnded.buildState_eq, hEnded.buildScoreboard_eq hKeyedEnded, hPerm.tickInterval, hCoins,
    hTimed.clock.phase_eq, hPerm.deathEvents.isEmpty_eq]

/-- When the clock runs out and not just one contender is left, the winner is read off the board. -/
theorem finishMatch_expired (s : MatchLifecycleSimulation) (tick : Nat) (hPhase : s.phase = .inMatch)
    (hMany : s.contenders.length ≠ 1) :
    s.finishMatch tick true =
      (true, s.enterPostMatch tick (resolveWinnerFromScoreboard s.buildScoreboard)) := by
  unfold finishMatch
  rw [if_neg (not_not.mpr hPhase)]
  split
  · rename_i winner hOne
    rw [hOne] at hMany
    exact absurd rfl hMany
  · rfl

/-- A match that the clock ends takes its winner from the scoreboard of that tick. -/
theorem EndsByTimer.winner (h : s.EndsByTimer call) :
    (s.tickWith call).1.state.phase = .postMatch ∧
      (s.tickWith call).1.state.winnerPlayerId =
        resolveWinnerFromScoreboard (s.tickWith call).1.scoreboard := by
  obtain ⟨hRunsOut, hMany⟩ := h
  have hExpired : (s.openWith call).1 = true := (openTick_runsOut ..).mpr hRunsOut
  have hPlayed : (s.playWith call).2.phase = .inMatch := by
    rw [(s.sameClock_playWith call).phase_eq]
    exact (phase_openTick ..).mpr (Or.inl hRunsOut.1)
  obtain ⟨⟨expired, changed, timed⟩, hOpen⟩ : ∃ opened, s.openWith call = opened := ⟨_, rfl⟩
  obtain ⟨⟨respawned, played⟩, hPlay⟩ : ∃ played, s.playWith call = played := ⟨_, rfl⟩
  rw [hOpen] at hExpired
  rw [hPlay] at hPlayed hMany
  obtain rfl : expired = true := hExpired
  have hFinish := finishMatch_expired played call.tick hPlayed hMany
  rw [tickWith_eq hOpen hPlay hFinish]
  exact ⟨rfl, rfl⟩

end Tick

/-- A tick of a reachable match does not depend on the order of its inputs or of the player
table. Its scoreboard ranks every participating record once, and a winner by the clock is
the one entry that outranks all the others. -/
theorem match_results_ranked {config : MatchLifecycleConfig} {s : MatchLifecycleSimulation}
    (hReach : Reachable config s) (call : TickCall) :
    (∀ t call', Alike s t → Permuted call call' →
      (t.tickWith call').1 = (s.tickWith call).1 ∧
        Alike (s.tickWith call).2 (t.tickWith call').2) ∧
    Ranking (s.tickWith call).2 (s.tickWith call).1.scoreboard ∧
    (s.EndsByTimer call →
      (s.tickWith call).1.state.phase = .postMatch ∧
        ∀ winner, (s.tickWith call).1.state.winnerPlayerId = some winner ↔
          ∃ entry ∈ (s.tickWith call).1.scoreboard, entry.playerId = winner ∧
            ∀ other ∈ (s.tickWith call).1.scoreboard, other ≠ entry → Outranks entry other) := by
  have hKeyed := hReach.keyed
  have hRanking : Ranking (s.tickWith call).2 (s.tickWith call).1.scoreboard := by
    rw [scoreboard_tickWith]
    exact (hKeyed.tickWith call).ranking
  refine ⟨fun t call' hAlike hPerm => hAlike.tickWith hKeyed hPerm, hRanking, fun hTimer => ?_⟩
  obtain ⟨hPhase, hWinner⟩ := hTimer.winner
  refine ⟨hPhase, fun winner => ?_⟩
  rw [hWinner]
  exact hRanking.winner_iff winner

def timerStart : MatchLifecycleSimulation :=
  ((create { preMatchTicks := 1, matchDurationSeconds := 1 }).tickWith
    { tick := 1, activePlayerIds := [1, 2] }).2

/-- Two players join, and the match of one second starts. -/
theorem timerStart_reachable :
    Reachable { preMatchTicks := 1, matchDurationSeconds := 1 } timerStart :=
  Relation.ReflTransGen.single (.resolveTick _ 1 0 [1, 2] [] [] [])

/-- The clock runs out in the tick in which player 2 kills player 1. -/
def timerCall : TickCall where
  tick := 2
  tickInterval := 1000000000
  activePlayerIds := [1, 2]
  deathEvents := [{ victimId := 1, killerId := 2 }]

/-- The clock runs out on a board of two, and its winner is above the other. -/
theorem match_results_ranked_timer :
    ∃ entry ∈ (timerStart.tickWith timerCall).1.scoreboard, entry.playerId = 2 ∧
      ∀ other ∈ (timerStart.tickWith timerCall).1.scoreboard, other ≠ entry →
        Outranks entry other :=
  (((match_results_ranked timerStart_reachable timerCall).2.2
      ⟨⟨by decide, by decide, by decide, by decide⟩, by decide⟩).2 2).mp (by decide)

end MatchLifecycleSimulation

end DevyFps.Server
