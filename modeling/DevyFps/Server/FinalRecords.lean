import DevyFps.Server.MatchOrder

/-! The records behind the scoreboard: every record takes part, its coins are those of the last
summary of its player, and a match that is over only reads the other components. -/

namespace DevyFps.Server

open Foundations

namespace MatchLifecycleSimulation

/-- Every record was written by `ensure_player`. -/
def Enrolled (s : MatchLifecycleSimulation) : Prop :=
  ∀ id record, s.playersById.find id = some record → record.participated = true

section Enrolled

variable {s : MatchLifecycleSimulation}

/-- Whoever becomes known takes part in the match. -/
theorem Enrolled.ensurePlayer (h : s.Enrolled) (playerId : Nat) :
    (s.ensurePlayer playerId).Enrolled := by
  intro id record hFind
  rw [find_ensurePlayer] at hFind
  split at hFind
  · injection hFind with hFind
    rw [← hFind]
    rfl
  · exact h id record hFind

/-- A write that keeps the mark of taking part keeps everybody enrolled. -/
theorem Enrolled.modifyPlayer (h : s.Enrolled) (playerId : Nat) {f : PlayerRecord → PlayerRecord}
    (hSame : ∀ record, (f record).participated = record.participated) :
    (s.modifyPlayer playerId f).Enrolled := by
  intro id record hFind
  unfold MatchLifecycleSimulation.modifyPlayer at hFind
  rw [UnorderedMap.find_modify] at hFind
  split at hFind
  · obtain ⟨before, hBefore, hRecord⟩ := Option.map_eq_some_iff.mp hFind
    rw [← hRecord, hSame]
    exact h playerId before hBefore
  · exact h id record hFind

theorem Enrolled.mapValues (h : s.Enrolled) {f : Nat → PlayerRecord → PlayerRecord}
    (hSame : ∀ key record, (f key record).participated = record.participated) :
    ({ s with playersById := s.playersById.mapValues f }).Enrolled := by
  intro id record hFind
  rw [UnorderedMap.find_mapValues] at hFind
  obtain ⟨before, hBefore, hRecord⟩ := Option.map_eq_some_iff.mp hFind
  rw [← hRecord, hSame]
  exact h id before hBefore

/-- A loop keeps everybody enrolled if each of its rounds does. -/
theorem Enrolled.foldl {α : Type} {f : MatchLifecycleSimulation → α → MatchLifecycleSimulation}
    (hStep : ∀ (t : MatchLifecycleSimulation) a, t.Enrolled → (f t a).Enrolled) (h : s.Enrolled)
    (l : List α) : (l.foldl f s).Enrolled := by
  induction l generalizing s with
  | nil => exact h
  | cons head rest ih => exact ih (hStep s head h)

/-- Every player that a tick observes is made known first. -/
theorem Enrolled.observeWith (h : s.Enrolled) (call : TickCall) :
    (s.observeWith call).Enrolled := by
  have hMarked : (s.markActive call.activePlayerIds).Enrolled := by
    unfold markActive
    exact (Enrolled.foldl (fun _ id hBefore => hBefore.ensurePlayer id) h _).mapValues
      fun _ _ => rfl
  refine Enrolled.foldl (fun t summary hBefore => ?_)
    (Enrolled.foldl (fun t state hBefore => ?_) hMarked _) _
  · exact (hBefore.ensurePlayer summary.playerId).modifyPlayer _ fun _ => rfl
  · refine (hBefore.ensurePlayer state.playerId).modifyPlayer _ fun record => ?_
    split
    · rfl
    · rfl

/-- The start of a match resets the records but keeps the mark. -/
theorem Enrolled.openWith (h : s.Enrolled) (call : TickCall) : (s.openWith call).2.2.Enrolled := by
  unfold MatchLifecycleSimulation.openWith
  rcases s.openTick_cases call.tick call.tickInterval call.activePlayerIds call.combatStates
    call.inventorySummaries with ⟨-, -, _, _, _, hAfter⟩ | ⟨-, _, _, _, hAfter⟩
  · rw [hAfter]
    exact (h.observeWith call).mapValues fun _ _ => rfl
  · rw [hAfter]
    exact h.observeWith call

/-- Victim and attacker are made known before their records are changed. -/
theorem Enrolled.recordDeath (h : s.Enrolled) (tick : Nat) (death : DeathResolution) :
    (s.recordDeath tick death).Enrolled := by
  have hVictim : ∀ record, (victimRecord s.config tick record).participated =
      record.participated := by
    intro record
    unfold victimRecord
    dsimp only
    split
    · rfl
    · rfl
  have hBuried := (h.ensurePlayer death.victimId).modifyPlayer death.victimId hVictim
  unfold MatchLifecycleSimulation.recordDeath
  dsimp only
  split
  · exact (hBuried.ensurePlayer death.killerId).modifyPlayer death.killerId fun _ => rfl
  · exact hBuried

theorem Enrolled.applyDeaths (h : s.Enrolled) (tick : Nat) (deathEvents : List DeathResolution) :
    (s.applyDeaths tick deathEvents).Enrolled := by
  have hRecorded : ∀ (deaths : List DeathResolution) (t : MatchLifecycleSimulation)
      (handled : Finset Nat), t.Enrolled → (t.recordDeaths tick deaths handled).Enrolled :=
    keeps_recordDeaths (R := fun t u => t.Enrolled → u.Enrolled) (fun _ hBefore => hBefore)
      (fun hFirst hSecond hBefore => hSecond (hFirst hBefore))
      fun _ death hBefore => hBefore.recordDeath tick death
  unfold MatchLifecycleSimulation.applyDeaths
  split
  · exact hRecorded _ s ∅ h
  · exact h

theorem Enrolled.applyRespawns (h : s.Enrolled) (tick : Nat) :
    (s.applyRespawns tick).2.Enrolled := by
  have hDue : ∀ (ids : List Nat) (t : MatchLifecycleSimulation), t.Enrolled →
      (t.respawnDue tick ids).2.Enrolled :=
    keeps_respawnDue (R := fun t u => t.Enrolled → u.Enrolled) (fun _ hBefore => hBefore)
      (fun hFirst hSecond hBefore => hSecond (hFirst hBefore))
      (fun _ head hBefore => hBefore.modifyPlayer head fun _ => rfl)
      (fun _ head hBefore => hBefore.modifyPlayer head fun _ => rfl) tick
  unfold MatchLifecycleSimulation.applyRespawns
  split
  · exact hDue _ s h
  · exact h

/-- A tick keeps everybody enrolled. -/
theorem Enrolled.tickWith (h : s.Enrolled) (call : TickCall) : (s.tickWith call).2.Enrolled := by
  have hPlayed : (s.playWith call).2.Enrolled :=
    ((h.openWith call).applyDeaths call.tick call.deathEvents).applyRespawns call.tick
  rcases s.tickWith_cases call with ⟨-, -, winner, hAfter⟩ | ⟨-, hAfter⟩
  · rw [hAfter]
    exact hPlayed
  · rw [hAfter]
    exact hPlayed

end Enrolled

/-! The coins of a record. -/

theorem steady_coins : Steady PlayerRecord.coins where
  alive _ _ := rfl
  enter _ _ := rfl
  pending _ _ := rfl

/-- Deaths cost no coins, in the record of the match. -/
theorem deathless_coins : Deathless PlayerRecord.coins where
  touch _ := rfl
  victim config tick record := by
    unfold victimRecord
    dsimp only
    split
    · rfl
    · rfl
  killer _ := rfl

theorem coins_ensurePlayer (s : MatchLifecycleSimulation) (playerId id : Nat) :
    ((s.ensurePlayer playerId).recordOf id).coins = (s.recordOf id).coins :=
  view_touched deathless_coins.touch s playerId id

/-- The coins of a player are those of its summary. -/
theorem coins_syncCoins (s : MatchLifecycleSimulation) (summary : InventorySummary) (id : Nat) :
    ((s.syncCoins summary).recordOf id).coins =
      if id = summary.playerId then summary.totalValue else (s.recordOf id).coins := by
  unfold syncCoins
  rw [recordOf_modifyPlayer_ensured]
  split
  · rfl
  · rfl

/-- A player without a summary keeps its coins. -/
theorem coins_of_unlisted {summaries : List InventorySummary} {id : Nat}
    (h : ∀ summary ∈ summaries, summary.playerId ≠ id) (s : MatchLifecycleSimulation) :
    ((summaries.foldl syncCoins s).recordOf id).coins = (s.recordOf id).coins := by
  induction summaries generalizing s with
  | nil => rfl
  | cons head rest ih =>
      have hHead : id ≠ head.playerId := (h head List.mem_cons_self).symm
      rw [List.foldl_cons, ih fun summary hSummary => h summary (List.mem_cons_of_mem _ hSummary),
        coins_syncCoins, if_neg hHead]

/-- A player with one summary has the coins that it tells. -/
theorem coins_of_listed {summaries : List InventorySummary}
    (hIds : (summaries.map InventorySummary.playerId).Nodup) {summary : InventorySummary}
    (h : summary ∈ summaries) (s : MatchLifecycleSimulation) :
    ((summaries.foldl syncCoins s).recordOf summary.playerId).coins = summary.totalValue := by
  induction summaries generalizing s with
  | nil => cases h
  | cons head rest ih =>
      rw [List.map_cons, List.nodup_cons] at hIds
      rw [List.foldl_cons]
      rcases List.mem_cons.mp h with rfl | hRest
      · have hLater : ∀ other ∈ rest, other.playerId ≠ summary.playerId := by
          intro other hOther hSame
          exact hIds.1 (hSame ▸ List.mem_map_of_mem hOther)
        rw [coins_of_unlisted hLater, coins_syncCoins, if_pos rfl]
      · exact ih hIds.2 hRest (s.syncCoins head)

/-- A tick writes coins where it reads the summaries, and nowhere else. -/
theorem coins_tickWith (s : MatchLifecycleSimulation) (call : TickCall) (id : Nat) :
    ((s.tickWith call).2.recordOf id).coins = ((s.observeWith call).recordOf id).coins := by
  rw [tickWith, resolveTick_snd, view_finishMatch PlayerRecord.coins]
  unfold playTick
  rw [view_applyRespawns steady_coins, view_applyDeaths deathless_coins]
  unfold openTick
  dsimp only
  rw [view_runClock PlayerRecord.coins, view_countDown steady_coins]
  rfl

/-- Before the summaries are read the coins are those of the tick before. -/
theorem coins_synced (s : MatchLifecycleSimulation) (activePlayerIds : List Nat)
    (combatStates : List PlayerCombatState) (id : Nat) :
    ((combatStates.foldl syncCombatState (s.markActive activePlayerIds)).recordOf id).coins =
      (s.recordOf id).coins := by
  have hCombat : ∀ (t : MatchLifecycleSimulation) state,
      ((t.syncCombatState state).recordOf id).coins = (t.recordOf id).coins := by
    intro t state
    refine (view_modifyPlayer PlayerRecord.coins _ state.playerId _ (fun record => ?_) id).trans
      (t.coins_ensurePlayer state.playerId id)
    split
    · rfl
    · rfl
  let mark (playerId : Nat) (record : PlayerRecord) : PlayerRecord :=
    { record with connected := activePlayerIds.contains playerId }
  have hMark := view_mapValues PlayerRecord.coins (activePlayerIds.foldl ensurePlayer s) mark
    (fun _ _ => rfl) id
  rw [view_foldl hCombat]
  exact hMark.trans (view_foldl (fun t playerId => t.coins_ensurePlayer playerId id) _ s)

/-! A match that is over. -/

/-- A tick of a match that is over takes over what the other components report. -/
theorem tickWith_of_over {s : MatchLifecycleSimulation} (h : s.phase = .postMatch)
    (call : TickCall) : (s.tickWith call).2 = s.observeWith call := by
  have hStarted : s.phase ≠ .preMatch := by
    rw [h]
    exact MatchPhase.noConfusion
  have hObserved : (s.observeWith call).phase ≠ .inMatch := by
    rw [(s.sameClock_observeWith call).phase_eq, h]
    exact MatchPhase.noConfusion
  have hOpen : (s.openWith call).2.2 = s.observeWith call := by
    rw [openWith_of_started hStarted, runClock]
    simp [hObserved]
  have hPlay : (s.playWith call).2 = s.observeWith call := by
    have hIdle := s.playTick_of_idle call.tick call.tickInterval call.activePlayerIds
      call.combatStates call.deathEvents call.inventorySummaries (by
        change (s.openWith call).2.2.phase ≠ _
        rw [hOpen]
        exact hObserved)
    rw [playWith, hIdle]
    exact hOpen
  rcases s.tickWith_cases call with ⟨hIn, -⟩ | ⟨-, hSame⟩
  · rw [hPlay] at hIn
    exact absurd hIn hObserved
  · rw [hSame, hPlay]

/-- Nobody who has a record loses it. -/
def Remembers (s t : MatchLifecycleSimulation) : Prop :=
  ∀ id, s.playersById.find id ≠ none → t.playersById.find id ≠ none

/-- A loop remembers every player if each of its rounds does. -/
theorem Remembers.foldl {α : Type} {f : MatchLifecycleSimulation → α → MatchLifecycleSimulation}
    (h : ∀ (t : MatchLifecycleSimulation) a, Remembers t (f t a)) (l : List α)
    (s : MatchLifecycleSimulation) : Remembers s (l.foldl f s) := by
  induction l generalizing s with
  | nil => exact fun _ hKnown => hKnown
  | cons head rest ih => exact fun id hKnown => ih (f s head) id (h s head id hKnown)

theorem remembers_ensurePlayer (s : MatchLifecycleSimulation) (playerId : Nat) :
    Remembers s (s.ensurePlayer playerId) := by
  intro id hKnown
  rw [find_ensurePlayer]
  split
  · exact Option.some_ne_none _
  · exact hKnown

theorem remembers_modifyPlayer (s : MatchLifecycleSimulation) (playerId : Nat)
    (f : PlayerRecord → PlayerRecord) : Remembers s (s.modifyPlayer playerId f) := by
  intro id hKnown
  unfold modifyPlayer
  rw [UnorderedMap.find_modify]
  split
  · rename_i hId
    rw [Ne, Option.map_eq_none_iff, ← hId]
    exact hKnown
  · exact hKnown

/-- What a tick observes erases nobody. -/
theorem remembers_observeWith (s : MatchLifecycleSimulation) (call : TickCall) :
    Remembers s (s.observeWith call) := by
  intro id hKnown
  have hEnsured := Remembers.foldl remembers_ensurePlayer call.activePlayerIds s id hKnown
  have hMarked : (s.markActive call.activePlayerIds).playersById.find id ≠ none := by
    unfold markActive
    dsimp only
    rw [UnorderedMap.find_mapValues, Ne, Option.map_eq_none_iff]
    exact hEnsured
  have hCombat := Remembers.foldl (f := syncCombatState) (fun t state id hBefore =>
    remembers_modifyPlayer _ state.playerId _ id (t.remembers_ensurePlayer state.playerId id hBefore))
    call.combatStates _ id hMarked
  exact Remembers.foldl (f := syncCoins) (fun t summary id hBefore =>
    remembers_modifyPlayer _ summary.playerId _ id
      (t.remembers_ensurePlayer summary.playerId id hBefore)) call.inventorySummaries _ id hCombat

/-! The entries of the scoreboard. -/

/-- The scoreboard has an entry for every record. -/
theorem mem_buildScoreboard {s : MatchLifecycleSimulation} (hKeyed : s.Keyed)
    (hEnrolled : s.Enrolled) {entry : MatchScoreEntry} :
    entry ∈ s.buildScoreboard ↔ s.playersById.find entry.playerId ≠ none ∧
      entry = (s.recordOf entry.playerId).score := by
  unfold buildScoreboard
  rw [mem_sortBy, List.mem_map]
  constructor
  · rintro ⟨record, hRecord, rfl⟩
    obtain ⟨id, hFind⟩ := UnorderedMap.mem_values_iff.mp (List.mem_filter.mp hRecord).1
    have hId := hKeyed id
    rw [recordOf_of_find hFind] at hId
    change s.playersById.find record.playerId ≠ none ∧
      record.score = (s.recordOf record.playerId).score
    rw [hId, hFind, recordOf_of_find hFind]
    exact ⟨Option.some_ne_none record, rfl⟩
  · rintro ⟨hKnown, hEntry⟩
    obtain ⟨record, hFind⟩ := Option.ne_none_iff_exists'.mp hKnown
    rw [recordOf_of_find hFind] at hEntry
    refine ⟨record, List.mem_filter.mpr ⟨UnorderedMap.mem_values_iff.mpr ⟨_, hFind⟩, ?_⟩, hEntry.symm⟩
    exact hEnrolled _ record hFind

end MatchLifecycleSimulation

end DevyFps.Server
