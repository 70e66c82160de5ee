import DevyFps.Server.ConnectedPlayers
import DevyFps.Server.MatchStandings

/-! Whether a match in play has at least two players who are connected and not out. -/

namespace DevyFps.Server

open Foundations

/-- The order of the deaths is one that `std::sort` can use. -/
theorem deathLess_isComparator : IsComparator deathLess where
  asymm a b h := by
    unfold deathLess at h ⊢
    split_ifs at h ⊢ <;> simp only [decide_eq_true_eq, decide_eq_false_iff_not] at h ⊢ <;> omega
  notAfter_trans a b c h h' := by
    unfold deathLess at h h' ⊢
    split_ifs at h h' ⊢ <;> simp only [decide_eq_false_iff_not] at h h' ⊢ <;> omega

/-- The death counts as a kill of the player. -/
def DeathResolution.Credits (death : DeathResolution) (playerId : Nat) : Prop :=
  death.killerId = playerId ∧ death.killerId ≠ 0 ∧ death.killerId ≠ death.victimId

/-- The player is credited with a kill: of several deaths of one victim in a tick the one
with the smallest killer counts. -/
def Credited (deathEvents : List DeathResolution) (playerId : Nat) : Prop :=
  ∃ death ∈ deathEvents, death.Credits playerId ∧
    ∀ other ∈ deathEvents, other.victimId = death.victimId → death.killerId ≤ other.killerId

/-- The first death of its victim in the sorted list credits the player. -/
def FirstCredited (deaths : List DeathResolution) (handled : Finset Nat) (playerId : Nat) : Prop :=
  ∃ victimId, victimId ∉ handled ∧ ∃ death,
    deaths.find? (fun death => death.victimId = victimId) = some death ∧ death.Credits playerId

/-- A second death of a victim credits nobody. -/
theorem firstCredited_cons_handled {death : DeathResolution} {rest : List DeathResolution}
    {handled : Finset Nat} (h : death.victimId ∈ handled) (playerId : Nat) :
    FirstCredited (death :: rest) handled playerId ↔ FirstCredited rest handled playerId := by
  have hSkip : ∀ victimId, victimId ∉ handled → ¬ death.victimId = victimId :=
    fun victimId hNew hSame => hNew (hSame ▸ h)
  unfold FirstCredited
  constructor
  · rintro ⟨victimId, hNew, first, hFind, hCredits⟩
    rw [List.find?_cons_of_neg (by simpa using hSkip victimId hNew)] at hFind
    exact ⟨victimId, hNew, first, hFind, hCredits⟩
  · rintro ⟨victimId, hNew, first, hFind, hCredits⟩
    refine ⟨victimId, hNew, first, ?_, hCredits⟩
    rw [List.find?_cons_of_neg (by simpa using hSkip victimId hNew)]
    exact hFind

/-- The first death of a victim credits its killer. -/
theorem firstCredited_cons_new {death : DeathResolution} {rest : List DeathResolution}
    {handled : Finset Nat} (h : death.victimId ∉ handled) (playerId : Nat) :
    FirstCredited (death :: rest) handled playerId ↔
      death.Credits playerId ∨ FirstCredited rest (insert death.victimId handled) playerId := by
  unfold FirstCredited
  constructor
  · rintro ⟨victimId, hNew, first, hFind, hCredits⟩
    by_cases hSame : death.victimId = victimId
    · rw [List.find?_cons_of_pos (by simpa using hSame), Option.some.injEq] at hFind
      exact Or.inl (hFind ▸ hCredits)
    · rw [List.find?_cons_of_neg (by simpa using hSame)] at hFind
      refine Or.inr ⟨victimId, ?_, first, hFind, hCredits⟩
      rw [Finset.mem_insert]
      exact fun hOr => hOr.elim (fun hEq => hSame hEq.symm) hNew
  · rintro (hCredits | ⟨victimId, hNew, first, hFind, hCredits⟩)
    · exact ⟨death.victimId, h, death, List.find?_cons_of_pos (by simp), hCredits⟩
    · rw [Finset.mem_insert, not_or] at hNew
      refine ⟨victimId, hNew.2, first, ?_, hCredits⟩
      rw [List.find?_cons_of_neg (by simpa using Ne.symm hNew.1)]
      exact hFind

/-- In the order of the sort the first death of a victim has its smallest killer. -/
theorem credited_iff (deathEvents : List DeathResolution) (playerId : Nat) :
    FirstCredited (sortBy deathLess deathEvents) ∅ playerId ↔ Credited deathEvents playerId := by
  have hFirst : ∀ victimId first,
      (sortBy deathLess deathEvents).find? (fun death => death.victimId = victimId) = some first →
        first ∈ deathEvents ∧ first.victimId = victimId ∧
          ∀ other ∈ deathEvents, other.victimId = victimId → first.killerId ≤ other.killerId := by
    intro victimId first hFind
    have hVictim : first.victimId = victimId := by simpa using List.find?_some hFind
    obtain ⟨_, before, after, hSplit, hBefore⟩ := List.find?_eq_some_iff_append.mp hFind
    have hSorted := sortBy_pairwise deathLess_isComparator deathEvents
    rw [hSplit, List.pairwise_append, List.pairwise_cons] at hSorted
    refine ⟨mem_sortBy.mp (List.mem_of_find?_eq_some hFind), hVictim, fun other hOther hSame => ?_⟩
    have hMem : other ∈ before ++ first :: after := hSplit ▸ mem_sortBy.mpr hOther
    rcases List.mem_append.mp hMem with hEarly | hLate
    · have hNot := hBefore other hEarly
      simp [hSame] at hNot
    · rcases List.mem_cons.mp hLate with hEq | hAfter
      · rw [hEq]
      · have hLess := hSorted.2.1.1 other hAfter
        unfold deathLess at hLess
        rw [if_neg (not_not.mpr (hSame.trans hVictim.symm))] at hLess
        split at hLess
        · rw [decide_eq_false_iff_not] at hLess
          exact not_lt.mp hLess
        · rename_i hKiller
          exact (not_not.mp hKiller).ge
  unfold FirstCredited Credited
  constructor
  · rintro ⟨victimId, _, first, hFind, hCredits⟩
    obtain ⟨hMem, hVictim, hLeast⟩ := hFirst victimId first hFind
    exact ⟨first, hMem, hCredits, fun other hOther hSame =>
      hLeast other hOther (hSame.trans hVictim)⟩
  · rintro ⟨death, hMem, hCredits, hLeast⟩
    have hSome : ((sortBy deathLess deathEvents).find?
        fun other => other.victimId = death.victimId).isSome = true := by
      rw [List.find?_isSome]
      exact ⟨death, mem_sortBy.mpr hMem, by simp⟩
    obtain ⟨first, hFind⟩ := Option.isSome_iff_exists.mp hSome
    obtain ⟨hFirstMem, hVictim, hFirstLeast⟩ := hFirst death.victimId first hFind
    have hKiller : first.killerId = death.killerId :=
      le_antisymm (hFirstLeast death hMem rfl) (hLeast first hFirstMem hVictim)
    refine ⟨death.victimId, Finset.notMem_empty _, first, hFind, ?_⟩
    obtain ⟨hIs, hSomeone, hOther⟩ := hCredits
    exact ⟨hKiller.trans hIs, hKiller ▸ hSomeone, by rw [hKiller, hVictim]; exact hOther⟩

namespace MatchLifecycleSimulation

/-- Deaths connect their victims and the killers that they credit. -/
theorem isConnected_recordDeath_iff (s : MatchLifecycleSimulation) (tick : Nat)
    (death : DeathResolution) (id : Nat) :
    (s.recordDeath tick death).isConnected id = true ↔
      s.isConnected id = true ∨ id = death.victimId ∨ death.Credits id := by
  unfold recordDeath DeathResolution.Credits
  dsimp only
  split
  · rename_i hKill
    rw [isConnected_modifyPlayer _ _ _ killerRecord fun _ => rfl, isConnected_ensurePlayer,
      isConnected_victimRecord]
    simp only [Bool.or_eq_true, decide_eq_true_eq]
    constructor
    · rintro (hKiller | hVictim | hOld)
      · exact Or.inr (Or.inr ⟨hKiller.symm, hKill⟩)
      · exact Or.inr (Or.inl hVictim)
      · exact Or.inl hOld
    · rintro (hOld | hVictim | hCredits)
      · exact Or.inr (Or.inr hOld)
      · exact Or.inr (Or.inl hVictim)
      · exact Or.inl hCredits.1.symm
  · rename_i hNoKill
    rw [isConnected_victimRecord]
    simp only [Bool.or_eq_true, decide_eq_true_eq]
    constructor
    · exact fun h => h.elim (fun hVictim => Or.inr (Or.inl hVictim)) Or.inl
    · rintro (hOld | hVictim | hCredits)
      · exact Or.inr hOld
      · exact Or.inl hVictim
      · exact absurd hCredits.2 hNoKill

/-- After the deaths of a tick the victims and the credited killers are connected as well. -/
theorem isConnected_recordDeaths_iff (tick : Nat) (deaths : List DeathResolution)
    (s : MatchLifecycleSimulation) (handled : Finset Nat) (id : Nat) :
    (s.recordDeaths tick deaths handled).isConnected id = true ↔
      s.isConnected id = true ∨ (Died deaths id ∧ id ∉ handled) ∨
        FirstCredited deaths handled id := by
  induction deaths generalizing s handled with
  | nil => simp [recordDeaths, Died, FirstCredited]
  | cons death rest ih =>
      have hDied := died_cons death rest id
      unfold recordDeaths
      split
      · rename_i hHandled
        rw [ih, firstCredited_cons_handled hHandled, hDied]
        have hSkip : id ∉ handled → ¬ death.victimId = id := fun hNew hSame => hNew (hSame ▸ hHandled)
        tauto
      · rename_i hNew
        rw [ih, firstCredited_cons_new hNew, isConnected_recordDeath_iff, hDied, Finset.mem_insert]
        by_cases hSame : death.victimId = id
        · have hFresh : id ∉ handled := hSame ▸ hNew
          simp [hSame, hFresh]
        · have hOther : ¬ id = death.victimId := fun h => hSame h.symm
          simp only [hSame, hOther, false_or]
          exact or_assoc.trans (or_congr_right or_left_comm)

/-- How many records are connected and not eliminated. -/
def opponents (s : MatchLifecycleSimulation) : Nat :=
  (s.playersById.values.filter fun record => record.connected && !record.eliminated).length

/-- The contenders are counted. -/
theorem length_contenders (s : MatchLifecycleSimulation) : s.contenders.length = s.opponents := by
  unfold contenders opponents
  rw [length_sortBy, List.length_map, ← UnorderedMap.map_snd_items, List.filter_map,
    List.length_map]
  rfl

theorem opponents_pos_iff (s : MatchLifecycleSimulation) :
    0 < s.opponents ↔ ∃ id, s.isConnected id = true ∧ (s.standing id).eliminated = false := by
  unfold opponents
  rw [List.length_pos_iff_exists_mem]
  simp only [List.mem_filter, UnorderedMap.mem_values_iff, Bool.and_eq_true, Bool.not_eq_true']
  constructor
  · rintro ⟨record, ⟨id, hFind⟩, hConnected, hIn⟩
    refine ⟨id, isConnected_iff.mpr ⟨record, hFind, hConnected⟩, ?_⟩
    rw [standing_of_find hFind]
    exact hIn
  · rintro ⟨id, hConnected, hIn⟩
    obtain ⟨record, hFind, hFlag⟩ := isConnected_iff.mp hConnected
    rw [standing_of_find hFind] at hIn
    exact ⟨record, ⟨id, hFind⟩, hFlag, hIn⟩

/-- The players that the lists of a tick mention. -/
def mentioned (activePlayerIds : List Nat) (combatStates : List PlayerCombatState)
    (inventorySummaries : List InventorySummary) : Finset Nat :=
  (activePlayerIds ++ combatStates.map PlayerCombatState.playerId ++
    inventorySummaries.map InventorySummary.playerId).toFinset

/-- A tick that mentions these players starts the match. -/
def StartsWith (s : MatchLifecycleSimulation) (ids : Finset Nat) : Prop :=
  s.phase = .preMatch ∧ s.config.minPlayersToStart ≤ ids.card ∧ s.preMatchTicksRemaining ≤ 1

instance (s : MatchLifecycleSimulation) (ids : Finset Nat) : Decidable (s.StartsWith ids) :=
  inferInstanceAs (Decidable (_ ∧ _ ∧ _))

/-- The standing of a player when the deaths of the tick are recorded. -/
def opening (s : MatchLifecycleSimulation) (ids : Finset Nat) (playerId : Nat) : Standing :=
  if s.StartsWith ids then .fresh s.config else s.standing playerId

/-- The player is mentioned by the tick and still in after its deaths: it was not out, or,
if it dies, it has a respawn left. -/
structure Contends (s : MatchLifecycleSimulation) (ids : Finset Nat)
    (deathEvents : List DeathResolution) (playerId : Nat) : Prop where
  named : playerId ∈ ids ∨ Died deathEvents playerId ∨ Credited deathEvents playerId
  survives : Died deathEvents playerId → 0 < (s.opening ids playerId).respawnsRemaining
  stays : ¬ Died deathEvents playerId → (s.opening ids playerId).eliminated = false

/-- A match that is in play or starts, whose clock does not run out, and in which nobody
contends. -/
structure Deserted (s : MatchLifecycleSimulation) (tickInterval : Int) (ids : Finset Nat)
    (deathEvents : List DeathResolution) : Prop where
  played : s.phase = .inMatch ∨ s.StartsWith ids
  lasts : ¬ s.RunsOut tickInterval
  empty : ∀ playerId, ¬ s.Contends ids deathEvents playerId

/-- A death decides by the respawns left whether its victim is out. -/
theorem eliminated_dieIf (died : Prop) [Decidable died] (config : MatchLifecycleConfig)
    (tick : Nat) (standing : Standing) :
    (standing.dieIf died config tick).eliminated = false ↔
      (died → 0 < standing.respawnsRemaining) ∧ (¬ died → standing.eliminated = false) := by
  unfold Standing.dieIf
  by_cases h : died
  · rw [if_pos h]
    unfold Standing.die
    split
    · rename_i hLeft
      exact ⟨fun _ => ⟨fun _ => hLeft, fun hNot => absurd h hNot⟩, fun _ => rfl⟩
    · rename_i hNone
      exact ⟨fun hOut => (nomatch hOut), fun hLeft => absurd (hLeft.1 h) hNone⟩
  · rw [if_neg h]
    exact ⟨fun hIn => ⟨fun hDied => absurd hDied h, fun _ => hIn⟩, fun hIn => hIn.2 h⟩

section Tick

variable (s : MatchLifecycleSimulation) (tick : Nat) (tickInterval : Int)
  (activePlayerIds : List Nat) (combatStates : List PlayerCombatState)
  (deathEvents : List DeathResolution) (inventorySummaries : List InventorySummary)

/-- After a tick has observed, exactly those that it mentions are connected. -/
theorem connectedCount_observe :
    (s.observe activePlayerIds combatStates inventorySummaries).connectedCount =
      (mentioned activePlayerIds combatStates inventorySummaries).card := by
  apply UnorderedMap.length_filter_values
  intro id
  have hConnected : (s.observe activePlayerIds combatStates inventorySummaries).isConnected id =
      ((inventorySummaries.map InventorySummary.playerId).contains id ||
        ((combatStates.map PlayerCombatState.playerId).contains id ||
          activePlayerIds.contains id)) := by
    rw [observe, isConnected_syncAllCoins, isConnected_syncCombatStates, isConnected_markActive]
  unfold isConnected at hConnected
  rw [hConnected, mentioned, List.mem_toFinset]
  simp only [List.mem_append, Bool.or_eq_true, List.contains_iff_mem]
  tauto

/-- So whether the match starts depends on how many it mentions. -/
theorem starts_observe :
    (s.observe activePlayerIds combatStates inventorySummaries).Starts ↔
      s.StartsWith (mentioned activePlayerIds combatStates inventorySummaries) := by
  have hObserve := s.sameClock_observe activePlayerIds combatStates inventorySummaries
  unfold Starts StartsWith
  rw [connectedCount_observe, hObserve.phase_eq, hObserve.config_eq,
    show (s.observe activePlayerIds combatStates inventorySummaries).preMatchTicksRemaining =
      s.preMatchTicksRemaining by rw [hObserve]]

/-- The standing of a player after the opening of a tick, by those that it mentions. -/
theorem opening_eq (id : Nat) :
    (s.openTick tick tickInterval activePlayerIds combatStates inventorySummaries).2.2.standing id =
      s.opening (mentioned activePlayerIds combatStates inventorySummaries) id := by
  obtain ⟨hStarts, hWaits⟩ := s.standing_openTick tick tickInterval activePlayerIds combatStates
    inventorySummaries id
  rw [starts_observe] at hStarts hWaits
  unfold opening
  by_cases h : s.StartsWith (mentioned activePlayerIds combatStates inventorySummaries)
  · rw [if_pos h, hStarts h]
  · rw [if_neg h, hWaits h]

/-- The clock of a match that was in play runs on; a starting match has not begun its own. -/
theorem openTick_runsOut :
    (s.openTick tick tickInterval activePlayerIds combatStates inventorySummaries).1 = true ↔
      s.RunsOut tickInterval := by
  have hObserve := s.sameClock_observe activePlayerIds combatStates inventorySummaries
  obtain ⟨hClock, _⟩ :=
    ((s.observe activePlayerIds combatStates inventorySummaries).countDown tick).2.2.runClock_spec
      tickInterval ((s.observe activePlayerIds combatStates inventorySummaries).countDown tick).2.1
  unfold openTick
  dsimp only
  rw [hClock]
  rcases (s.observe activePlayerIds combatStates inventorySummaries).countDown_cases tick with
    ⟨hStarts, _, hStarted, _⟩ | ⟨_, hStarted, ticks, hCounted⟩
  · rw [hStarted]
    refine ⟨fun h => absurd h.2 Bool.true_eq_false.mp, fun h => ?_⟩
    have hPre := hStarts.1
    rw [hObserve.phase_eq, h.1] at hPre
    cases hPre
  · rw [hStarted, hCounted, hObserve]
    exact ⟨fun h => h.1, fun h => ⟨h, rfl⟩⟩

/-- Who is connected and not out once the deaths and respawns of a tick in play are done. -/
theorem opponents_playTick
    (hPlays : (s.openTick tick tickInterval activePlayerIds combatStates
      inventorySummaries).2.2.phase = .inMatch) :
    0 < (s.playTick tick tickInterval activePlayerIds combatStates deathEvents
        inventorySummaries).2.opponents ↔
      ∃ id, s.Contends (mentioned activePlayerIds combatStates inventorySummaries) deathEvents
        id := by
  rw [opponents_pos_iff]
  apply exists_congr
  intro id
  have hRespawns : (s.playTick tick tickInterval activePlayerIds combatStates deathEvents
      inventorySummaries).2.isConnected id =
        ((s.openTick tick tickInterval activePlayerIds combatStates
          inventorySummaries).2.2.applyDeaths tick deathEvents).isConnected id := by
    unfold playTick applyRespawns
    split
    · exact isConnected_respawnDue tick _ _ id
    · rfl
  have hNamed : id ∈ mentioned activePlayerIds combatStates inventorySummaries ↔
      (s.openTick tick tickInterval activePlayerIds combatStates
        inventorySummaries).2.2.isConnected id = true := by
    rw [isConnected_openTick, mentioned, List.mem_toFinset, List.mem_append, List.mem_append,
      or_assoc]
  have hConnected : (s.playTick tick tickInterval activePlayerIds combatStates deathEvents
      inventorySummaries).2.isConnected id = true ↔
        id ∈ mentioned activePlayerIds combatStates inventorySummaries ∨
          Died deathEvents id ∨ Credited deathEvents id := by
    have hSorted : Died (sortBy deathLess deathEvents) id ↔ Died deathEvents id := by simp [Died]
    rw [hRespawns, applyDeaths, if_pos hPlays, isConnected_recordDeaths_iff, credited_iff, hSorted,
      hNamed]
    simp
  obtain ⟨hStanding, _⟩ := s.standing_playTick tick tickInterval activePlayerIds combatStates
    deathEvents inventorySummaries id hPlays
  rw [opening_eq] at hStanding
  rw [hConnected, hStanding]
  -- A respawn changes nothing about who is out.
  have hRevive : ∀ standing : Standing, (standing.revive tick).eliminated = standing.eliminated := by
    intro standing
    unfold Standing.revive
    split
    · rfl
    · rfl
  rw [hRevive]
  constructor
  · rintro ⟨hNames, hIn⟩
    obtain ⟨hSurvives, hStays⟩ := (eliminated_dieIf _ _ _ _).mp hIn
    exact ⟨hNames, hSurvives, hStays⟩
  · intro h
    exact ⟨h.named, (eliminated_dieIf _ _ _ _).mpr ⟨h.survives, h.stays⟩⟩

/-- From any state, a match still in play after the tick has at least two players who are
connected and not eliminated, exactly when it was not deserted. -/
theorem opponents_iff :
    ((s.resolveTick tick tickInterval activePlayerIds combatStates deathEvents
          inventorySummaries).2.phase = .inMatch →
        2 ≤ (s.resolveTick tick tickInterval activePlayerIds combatStates deathEvents
          inventorySummaries).2.opponents) ↔
      ¬ s.Deserted tickInterval (mentioned activePlayerIds combatStates inventorySummaries)
        deathEvents := by
  have hPhase := s.phase_openTick tick tickInterval activePlayerIds combatStates inventorySummaries
  have hClock := s.openTick_runsOut tick tickInterval activePlayerIds combatStates
    inventorySummaries
  have hRecords := s.sameClock_playTick tick tickInterval activePlayerIds combatStates deathEvents
    inventorySummaries
  have hOpponents := s.opponents_playTick tick tickInterval activePlayerIds combatStates
    deathEvents inventorySummaries
  rw [starts_observe] at hPhase
  rw [resolveTick_snd]
  generalize s.openTick tick tickInterval activePlayerIds combatStates inventorySummaries = opened
    at *
  generalize (s.playTick tick tickInterval activePlayerIds combatStates deathEvents
    inventorySummaries).2 = played at *
  rcases played.finishMatch_cases tick opened.1 with ⟨hIn, hOver, _, winner, hAfter⟩ | ⟨hGoesOn, hSame⟩
  · rw [hAfter]
    refine ⟨fun _ hDeserted => ?_, fun _ hStill => (nomatch hStill)⟩
    rcases hOver with hOne | hExpired
    · have hSome := (hOpponents (hRecords.phase_eq.symm.trans hIn)).mp
        (by rw [← length_contenders, hOne]; exact Nat.one_pos)
      exact hSome.elim hDeserted.empty
    · exact hDeserted.lasts (hClock.mp hExpired)
  · rw [hSame]
    constructor
    · intro hTwo hDeserted
      have hOpen := hPhase.mpr hDeserted.played
      have hSome := (hOpponents hOpen).mp
        (Nat.lt_of_lt_of_le Nat.two_pos (hTwo (hRecords.phase_eq.trans hOpen)))
      exact hSome.elim hDeserted.empty
    · intro hNot hIn
      have hOpen : opened.2.2.phase = .inMatch := hRecords.phase_eq.symm.trans hIn
      rcases hGoesOn with hOut | ⟨hMany, hLeft⟩
      · exact absurd hIn hOut
      · have hLasts : ¬ s.RunsOut tickInterval := by
          rw [← hClock, hLeft]
          exact Bool.false_ne_true
        have hSome : 0 < played.opponents := by
          rw [hOpponents hOpen]
          by_contra hNone
          exact hNot ⟨hPhase.mp hOpen, hLasts, fun id h => hNone ⟨id, h⟩⟩
        rw [length_contenders] at hMany
        change 2 ≤ played.opponents
        omega

end Tick

/-- The last two players kill each other: nobody is left and the match goes on. -/
theorem match_without_opponents :
    ¬ ∀ (config : MatchLifecycleConfig) (s : MatchLifecycleSimulation), Reachable config s →
      ∀ (tick : Nat) (tickInterval : Int) (activePlayerIds : List Nat)
        (combatStates : List PlayerCombatState) (deathEvents : List DeathResolution)
        (inventorySummaries : List InventorySummary),
        (s.resolveTick tick tickInterval activePlayerIds combatStates deathEvents
            inventorySummaries).2.phase = .inMatch →
          2 ≤ (s.resolveTick tick tickInterval activePlayerIds combatStates deathEvents
            inventorySummaries).2.opponents := by
  intro hAll
  let config : MatchLifecycleConfig :=
    { preMatchTicks := 1, respawnsPerPlayer := 0, minPlayersToStart := 2 }
  let started := ((create config).resolveTick 1 33333333 [1, 2] [] [] []).2
  have hReach : Reachable config started :=
    Relation.ReflTransGen.single (.resolveTick _ 1 33333333 [1, 2] [] [] [])
  have hTwo := hAll config started hReach 2 33333333 [1, 2] []
    [{ victimId := 1, killerId := 2 }, { victimId := 2, killerId := 1 }] [] (by decide)
  exact absurd hTwo (by decide)

end MatchLifecycleSimulation

end DevyFps.Server
