import DevyFps.Server.KillTally
import DevyFps.Server.MatchOpponents
import DevyFps.Server.MatchPlays

/-! Respawns over a whole match: every respawn is paid for by a death, no player gets more
than its budget, and a player who is out stays out. -/

namespace DevyFps.Server

open Foundations

/-- In how many ticks the player dies. -/
def deathsIn (trace : List MatchEvent) (playerId : Nat) : Nat :=
  (ticksOf trace).countP fun record => record.InPlay ∧ Died record.deathEvents playerId

/-- The respawn in `record` follows a death at least `delay` ticks before, and the player
did not respawn since. -/
def Earned (delay : Nat) (before : List MatchEvent) (record : TickRecord) (playerId : Nat) :
    Prop :=
  ∃ early death late, before = early ++ .ticked death :: late ∧ death.InPlay ∧
    Died death.deathEvents playerId ∧ death.tick + delay ≤ record.tick ∧
    respawns (.ticked death :: late) playerId = 0

@[simp] theorem deathsIn_append (trace trace' : List MatchEvent) (playerId : Nat) :
    deathsIn (trace ++ trace') playerId = deathsIn trace playerId + deathsIn trace' playerId := by
  simp [deathsIn]

namespace Standing

/-- The respawns that are still to come: those left and the one that is pending. -/
def cost (standing : Standing) : Nat :=
  standing.respawnsRemaining + if standing.pendingRespawnTick.isSome then 1 else 0

/-- A player who is out has nothing to come. -/
def Kept (standing : Standing) : Prop :=
  standing.eliminated = true →
    standing.respawnsRemaining = 0 ∧ standing.pendingRespawnTick = none

variable {config : MatchLifecycleConfig} {tick : Nat} {standing : Standing}

/-- A fresh player has its whole budget left. -/
theorem cost_fresh : (fresh config).cost = config.respawnsPerPlayer := rfl

theorem kept_fresh : (fresh config).Kept := fun h => nomatch h

variable {died : Prop} [Decidable died]

/-- A death never adds to what is to come. -/
theorem cost_dieIf : (standing.dieIf died config tick).cost ≤ standing.cost := by
  unfold dieIf die
  split
  · split
    · simp only [cost, Option.isSome_some, if_true]
      omega
    · simp [cost]
  · exact le_rfl

/-- A death puts a player out only when nothing is left to it. -/
theorem kept_dieIf (h : standing.Kept) : (standing.dieIf died config tick).Kept := by
  unfold dieIf die
  split
  · split
    · exact fun hOut => nomatch hOut
    · rename_i hNone
      exact fun _ => ⟨Nat.eq_zero_of_not_pos hNone, rfl⟩
  · exact h

/-- A respawn that is due uses up one. -/
theorem cost_revive :
    (standing.revive tick).cost + (if standing.due tick then 1 else 0) = standing.cost := by
  unfold revive
  by_cases h : standing.due tick = true
  · obtain ⟨pending, hPending, _⟩ := pending_of_due h
    rw [if_pos h, if_pos h]
    simp [cost, hPending]
  · rw [if_neg h, if_neg h]
    rfl

/-- A respawn is one that was pending, so it revives nobody who is out. -/
theorem kept_revive (h : standing.Kept) : (standing.revive tick).Kept := by
  unfold revive
  split
  · exact fun hOut => ⟨(h hOut).1, rfl⟩
  · exact h

/-- Who is out stays out, without a pending respawn. -/
theorem out_dieIf (h : standing.Kept) (hOut : standing.eliminated = true) :
    (standing.dieIf died config tick).eliminated = true ∧
      (standing.dieIf died config tick).pendingRespawnTick = none := by
  obtain ⟨hNone, hPending⟩ := h hOut
  unfold dieIf die
  rw [hNone, if_neg (Nat.lt_irrefl 0)]
  split
  · exact ⟨rfl, rfl⟩
  · exact ⟨hOut, hPending⟩

end Standing

namespace MatchLifecycleSimulation

/-- The books of a match along its runs. -/
structure Budgeted (config : MatchLifecycleConfig) (trace : List MatchEvent)
    (s : MatchLifecycleSimulation) : Prop where
  sameConfig : s.config = sanitizeConfig config
  waiting : s.phase = .preMatch →
    ∀ id, respawns trace id = 0 ∧ (s.standing id).eliminated = false
  budget : ∀ id, respawns trace id + (s.standing id).cost ≤ config.respawnsPerPlayer
  kept : ∀ id, (s.standing id).Kept
  earned : ∀ id pending, (s.standing id).pendingRespawnTick = some pending →
    ∃ early death late, trace = early ++ .ticked death :: late ∧ death.InPlay ∧
      Died death.deathEvents id ∧
      pending = (death.tick + s.config.respawnDelayTicks) % 2 ^ 64 ∧
      respawns (.ticked death :: late) id = 0

/-- Nobody has spent anything at the start. -/
theorem budgeted_create (config : MatchLifecycleConfig) :
    Budgeted config [] (create config) where
  sameConfig := rfl
  waiting _ _ := ⟨rfl, rfl⟩
  budget _ := (Nat.zero_add _).le
  kept _ h := nomatch h
  earned _ _ h := nomatch h

variable {config : MatchLifecycleConfig} {trace : List MatchEvent}
  {s t : MatchLifecycleSimulation} {event : MatchEvent} {record : TickRecord}

/-- A call that is no tick of the match spends nothing. -/
theorem Budgeted.idle (h : Budgeted config trace s) (hConfig : t.config = s.config)
    (hIdle : Idles s t event) : Budgeted config (trace ++ [event]) t where
  sameConfig := hConfig.trans h.sameConfig
  waiting hPhase id := by
    obtain ⟨hNone, hIn⟩ := h.waiting (hIdle.phase.symm.trans hPhase) id
    rw [respawns_append, hNone, hIdle.nobody, hIdle.out]
    exact ⟨rfl, hIn⟩
  budget id := by
    have hBudget := h.budget id
    have hCost : (t.standing id).cost ≤ (s.standing id).cost := by
      unfold Standing.cost
      rw [hIdle.remaining]
      rcases hIdle.pending id with hSame | hNone
      · rw [hSame]
      · rw [hNone]
        exact Nat.le_add_right _ _
    rw [respawns_append, hIdle.nobody]
    omega
  kept id hOut := by
    rw [hIdle.out] at hOut
    obtain ⟨hNone, hPending⟩ := h.kept id hOut
    rw [hIdle.remaining]
    refine ⟨hNone, ?_⟩
    rcases hIdle.pending id with hSame | hCleared
    · rw [hSame, hPending]
    · exact hCleared
  earned id pending hPending := by
    rcases hIdle.pending id with hSame | hCleared
    · rw [hSame] at hPending
      obtain ⟨early, death, late, hTrace, hInPlay, hDied, hTick, hNone⟩ := h.earned id pending hPending
      refine ⟨early, death, late ++ [event], ?_, hInPlay, hDied, ?_, ?_⟩
      · rw [hTrace, List.append_assoc, List.cons_append]
      · rw [hConfig]
        exact hTick
      · rw [← List.cons_append, respawns_append, hNone, hIdle.nobody]
    · rw [hCleared] at hPending
      cases hPending

/-- The books as a player goes into a tick in play. -/
theorem Budgeted.entering (h : Budgeted config trace s) (id : Nat) :
    respawns trace id + (s.entering id).cost ≤ config.respawnsPerPlayer ∧ (s.entering id).Kept ∧
      ((s.entering id).pendingRespawnTick ≠ none → s.entering id = s.standing id) := by
  unfold MatchLifecycleSimulation.entering
  split
  · rename_i hPhase
    rw [(h.waiting hPhase id).1, Standing.cost_fresh, h.sameConfig]
    exact ⟨(Nat.zero_add _).le, Standing.kept_fresh, fun hSome => absurd rfl hSome⟩
  · exact ⟨h.budget id, h.kept id, fun _ => rfl⟩

/-- A tick of the match keeps the budget: what is still to come falls with each respawn. -/
theorem Budgeted.play (h : Budgeted config trace s) (hConfig : t.config = s.config)
    (hPlay : Plays s t record) : Budgeted config (trace ++ [.ticked record]) t where
  sameConfig := hConfig.trans h.sameConfig
  waiting hPhase := absurd hPhase hPlay.endPhase
  budget id := by
    obtain ⟨hBudget, _, _⟩ := h.entering id
    have hDeath : (s.buried record id).cost ≤ (s.entering id).cost := Standing.cost_dieIf
    have hRespawn : (Standing.revive record.tick (s.buried record id)).cost +
        (if (s.buried record id).due record.tick then 1 else 0) = (s.buried record id).cost :=
      Standing.cost_revive
    have hCount : record.result.respawnedPlayers.count id ≤
        if (s.buried record id).due record.tick then 1 else 0 := by
      rw [hPlay.once.count]
      split
      · rename_i hMem
        rw [if_pos ((hPlay.respawned id).mp hMem).1]
      · exact Nat.zero_le _
    rw [respawns_append, respawns_ticked, hPlay.standing]
    omega
  kept id := by
    rw [hPlay.standing]
    exact Standing.kept_revive (Standing.kept_dieIf (h.entering id).2.1)
  earned id pending hPending := by
    rw [hPlay.standing] at hPending
    obtain ⟨hNotDue, hBuried⟩ := Standing.pending_revive hPending
    have hNobody : respawns [.ticked record] id = 0 := by
      rw [respawns_ticked, List.count_eq_zero]
      intro hMem
      rw [((hPlay.respawned id).mp hMem).1] at hNotDue
      cases hNotDue
    rcases Standing.pending_dieIf hBuried with ⟨hDied, hTick⟩ | ⟨_, hOld⟩
    · refine ⟨trace, record, [], rfl, hPlay.inPlay, hDied, ?_, hNobody⟩
      rw [hConfig]
      exact hTick
    · have hSame := (h.entering id).2.2 (by rw [hOld]; exact Option.some_ne_none pending)
      rw [hSame] at hOld
      obtain ⟨early, death, late, hTrace, hInPlay, hDied, hTick, hNone⟩ := h.earned id pending hOld
      refine ⟨early, death, late ++ [.ticked record], ?_, hInPlay, hDied, ?_, ?_⟩
      · rw [hTrace, List.append_assoc, List.cons_append]
      · rw [hConfig]
        exact hTick
      · rw [← List.cons_append, respawns_append, hNone, hNobody]

/-- Every call keeps the budget. -/
theorem Budgeted.call (h : Budgeted config trace s) (call : MatchCall s event t) :
    Budgeted config (trace ++ [event]) t := by
  obtain ⟨hConfig, hIdle | ⟨record, rfl, hPlay⟩⟩ := call.idles_or_plays
  · exact h.idle hConfig hIdle
  · exact h.play hConfig hPlay

/-- In every run the budget is kept. -/
theorem budgeted_run (run : Run MatchCall (create config) trace s) : Budgeted config trace s :=
  run.history (I := Budgeted config) (fun _ _ _ _ h call => h.call call) (budgeted_create config)

/-- A respawn follows a death of the same player that is far enough back. -/
theorem Budgeted.earned_respawn (h : Budgeted config trace s) (hPlay : Plays s t record)
    (hWrap : ∀ other ∈ ticksOf (trace ++ [.ticked record]),
      other.tick + s.config.respawnDelayTicks < 2 ^ 64)
    {id : Nat} (hMem : id ∈ record.result.respawnedPlayers) :
    Earned s.config.respawnDelayTicks trace record id := by
  obtain ⟨hDue, _⟩ := (hPlay.respawned id).mp hMem
  obtain ⟨pending, hPending, hLe⟩ := Standing.pending_of_due hDue
  have hDelay : 0 < s.config.respawnDelayTicks := by
    rw [h.sameConfig]
    simp only [sanitizeConfig]
    split
    · decide
    · exact Nat.pos_of_ne_zero ‹_›
  have hLast : record ∈ ticksOf (trace ++ [.ticked record]) := by
    rw [ticksOf_append]
    exact List.mem_append_right _ List.mem_cons_self
  rcases Standing.pending_dieIf hPending with ⟨_, hTick⟩ | ⟨_, hOld⟩
  · rw [Nat.mod_eq_of_lt (hWrap record hLast)] at hTick
    omega
  · have hSame := (h.entering id).2.2 (by rw [hOld]; exact Option.some_ne_none pending)
    rw [hSame] at hOld
    obtain ⟨early, death, late, hTrace, hInPlay, hDied, hTick, hNone⟩ := h.earned id pending hOld
    have hEarlier : death ∈ ticksOf (trace ++ [.ticked record]) := by
      rw [hTrace, ticksOf_append, ticksOf_append]
      exact List.mem_append_left _ (List.mem_append_right _ List.mem_cons_self)
    rw [Nat.mod_eq_of_lt (hWrap death hEarlier)] at hTick
    exact ⟨early, death, late, hTrace, hInPlay, hDied, hTick ▸ hLe, hNone⟩

/-- Nobody who is out respawns again. -/
theorem Budgeted.out_call (h : Budgeted config trace s) (call : MatchCall s event t) {id : Nat}
    (hOut : (s.standing id).eliminated = true) :
    (t.standing id).eliminated = true ∧ respawns [event] id = 0 := by
  obtain ⟨_, hIdle | ⟨record, rfl, hPlay⟩⟩ := call.idles_or_plays
  · exact ⟨(hIdle.out id).trans hOut, hIdle.nobody id⟩
  · have hPhase : s.phase ≠ .preMatch := by
      intro hPre
      rw [(h.waiting hPre id).2] at hOut
      cases hOut
    have hEntering : s.entering id = s.standing id := if_neg hPhase
    have hKept := h.kept id
    rw [← hEntering] at hOut hKept
    have hBuried : (s.buried record id).eliminated = true ∧
        (s.buried record id).pendingRespawnTick = none := Standing.out_dieIf hKept hOut
    refine ⟨?_, ?_⟩
    · rw [hPlay.standing, Standing.revive_of_none hBuried.2]
      exact hBuried.1
    · rw [respawns_ticked, List.count_eq_zero]
      intro hMem
      have hIn := ((hPlay.respawned id).mp hMem).2
      rw [hBuried.1] at hIn
      cases hIn

/-- Who is out of the match stays out of it, until a new one starts. -/
theorem Budgeted.out_run (h : Budgeted config trace s) {id : Nat}
    (hOut : (s.standing id).eliminated = true) {later : List MatchEvent}
    (run : Run MatchCall s later t) :
    Budgeted config (trace ++ later) t ∧ (t.standing id).eliminated = true ∧
      respawns later id = 0 := by
  induction run with
  | nil =>
      rw [List.append_nil]
      exact ⟨h, hOut, rfl⟩
  | snoc prior last ih =>
      obtain ⟨hPrior, hStill, hNone⟩ := ih
      obtain ⟨hAfter, hLast⟩ := hPrior.out_call last hStill
      rw [← List.append_assoc, respawns_append, hNone, hLast]
      exact ⟨hPrior.call last, hAfter, rfl⟩

/-! Kills and deaths along a run. -/

/-- Every counter of deaths is at most the number of deaths so far, and unless one of them
wrapped around there are no more kills than deaths. -/
structure Tallied (trace : List MatchEvent) (s : MatchLifecycleSimulation) : Prop where
  deaths : ∀ id, (s.tally id).deaths ≤ deathsIn trace id
  kills : (∀ id, deathsIn trace id < 2 ^ 32) → s.totalKills ≤ s.totalDeaths

/-- Equal tallies have equal sums. -/
theorem totals_of_tally (h : ∀ id, t.tally id = s.tally id) :
    t.totalKills = s.totalKills ∧ t.totalDeaths = s.totalDeaths := by
  let players := s.playersById.keys.toFinset ∪ t.playersById.keys.toFinset
  have hS : ∀ id ∈ s.playersById.keys, id ∈ players := fun id hId =>
    Finset.mem_union_left _ (List.mem_toFinset.mpr hId)
  have hT : ∀ id ∈ t.playersById.keys, id ∈ players := fun id hId =>
    Finset.mem_union_right _ (List.mem_toFinset.mpr hId)
  rw [totalKills_eq hS, totalKills_eq hT, totalDeaths_eq hS, totalDeaths_eq hT]
  simp only [h, and_self]

/-- A call leaves every tally alone, or it is a tick in play that records its deaths. -/
theorem MatchCall.tallies (call : MatchCall s event t) :
    (∀ id, t.tally id = s.tally id) ∨
      ∃ (record : TickRecord) (opened : MatchLifecycleSimulation),
        event = .ticked record ∧ record.InPlay ∧ (∀ id, opened.tally id = s.tally id) ∧
        ∀ id, t.tally id = (opened.recordDeaths record.tick
          (sortBy deathLess record.deathEvents) ∅).tally id := by
  cases call with
  | ensurePlayer playerId => exact Or.inl (view_ensurePlayer unread_tallyOf s playerId)
  | removePlayer playerId =>
      exact Or.inl (view_modifyPlayer tallyOf s playerId
        (fun record => { record with connected := false, pendingRespawnTick := none })
        fun _ => rfl)
  | resolveTick tick tickInterval activePlayerIds combatStates deathEvents inventorySummaries =>
      have hOpened := s.tally_openTick tick tickInterval activePlayerIds combatStates
        inventorySummaries
      have hAfter : ∀ id, (s.resolveTick tick tickInterval activePlayerIds combatStates
          deathEvents inventorySummaries).2.tally id =
            ((s.openTick tick tickInterval activePlayerIds combatStates
              inventorySummaries).2.2.applyDeaths tick deathEvents).tally id := by
        intro id
        rw [resolveTick_snd, tally_finishMatch, playTick, tally_applyRespawns]
      by_cases hPlays : (s.openTick tick tickInterval activePlayerIds combatStates
          inventorySummaries).2.2.phase = .inMatch
      · have hPlay := s.plays_resolveTick tick tickInterval activePlayerIds combatStates
          deathEvents inventorySummaries hPlays
        refine Or.inr ⟨_, _, rfl, hPlay.inPlay, hOpened, fun id => ?_⟩
        rw [hAfter, applyDeaths, if_pos hPlays]
      · refine Or.inl fun id => ?_
        rw [hAfter, applyDeaths, if_neg hPlays, hOpened]

/-- Every call keeps the counters below what has happened. -/
theorem Tallied.call (h : Tallied trace s) (call : MatchCall s event t) :
    Tallied (trace ++ [event]) t := by
  rcases call.tallies with hSame | ⟨record, opened, rfl, hInPlay, hOpened, hAfter⟩
  · obtain ⟨hKills, hDeaths⟩ := totals_of_tally hSame
    refine ⟨fun id => ?_, fun hBound => ?_⟩
    · rw [hSame, deathsIn_append]
      exact (h.deaths id).trans (Nat.le_add_right _ _)
    · rw [hKills, hDeaths]
      apply h.kills
      intro id
      have hLess := hBound id
      rw [deathsIn_append] at hLess
      omega
  · have hLast : ∀ id, deathsIn [.ticked record] id = if Died record.deathEvents id then 1 else 0 := by
      intro id
      unfold deathsIn
      by_cases hDied : Died record.deathEvents id
      · simp [ticksOf, MatchEvent.tick?, hInPlay, hDied]
      · simp [ticksOf, MatchEvent.tick?, hDied]
    have hSorted : ∀ id, Died (sortBy deathLess record.deathEvents) id ↔
        Died record.deathEvents id := fun id => by simp [Died]
    refine ⟨fun id => ?_, fun hBound => ?_⟩
    · have hRise := deaths_recordDeaths record.tick (sortBy deathLess record.deathEvents) opened ∅ id
      have hDeaths := h.deaths id
      rw [hAfter, deathsIn_append, hLast]
      rw [hOpened] at hRise
      simp only [hSorted, Finset.notMem_empty, not_false_eq_true, and_true] at hRise
      omega
    · have hOld : s.totalKills ≤ s.totalDeaths := by
        apply h.kills
        intro id
        have hLess := hBound id
        rw [deathsIn_append] at hLess
        omega
      let players := s.playersById.keys.toFinset ∪ t.playersById.keys.toFinset ∪
        (record.deathEvents.map DeathResolution.victimId).toFinset
      have hS : ∀ id ∈ s.playersById.keys, id ∈ players := fun id hId =>
        Finset.mem_union_left _ (Finset.mem_union_left _ (List.mem_toFinset.mpr hId))
      have hT : ∀ id ∈ t.playersById.keys, id ∈ players := fun id hId =>
        Finset.mem_union_left _ (Finset.mem_union_right _ (List.mem_toFinset.mpr hId))
      have hVictims : ∀ death ∈ sortBy deathLess record.deathEvents, death.victimId ∈ players :=
        fun death hDeath => Finset.mem_union_right _
          (List.mem_toFinset.mpr (List.mem_map_of_mem (mem_sortBy.mp hDeath)))
      have hRise := kills_recordDeaths record.tick players (sortBy deathLess record.deathEvents)
        opened ∅ hVictims (by
          intro id hDied _
          have hLess := hBound id
          have hDeaths := h.deaths id
          rw [deathsIn_append, hLast, if_pos ((hSorted id).mp hDied)] at hLess
          rw [hOpened]
          omega)
      rw [totalKills_eq hS, totalDeaths_eq hS] at hOld
      rw [totalKills_eq hT, totalDeaths_eq hT]
      simp only [hAfter]
      simp only [hOpened] at hRise
      omega

/-- In every run no counter of deaths is above the number of deaths. -/
theorem tallied_run (run : Run MatchCall (create config) trace s) : Tallied trace s :=
  run.history (I := Tallied) (fun _ _ _ _ h call => h.call call)
    ⟨fun _ => Nat.zero_le _, fun _ => Nat.zero_le _⟩

/-- The budget of a match: nobody respawns more often than its used respawns, every
respawn is earned by a death, who is out stays out, and there are no more kills than
deaths unless a player died so often that its counter wrapped around. -/
theorem respawn_budget (config : MatchLifecycleConfig) {trace : List MatchEvent}
    {s : MatchLifecycleSimulation} (run : Run MatchCall (create config) trace s)
    (hWrap : ∀ record ∈ ticksOf trace,
      record.tick + (sanitizeConfig config).respawnDelayTicks < 2 ^ 64) :
    (∀ id player, s.playersById.find id = some player →
      player.respawnsRemaining ≤ config.respawnsPerPlayer ∧
      respawns trace id ≤ config.respawnsPerPlayer - player.respawnsRemaining ∧
      (player.eliminated = true →
        player.respawnsRemaining = 0 ∧ player.pendingRespawnTick = none ∧
        ∀ later t, Run MatchCall s later t → respawns later id = 0)) ∧
    (∀ before record later id, trace = before ++ .ticked record :: later →
      id ∈ record.result.respawnedPlayers →
        Earned (sanitizeConfig config).respawnDelayTicks before record id) ∧
    ((∀ id, deathsIn trace id < 2 ^ 32) → s.totalKills ≤ s.totalDeaths) := by
  have hBooks := budgeted_run run
  refine ⟨fun id player hFind => ?_, ?_, (tallied_run run).kills⟩
  · have hBudget := hBooks.budget id
    have hKept := hBooks.kept id
    have hStanding := standing_of_find hFind
    have hCost : (s.standing id).respawnsRemaining ≤ (s.standing id).cost := Nat.le_add_right _ _
    rw [hStanding] at hBudget hKept hCost
    change player.respawnsRemaining ≤ _ at hCost
    refine ⟨by omega, by omega, fun hOut => ?_⟩
    obtain ⟨hNone, hPending⟩ := hKept hOut
    refine ⟨hNone, hPending, fun later t laterRun => ?_⟩
    exact (hBooks.out_run (by rw [hStanding]; exact hOut) laterRun).2.2
  · intro before record later id hTrace hMem
    rw [hTrace] at run hWrap
    obtain ⟨u, v, hBefore, hCall, _⟩ := run.around
    have hThen := budgeted_run hBefore
    obtain ⟨_, hIdle | ⟨other, hOther, hPlay⟩⟩ := hCall.idles_or_plays
    · have hNone := hIdle.nobody id
      rw [respawns_ticked, List.count_eq_zero] at hNone
      exact absurd hMem hNone
    · injection hOther with hOther
      rw [← hOther] at hPlay
      rw [← hThen.sameConfig]
      apply hThen.earned_respawn hPlay _ hMem
      intro tick hTick
      rw [hThen.sameConfig]
      apply hWrap tick
      rw [ticksOf_append] at hTick ⊢
      rcases List.mem_append.mp hTick with hEarly | hLast
      · exact List.mem_append_left _ hEarly
      · rw [List.mem_singleton.mp hLast]
        exact List.mem_append_right _ List.mem_cons_self

/-- A tick of three connected players in which no time passes. -/
def drill (s : MatchLifecycleSimulation) (tick : Nat) (deathEvents : List DeathResolution) :
    MatchLifecycleTickResult × MatchLifecycleSimulation :=
  s.resolveTick tick 0 [1, 2, 3] [] deathEvents []

def drillRecord (s : MatchLifecycleSimulation) (tick : Nat) (deathEvents : List DeathResolution) :
    TickRecord where
  tick := tick
  startPhase := s.phase
  deathEvents := deathEvents
  result := (s.drill tick deathEvents).1

@[simp] theorem tick_drillRecord (s : MatchLifecycleSimulation) (tick : Nat)
    (deathEvents : List DeathResolution) : (s.drillRecord tick deathEvents).tick = tick := rfl

/-- A drill is a tick with some deaths and two players. -/
theorem drill_call (s : MatchLifecycleSimulation) (tick : Nat) (deathEvents : List DeathResolution) :
    MatchCall s (.ticked (s.drillRecord tick deathEvents)) (s.drill tick deathEvents).2 :=
  .resolveTick s tick 0 [1, 2, 3] [] deathEvents []

/-- A match that starts in its first tick and has one respawn for each player. -/
def drillStart : MatchLifecycleSimulation :=
  create { preMatchTicks := 1, respawnsPerPlayer := 1, respawnDelayTicks := 2 }

def drillPlayed : MatchLifecycleSimulation := (drillStart.drill 1 []).2

def drillShot : MatchLifecycleSimulation :=
  (drillPlayed.drill 2 [{ victimId := 2, killerId := 1 }]).2

/-- Player 2 dies in tick 2 and respawns in tick 4. -/
theorem respawn_budget_drill :
    Earned 2
      [.ticked (drillStart.drillRecord 1 []),
        .ticked (drillPlayed.drillRecord 2 [{ victimId := 2, killerId := 1 }])]
      (drillShot.drillRecord 4 []) 2 :=
  have run : Run MatchCall drillStart
      ([] ++ [.ticked (drillStart.drillRecord 1 [])] ++
        [.ticked (drillPlayed.drillRecord 2 [{ victimId := 2, killerId := 1 }])] ++
        [.ticked (drillShot.drillRecord 4 [])])
      (drillShot.drill 4 []).2 :=
    (((Run.nil _).snoc (drill_call _ _ _)).snoc (drill_call _ _ _)).snoc (drill_call _ _ _)
  (respawn_budget { preMatchTicks := 1, respawnsPerPlayer := 1, respawnDelayTicks := 2 } run
    (by decide)).2.1 _ _ [] 2 rfl (by decide)

/-- A match in play in which only player 3 has died, `count` times, and every time player 1
is credited. -/
structure Feud (count : Nat) (s : MatchLifecycleSimulation) : Prop where
  phase : s.phase = .inMatch
  first : (s.standing 1).eliminated = false
  second : (s.standing 2).eliminated = false
  kills : (s.tally 1).kills = count
  deaths : ∀ id, (s.tally id).deaths = if id = 3 then count else 0

/-- A contender is connected and not out of the match. -/
theorem mem_contenders {s : MatchLifecycleSimulation} {id : Nat} :
    id ∈ s.contenders ↔ s.isConnected id = true ∧ (s.standing id).eliminated = false := by
  unfold contenders
  rw [mem_sortBy, List.mem_map]
  constructor
  · rintro ⟨⟨id, player⟩, hMem, rfl⟩
    obtain ⟨hItem, hTest⟩ := List.mem_filter.mp hMem
    have hFind := UnorderedMap.mem_items_iff.mp hItem
    rw [Bool.and_eq_true, Bool.not_eq_true'] at hTest
    rw [standing_of_find hFind]
    exact ⟨isConnected_iff.mpr ⟨player, hFind, hTest.1⟩, hTest.2⟩
  · rintro ⟨hConnected, hIn⟩
    obtain ⟨player, hFind, hFlag⟩ := isConnected_iff.mp hConnected
    rw [standing_of_find hFind] at hIn
    refine ⟨(id, player), List.mem_filter.mpr ⟨UnorderedMap.mem_items_iff.mpr hFind, ?_⟩, rfl⟩
    rw [Bool.and_eq_true, Bool.not_eq_true']
    exact ⟨hFlag, hIn⟩

/-- While two other players are in, the third one can die again and again. -/
theorem drill_death (hPhase : s.phase = .inMatch) (hFirst : (s.standing 1).eliminated = false)
    (hSecond : (s.standing 2).eliminated = false) (killerId : Nat) :
    (s.drill 0 [{ victimId := 3, killerId := killerId }]).2.phase = .inMatch ∧
      ((s.drill 0 [{ victimId := 3, killerId := killerId }]).2.standing 1).eliminated = false ∧
      ((s.drill 0 [{ victimId := 3, killerId := killerId }]).2.standing 2).eliminated = false ∧
      ∃ opened : MatchLifecycleSimulation, (∀ id, opened.tally id = s.tally id) ∧
        ∀ id, (s.drill 0 [{ victimId := 3, killerId := killerId }]).2.tally id =
          (opened.recordDeath 0 { victimId := 3, killerId := killerId }).tally id := by
  let deathEvents : List DeathResolution := [{ victimId := 3, killerId := killerId }]
  have hOpen := (s.phase_openTick 0 0 [1, 2, 3] [] []).mpr (Or.inl hPhase)
  have hPlay := s.plays_resolveTick 0 0 [1, 2, 3] [] deathEvents [] hOpen
  have hStay : ∀ id, id ≠ 3 → (s.standing id).eliminated = false →
      ((s.drill 0 deathEvents).2.standing id).eliminated = false := by
    intro id hOther hIn
    have hBuried : s.buried (s.drillRecord 0 deathEvents) id = s.standing id := by
      unfold buried Standing.dieIf
      rw [if_neg, entering, if_neg]
      · rw [hPhase]
        exact MatchPhase.noConfusion
      · rintro ⟨death, hDeath, hVictim⟩
        rw [List.mem_singleton.mp hDeath] at hVictim
        exact hOther hVictim.symm
    have hStanding : (s.drill 0 deathEvents).2.standing id =
        (s.buried (s.drillRecord 0 deathEvents) id).revive 0 := hPlay.standing id
    rw [hStanding, hBuried, Standing.revive]
    split
    · exact hIn
    · exact hIn
  have hFirstStays := hStay 1 (by decide) hFirst
  have hSecondStays := hStay 2 (by decide) hSecond
  refine ⟨?_, hFirstStays, hSecondStays, (s.openTick 0 0 [1, 2, 3] [] []).2.2,
    s.tally_openTick 0 0 [1, 2, 3] [] [], fun id => ?_⟩
  · have hRecords := s.sameClock_playTick 0 0 [1, 2, 3] [] deathEvents []
    have hConnected : ∀ id, id ∈ [1, 2, 3] →
        (s.playTick 0 0 [1, 2, 3] [] deathEvents []).2.isConnected id = true := by
      intro id hMem
      have hOpened := (isConnected_openTick s 0 0 [1, 2, 3] [] [] id).mpr (Or.inl hMem)
      have hAfter := (isConnected_resolveTick s 0 0 [1, 2, 3] [] deathEvents [] id).1 hOpened
      rw [resolveTick_snd, isConnected_finishMatch] at hAfter
      exact hAfter
    have hContends : ∀ id, id ∈ [1, 2, 3] →
        ((s.drill 0 deathEvents).2.standing id).eliminated = false →
          id ∈ (s.playTick 0 0 [1, 2, 3] [] deathEvents []).2.contenders := by
      intro id hMem hIn
      rw [drill, standing_resolveTick] at hIn
      exact mem_contenders.mpr ⟨hConnected id hMem, hIn⟩
    rw [drill, resolveTick_snd]
    rcases finishMatch_cases (s.playTick 0 0 [1, 2, 3] [] deathEvents []).2 0
        (s.openTick 0 0 [1, 2, 3] [] []).1 with ⟨_, hOver, _⟩ | ⟨_, hSame⟩
    · rcases hOver with hOne | hExpired
      · obtain ⟨winner, hWinner⟩ := List.length_eq_one_iff.mp hOne
        have hOneWins := hContends 1 (by decide) hFirstStays
        have hTwoWins := hContends 2 (by decide) hSecondStays
        rw [hWinner, List.mem_singleton] at hOneWins hTwoWins
        exact absurd (hOneWins.trans hTwoWins.symm) (by decide)
      · exact absurd ((s.openTick_runsOut 0 0 [1, 2, 3] [] []).mp hExpired).2.1 (lt_irrefl 0)
    · rw [hSame, hRecords.phase_eq]
      exact hOpen
  · have hSorted : sortBy deathLess deathEvents = deathEvents := rfl
    rw [drill, resolveTick_snd, tally_finishMatch, playTick, tally_applyRespawns, applyDeaths,
      if_pos hOpen, hSorted]
    rfl

/-- One more death, as long as the counter does not wrap. -/
theorem Feud.next {count : Nat} (h : Feud count s) (hLess : count + 1 < 2 ^ 32) :
    Feud (count + 1) (s.drill 0 [{ victimId := 3, killerId := 1 }]).2 := by
  obtain ⟨hPhase, hFirst, hSecond, opened, hOpened, hTally⟩ :=
    drill_death h.phase h.first h.second 1
  refine ⟨hPhase, hFirst, hSecond, ?_, fun id => ?_⟩
  · rw [hTally, tally_recordDeath]
    simp only [hOpened, h.kills]
    exact Nat.mod_eq_of_lt hLess
  · rw [hTally, tally_recordDeath]
    simp only [hOpened, h.deaths]
    by_cases hId : id = 3
    · rw [if_pos hId, if_pos hId, if_pos hId]
      exact Nat.mod_eq_of_lt hLess
    · rw [if_neg hId, if_neg hId, if_neg hId]

/-- The match of a feud, in its first tick. -/
def feudStart : MatchLifecycleSimulation := create { preMatchTicks := 1, respawnsPerPlayer := 0 }

/-- A feud of any length below the wrap, by induction on the deaths. -/
theorem feud_run (count : Nat) (hLess : count < 2 ^ 32) :
    ∃ (trace : List MatchEvent) (s : MatchLifecycleSimulation),
      Run MatchCall feudStart trace s ∧ (∀ record ∈ ticksOf trace, record.tick = 0) ∧
        Feud count s := by
  induction count with
  | zero =>
      refine ⟨[.ticked (feudStart.drillRecord 0 [])], (feudStart.drill 0 []).2,
        Run.single (drill_call _ _ _), ?_, ⟨by decide, by decide, by decide, by decide, fun id => ?_⟩⟩
      · intro record hRecord
        rw [List.mem_singleton.mp hRecord]
        rfl
      · have hOpened := tally_openTick feudStart 0 0 [1, 2, 3] [] [] id
        have hStart : (feudStart.tally id).deaths = 0 := rfl
        change ((feudStart.resolveTick 0 0 [1, 2, 3] [] [] []).2.tally id).deaths = _
        have hNone : ∀ t : MatchLifecycleSimulation, t.applyDeaths 0 [] = t := by
          intro t
          unfold applyDeaths
          split
          · rfl
          · rfl
        rw [resolveTick_snd, tally_finishMatch, playTick, tally_applyRespawns, hNone, hOpened,
          hStart, ite_self]
  | succ count ih =>
      obtain ⟨trace, s, run, hTicks, hFeud⟩ := ih (Nat.lt_of_succ_lt hLess)
      refine ⟨trace ++ [.ticked (s.drillRecord 0 [{ victimId := 3, killerId := 1 }])], _,
        run.snoc (drill_call _ _ _), ?_, hFeud.next hLess⟩
      intro record hRecord
      rw [ticksOf_append] at hRecord
      rcases List.mem_append.mp hRecord with hOld | hNew
      · exact hTicks record hOld
      · rw [List.mem_singleton.mp hNew]
        rfl

/-- Player 1 is credited with as many deaths of player 3 as its counter holds. One more
death takes that counter back to zero. -/
theorem kills_exceed_deaths :
    ¬ ∀ (config : MatchLifecycleConfig) (trace : List MatchEvent) (s : MatchLifecycleSimulation),
      Run MatchCall (create config) trace s →
      ((ticksOf trace).map TickRecord.tick).Pairwise (· ≤ ·) →
      (∀ record ∈ ticksOf trace,
        record.tick + (sanitizeConfig config).respawnDelayTicks < 2 ^ 64) →
      s.totalKills ≤ s.totalDeaths := by
  intro hAll
  obtain ⟨trace, s, run, hTicks, hFeud⟩ := feud_run (2 ^ 32 - 1) (by decide)
  obtain ⟨_, _, _, opened, hOpened, hTally⟩ := drill_death hFeud.phase hFeud.first hFeud.second 0
  let deathEvents : List DeathResolution := [{ victimId := 3, killerId := 0 }]
  have hLast := run.snoc (s.drill_call 0 deathEvents)
  have hZero : ∀ record ∈ ticksOf (trace ++ [.ticked (s.drillRecord 0 deathEvents)]),
      record.tick = 0 := by
    intro record hRecord
    rw [ticksOf_append, ticksOf_ticked] at hRecord
    rcases List.mem_append.mp hRecord with hOld | hNew
    · exact hTicks record hOld
    · rw [List.mem_singleton.mp hNew, tick_drillRecord]
  have hLe := hAll _ _ _ hLast
    (by
      rw [List.pairwise_map]
      apply List.pairwise_of_forall_mem_list
      intro a ha b hb
      rw [hZero a ha, hZero b hb])
    (by
      intro record hRecord
      rw [hZero record hRecord]
      decide)
  let players := (s.drill 0 deathEvents).2.playersById.keys.toFinset ∪ {1}
  have hPlayers : ∀ id ∈ (s.drill 0 deathEvents).2.playersById.keys, id ∈ players :=
    fun id hId => Finset.mem_union_left _ (List.mem_toFinset.mpr hId)
  rw [totalKills_eq hPlayers, totalDeaths_eq hPlayers] at hLe
  have hDeaths : ∑ id ∈ players, ((s.drill 0 deathEvents).2.tally id).deaths = 0 := by
    apply Finset.sum_eq_zero
    intro id _
    rw [hTally, tally_recordDeath]
    simp only [hOpened, hFeud.deaths]
    by_cases hId : id = 3
    · rw [if_pos hId, if_pos hId]
      decide
    · rw [if_neg hId, if_neg hId]
  have hKills : 2 ^ 32 - 1 ≤ ∑ id ∈ players, ((s.drill 0 deathEvents).2.tally id).kills := by
    have hOne : ((s.drill 0 deathEvents).2.tally 1).kills = 2 ^ 32 - 1 := by
      rw [hTally, tally_recordDeath]
      simp only [hOpened, hFeud.kills]
      exact if_neg (by decide)
    rw [← hOne]
    exact Finset.single_le_sum (f := fun id => ((s.drill 0 deathEvents).2.tally id).kills)
      (fun _ _ => Nat.zero_le _) (Finset.mem_union_right _ (Finset.mem_singleton_self 1))
  rw [hDeaths] at hLe
  omega

end MatchLifecycleSimulation

end DevyFps.Server
