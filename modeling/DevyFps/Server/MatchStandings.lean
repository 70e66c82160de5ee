import DevyFps.Server.MatchRuns

/-! What a match tick does to the standing of one player: the respawns it has left,
whether it is out, and the respawn it waits for. -/

namespace DevyFps.Server

open Foundations

structure Standing where
  respawnsRemaining : Nat
  eliminated : Bool
  pendingRespawnTick : Option Nat
  deriving DecidableEq

namespace Standing

/-- The standing of every player when the match starts, and of a new one later. -/
def fresh (config : MatchLifecycleConfig) : Standing where
  respawnsRemaining := config.respawnsPerPlayer
  eliminated := false
  pendingRespawnTick := none

def die (config : MatchLifecycleConfig) (tick : Nat) (standing : Standing) : Standing :=
  if 0 < standing.respawnsRemaining then
    { respawnsRemaining := standing.respawnsRemaining - 1
      eliminated := false
      pendingRespawnTick := some ((tick + config.respawnDelayTicks) % 2 ^ 64) }
  else { standing with eliminated := true, pendingRespawnTick := none }

def dieIf (died : Prop) [Decidable died] (config : MatchLifecycleConfig) (tick : Nat)
    (standing : Standing) : Standing :=
  if died then standing.die config tick else standing

/-- Whether a pending respawn is due. -/
def due (tick : Nat) (standing : Standing) : Bool :=
  standing.pendingRespawnTick.any fun pending => pending ≤ tick

def revive (tick : Nat) (standing : Standing) : Standing :=
  if standing.due tick then { standing with pendingRespawnTick := none } else standing

/-- Who waits for no respawn is not respawned. -/
theorem revive_of_none {standing : Standing} (h : standing.pendingRespawnTick = none)
    (tick : Nat) : standing.revive tick = standing := by
  simp [revive, due, h]

end Standing

/-- Some event of the list is a death of the player. -/
def Died (deathEvents : List DeathResolution) (playerId : Nat) : Prop :=
  ∃ death ∈ deathEvents, death.victimId = playerId

/-- Who died in a list of deaths. -/
theorem died_cons (death : DeathResolution) (rest : List DeathResolution) (playerId : Nat) :
    Died (death :: rest) playerId ↔ death.victimId = playerId ∨ Died rest playerId := by
  simp [Died]

instance (deathEvents : List DeathResolution) (playerId : Nat) :
    Decidable (Died deathEvents playerId) :=
  inferInstanceAs (Decidable (∃ death ∈ deathEvents, death.victimId = playerId))

namespace MatchLifecycleSimulation

def standingOf (record : PlayerRecord) : Standing where
  respawnsRemaining := record.respawnsRemaining
  eliminated := record.eliminated
  pendingRespawnTick := record.pendingRespawnTick

def standing (s : MatchLifecycleSimulation) (playerId : Nat) : Standing :=
  standingOf (s.recordOf playerId)

/-- The standing of a known player is that of its record. -/
theorem standing_of_find {s : MatchLifecycleSimulation} {playerId : Nat} {record : PlayerRecord}
    (h : s.playersById.find playerId = some record) : s.standing playerId = standingOf record := by
  rw [standing, recordOf_of_find h]

/-- Who is not known stands as a new player would. -/
theorem standing_of_find_none {s : MatchLifecycleSimulation} {playerId : Nat}
    (h : s.playersById.find playerId = none) : s.standing playerId = .fresh s.config := by
  simp [standing, recordOf, h, standingOf, newRecord, Standing.fresh]

theorem pendingRespawnTick_standing (s : MatchLifecycleSimulation) (playerId : Nat) :
    (s.standing playerId).pendingRespawnTick =
      (s.playersById.find playerId).bind PlayerRecord.pendingRespawnTick := by
  cases h : s.playersById.find playerId with
  | none => rw [standing_of_find_none h]; rfl
  | some record => rw [standing_of_find h]; rfl

/-- A respawn is due by the standing exactly if it is by the record. -/
theorem due_standing (s : MatchLifecycleSimulation) (tick playerId : Nat) :
    (s.standing playerId).due tick = (s.playersById.find playerId).any (isDue tick) := by
  cases h : s.playersById.find playerId with
  | none => rw [standing_of_find_none h]; rfl
  | some record => rw [standing_of_find h]; rfl

/-! Views of a record: what a stage leaves alone for every player. -/

section View

variable {β : Type} {view : PlayerRecord → β}

/-- The view reads none of the fields that are taken over from the other components. -/
structure Unread (view : PlayerRecord → β) : Prop where
  participated : ∀ record flag, view { record with participated := flag } = view record
  connected : ∀ record flag, view { record with connected := flag } = view record
  alive : ∀ record flag, view { record with alive := flag } = view record
  coins : ∀ record value, view { record with coins := value } = view record

theorem Unread.touch (h : Unread view) (record : PlayerRecord) :
    view (touch record) = view record :=
  (h.connected { record with participated := true } true).trans (h.participated record true)

/-- A view that creating a record does not change is not changed by making a player known. -/
theorem view_touched (hTouch : ∀ record, view (MatchLifecycleSimulation.touch record) = view record)
    (s : MatchLifecycleSimulation) (playerId id : Nat) :
    view ((s.ensurePlayer playerId).recordOf id) = view (s.recordOf id) := by
  rw [recordOf_ensurePlayer]
  split
  · rename_i hId
    rw [hId, hTouch]
  · rfl

theorem view_ensurePlayer (h : Unread view) (s : MatchLifecycleSimulation) (playerId id : Nat) :
    view ((s.ensurePlayer playerId).recordOf id) = view (s.recordOf id) :=
  view_touched h.touch s playerId id

/-- A write that leaves the view alone. -/
theorem view_modifyPlayer (view : PlayerRecord → β) (s : MatchLifecycleSimulation)
    (playerId : Nat) (f : PlayerRecord → PlayerRecord)
    (hSame : ∀ record, view (f record) = view record) (id : Nat) :
    view ((s.modifyPlayer playerId f).recordOf id) = view (s.recordOf id) := by
  unfold recordOf modifyPlayer
  rw [UnorderedMap.find_modify]
  split
  · rename_i h
    rw [h]
    cases s.playersById.find playerId with
    | none => rfl
    | some record => exact hSame record
  · rfl

/-- A pass over all records keeps a view that it keeps of each. -/
theorem view_mapValues (view : PlayerRecord → β) (s : MatchLifecycleSimulation)
    (f : Nat → PlayerRecord → PlayerRecord)
    (hSame : ∀ key record, view (f key record) = view record) (id : Nat) :
    view (({ s with playersById := s.playersById.mapValues f }).recordOf id) =
      view (s.recordOf id) := by
  unfold recordOf
  rw [UnorderedMap.find_mapValues]
  cases s.playersById.find id with
  | none => rfl
  | some record => exact hSame id record

/-- A loop keeps a view that each of its rounds keeps. -/
theorem view_foldl {α : Type} {f : MatchLifecycleSimulation → α → MatchLifecycleSimulation}
    {id : Nat} (hSame : ∀ s a, view ((f s a).recordOf id) = view (s.recordOf id)) (l : List α)
    (s : MatchLifecycleSimulation) : view ((l.foldl f s).recordOf id) = view (s.recordOf id) := by
  induction l generalizing s with
  | nil => rfl
  | cons head rest ih => exact (ih (f s head)).trans (hSame s head)

/-- Reading the other components changes nothing else. -/
theorem view_observe (h : Unread view) (s : MatchLifecycleSimulation)
    (activePlayerIds : List Nat) (combatStates : List PlayerCombatState)
    (inventorySummaries : List InventorySummary) (id : Nat) :
    view ((s.observe activePlayerIds combatStates inventorySummaries).recordOf id) =
      view (s.recordOf id) := by
  have hMark : view ((s.markActive activePlayerIds).recordOf id) = view (s.recordOf id) := by
    let mark (playerId : Nat) (record : PlayerRecord) : PlayerRecord :=
      { record with connected := activePlayerIds.contains playerId }
    have hFlags := view_mapValues view (activePlayerIds.foldl ensurePlayer s) mark
      (fun _ record => h.connected record _) id
    exact hFlags.trans (view_foldl (fun t playerId => view_ensurePlayer h t playerId id) _ s)
  have hCombat : ∀ (t : MatchLifecycleSimulation) state,
      view ((t.syncCombatState state).recordOf id) = view (t.recordOf id) := by
    intro t state
    refine (view_modifyPlayer view _ state.playerId _ (fun record => ?_) id).trans
      (view_ensurePlayer h t state.playerId id)
    split
    · exact h.alive record _
    · rfl
  have hCoins : ∀ (t : MatchLifecycleSimulation) summary,
      view ((t.syncCoins summary).recordOf id) = view (t.recordOf id) := by
    intro t summary
    exact (view_modifyPlayer view _ summary.playerId _ (fun record => h.coins record _) id).trans
      (view_ensurePlayer h t summary.playerId id)
  unfold observe
  rw [view_foldl hCoins, view_foldl hCombat, hMark]

/-- The view reads nothing of what the start of the match or a respawn writes. -/
structure Steady (view : PlayerRecord → β) : Prop where
  alive : ∀ record flag, view { record with alive := flag } = view record
  enter : ∀ config record, view (enterRecord config record) = view record
  pending : ∀ record due, view { record with pendingRespawnTick := due } = view record

/-- The countdown writes the records when the match starts only, and a steady view does not see
it. -/
theorem view_countDown (h : Steady view) (s : MatchLifecycleSimulation) (tick id : Nat) :
    view ((s.countDown tick).2.2.recordOf id) = view (s.recordOf id) := by
  rcases s.countDown_cases tick with ⟨_, _, _, ticks, hAfter⟩ | ⟨_, _, ticks, hAfter⟩
  · rw [hAfter]
    exact view_mapValues view s (fun _ record => enterRecord s.config record)
      (fun _ record => h.enter s.config record) id
  · rw [hAfter]
    rfl

/-- The clock writes no record. -/
theorem view_runClock (view : PlayerRecord → β) (s : MatchLifecycleSimulation)
    (tickInterval : Int) (started : Bool) (id : Nat) :
    view ((s.runClock tickInterval started).2.recordOf id) = view (s.recordOf id) := by
  obtain ⟨_, accumulator, seconds, hAfter, _⟩ := s.runClock_spec tickInterval started
  rw [hAfter]
  rfl

/-- The opening of a tick, for a view that it does not read. -/
theorem view_openTick (hUnread : Unread view) (h : Steady view) (s : MatchLifecycleSimulation)
    (tick : Nat) (tickInterval : Int) (activePlayerIds : List Nat) (combatStates : List PlayerCombatState)
    (inventorySummaries : List InventorySummary) (id : Nat) :
    view ((s.openTick tick tickInterval activePlayerIds combatStates
      inventorySummaries).2.2.recordOf id) = view (s.recordOf id) := by
  unfold openTick
  dsimp only
  rw [view_runClock view, view_countDown h]
  exact view_observe hUnread s activePlayerIds combatStates inventorySummaries id

/-- The respawns of a tick, for a steady view. -/
theorem view_respawnDue (h : Steady view) (tick : Nat) (ids : List Nat)
    (s : MatchLifecycleSimulation) (id : Nat) :
    view ((s.respawnDue tick ids).2.recordOf id) = view (s.recordOf id) := by
  refine keeps_respawnDue (R := fun s t => view (t.recordOf id) = view (s.recordOf id))
    (fun _ => rfl) (fun hFirst hSecond => hSecond.trans hFirst) (fun s head => ?_)
    (fun s head => ?_) tick ids s
  · exact view_modifyPlayer view s head stopWaiting (fun record => h.pending record none) id
  · exact view_modifyPlayer view s head returned
      (fun record => (h.pending { record with alive := true } none).trans (h.alive record true)) id

theorem view_applyRespawns (h : Steady view) (s : MatchLifecycleSimulation) (tick id : Nat) :
    view ((s.applyRespawns tick).2.recordOf id) = view (s.recordOf id) := by
  unfold applyRespawns
  split
  · exact view_respawnDue h tick _ s id
  · rfl

/-- The view reads nothing of what a death writes. -/
structure Deathless (view : PlayerRecord → β) : Prop where
  touch : ∀ record, view (MatchLifecycleSimulation.touch record) = view record
  victim : ∀ config tick record, view (victimRecord config tick record) = view record
  killer : ∀ record, view (killerRecord record) = view record

/-- One death, for a view that deaths do not change. -/
theorem view_recordDeath (h : Deathless view) (s : MatchLifecycleSimulation) (tick : Nat)
    (death : DeathResolution) (id : Nat) :
    view ((s.recordDeath tick death).recordOf id) = view (s.recordOf id) := by
  have hVictim := view_modifyPlayer view (s.ensurePlayer death.victimId) death.victimId
    (victimRecord s.config tick) (h.victim s.config tick) id
  unfold recordDeath
  dsimp only
  split
  · rw [view_modifyPlayer view _ _ killerRecord h.killer, view_touched h.touch, hVictim,
      view_touched h.touch]
  · rw [hVictim, view_touched h.touch]

/-- All deaths of a tick, by induction on what is left of them. -/
theorem view_recordDeaths (h : Deathless view) (tick : Nat) (deaths : List DeathResolution)
    (s : MatchLifecycleSimulation) (handled : Finset Nat) (id : Nat) :
    view ((s.recordDeaths tick deaths handled).recordOf id) = view (s.recordOf id) :=
  keeps_recordDeaths (R := fun s t => view (t.recordOf id) = view (s.recordOf id)) (fun _ => rfl)
    (fun hFirst hSecond => hSecond.trans hFirst)
    (fun s death => view_recordDeath h s tick death id) deaths s handled

theorem view_applyDeaths (h : Deathless view) (s : MatchLifecycleSimulation) (tick : Nat)
    (deathEvents : List DeathResolution) (id : Nat) :
    view ((s.applyDeaths tick deathEvents).recordOf id) = view (s.recordOf id) := by
  unfold applyDeaths
  split
  · exact view_recordDeaths h tick _ s ∅ id
  · rfl

/-- The end of a match writes no record. -/
theorem view_finishMatch (view : PlayerRecord → β) (s : MatchLifecycleSimulation) (tick : Nat)
    (timerExpired : Bool) (id : Nat) :
    view ((s.finishMatch tick timerExpired).2.recordOf id) = view (s.recordOf id) := by
  rcases s.finishMatch_cases tick timerExpired with ⟨_, _, _, winner, hAfter⟩ | ⟨_, hSame⟩
  · rw [hAfter]
    rfl
  · rw [hSame]

end View

theorem unread_standingOf : Unread standingOf :=
  ⟨fun _ _ => rfl, fun _ _ => rfl, fun _ _ => rfl, fun _ _ => rfl⟩

/-- A write to an existing record. -/
theorem standing_modifyPlayer {s : MatchLifecycleSimulation} {playerId : Nat}
    (hKnown : (s.playersById.find playerId).isSome = true) (f : PlayerRecord → PlayerRecord)
    (id : Nat) :
    (s.modifyPlayer playerId f).standing id =
      if id = playerId then standingOf (f (s.recordOf playerId)) else s.standing id := by
  obtain ⟨record, hFind⟩ := Option.isSome_iff_exists.mp hKnown
  unfold standing recordOf modifyPlayer
  rw [UnorderedMap.find_modify, hFind]
  split
  · rfl
  · rfl

/-- A change to the record of a player who is due revives the standing, if it ends the wait and
changes nothing else of it. -/
theorem standing_revived {s : MatchLifecycleSimulation} {tick playerId : Nat}
    {record : PlayerRecord} (hFind : s.playersById.find playerId = some record)
    (hDue : isDue tick record = true) {f : PlayerRecord → PlayerRecord}
    (hWrites : ∀ record, standingOf (f record) =
      { standingOf record with pendingRespawnTick := none }) (id : Nat) :
    (s.modifyPlayer playerId f).standing id =
      if id = playerId then (s.standing playerId).revive tick else s.standing id := by
  have hRevive : (s.standing playerId).revive tick =
      { standingOf record with pendingRespawnTick := none } := by
    rw [standing_of_find hFind]
    exact if_pos hDue
  rw [standing_modifyPlayer (by rw [hFind]; rfl), hRevive, hWrites, recordOf_of_find hFind]

theorem standing_ensurePlayer (s : MatchLifecycleSimulation) (playerId id : Nat) :
    (s.ensurePlayer playerId).standing id = s.standing id :=
  view_ensurePlayer unread_standingOf s playerId id

/-- What a tick observes changes nobody's standing. -/
theorem standing_observe (s : MatchLifecycleSimulation) (activePlayerIds : List Nat)
    (combatStates : List PlayerCombatState) (inventorySummaries : List InventorySummary)
    (id : Nat) :
    (s.observe activePlayerIds combatStates inventorySummaries).standing id = s.standing id :=
  view_observe unread_standingOf s activePlayerIds combatStates inventorySummaries id

/-- A player who leaves no longer waits for a respawn. -/
theorem standing_removePlayer (s : MatchLifecycleSimulation) (playerId id : Nat) :
    (s.removePlayer playerId).standing id =
      if id = playerId then { s.standing id with pendingRespawnTick := none }
      else s.standing id := by
  unfold standing recordOf removePlayer modifyPlayer
  rw [UnorderedMap.find_modify]
  by_cases h : id = playerId
  · rw [if_pos h, if_pos h, h]
    cases s.playersById.find playerId with
    | none => rfl
    | some record => rfl
  · rw [if_neg h, if_neg h]
    rfl

/-- The start of the match gives every player a fresh standing. -/
theorem standing_countDown (s : MatchLifecycleSimulation) (tick id : Nat) :
    (s.Starts → (s.countDown tick).2.2.standing id = .fresh s.config) ∧
      (¬ s.Starts → (s.countDown tick).2.2.standing id = s.standing id) := by
  rcases s.countDown_cases tick with ⟨hStarts, _, _, ticks, hAfter⟩ | ⟨hWaits, _, ticks, hAfter⟩
  · refine ⟨fun _ => ?_, fun h => absurd hStarts h⟩
    rw [hAfter]
    unfold standing recordOf enterInMatch
    dsimp only
    rw [UnorderedMap.find_mapValues]
    cases s.playersById.find id with
    | none => rfl
    | some record => rfl
  · refine ⟨fun h => absurd h hWaits, fun _ => ?_⟩
    rw [hAfter]
    rfl

theorem standing_runClock (s : MatchLifecycleSimulation) (tickInterval : Int) (started : Bool)
    (id : Nat) : (s.runClock tickInterval started).2.standing id = s.standing id := by
  obtain ⟨_, accumulator, seconds, hAfter, _⟩ := s.runClock_spec tickInterval started
  rw [hAfter]
  rfl

/-- The record of a victim, as its standing: a life is lost, and a respawn may be planned. -/
theorem standingOf_victimRecord (config : MatchLifecycleConfig) (tick : Nat)
    (record : PlayerRecord) :
    standingOf (victimRecord config tick record) = (standingOf record).die config tick := by
  unfold victimRecord Standing.die
  dsimp only
  by_cases h : 0 < record.respawnsRemaining
  · rw [if_pos h, if_pos (show 0 < (standingOf record).respawnsRemaining from h)]
    rfl
  · rw [if_neg h, if_neg (show ¬ 0 < (standingOf record).respawnsRemaining from h)]
    rfl

/-- A death changes the standing of its victim only. -/
theorem standing_recordDeath (s : MatchLifecycleSimulation) (tick : Nat)
    (death : DeathResolution) (id : Nat) :
    (s.recordDeath tick death).standing id =
      if id = death.victimId then (s.standing id).die s.config tick else s.standing id := by
  have hBuried : ((s.ensurePlayer death.victimId).modifyPlayer death.victimId
      (victimRecord s.config tick)).standing id =
        if id = death.victimId then (s.standing id).die s.config tick else s.standing id := by
    rw [standing_modifyPlayer (by rw [find_ensurePlayer, if_pos rfl]; rfl), standing_ensurePlayer]
    by_cases h : id = death.victimId
    · rw [if_pos h, if_pos h, standingOf_victimRecord, h]
      exact congrArg _ (s.standing_ensurePlayer death.victimId death.victimId)
    · rw [if_neg h, if_neg h]
  unfold recordDeath
  dsimp only
  split
  · have hKill : ∀ t : MatchLifecycleSimulation,
        (t.modifyPlayer death.killerId killerRecord).standing id = t.standing id :=
      fun t => view_modifyPlayer standingOf t death.killerId killerRecord (fun _ => rfl) id
    rw [hKill, standing_ensurePlayer, hBuried]
  · exact hBuried

/-- Each victim that was not yet handled dies once. -/
theorem standing_recordDeaths (tick : Nat) (deaths : List DeathResolution)
    (s : MatchLifecycleSimulation) (handled : Finset Nat) (id : Nat) :
    (s.recordDeaths tick deaths handled).standing id =
      (s.standing id).dieIf (Died deaths id ∧ id ∉ handled) s.config tick := by
  induction deaths generalizing s handled with
  | nil => simp [recordDeaths, Standing.dieIf, Died]
  | cons death rest ih =>
      have hDied := died_cons death rest id
      unfold recordDeaths
      split
      · rename_i hHandled
        rw [ih]
        unfold Standing.dieIf
        congr 1
        rw [hDied]
        apply propext
        constructor
        · exact fun h => ⟨Or.inr h.1, h.2⟩
        · rintro ⟨hVictim | hRest, hNew⟩
          · exact absurd (hVictim ▸ hHandled) hNew
          · exact ⟨hRest, hNew⟩
      · rename_i hNew
        rw [ih, standing_recordDeath, (s.sameClock_recordDeath tick death).config_eq]
        unfold Standing.dieIf
        by_cases hVictim : id = death.victimId
        · rw [if_pos hVictim, if_neg, if_pos]
          · exact ⟨hDied.mpr (Or.inl hVictim.symm), hVictim ▸ hNew⟩
          · exact fun h => h.2 (hVictim ▸ Finset.mem_insert_self _ _)
        · rw [if_neg hVictim]
          congr 1
          rw [hDied, Finset.mem_insert]
          apply propext
          have hSwap : ¬ death.victimId = id := fun h => hVictim h.symm
          tauto

/-- The players that respawn, and what happens to every listed standing. -/
theorem standing_respawnDue (tick : Nat) {ids : List Nat} (hNodup : ids.Nodup)
    (s : MatchLifecycleSimulation) (id : Nat) :
    ((s.respawnDue tick ids).2.standing id =
        if id ∈ ids then (s.standing id).revive tick else s.standing id) ∧
      (id ∈ (s.respawnDue tick ids).1 ↔
        id ∈ ids ∧ (s.standing id).due tick = true ∧ (s.standing id).eliminated = false) := by
  induction ids generalizing s with
  | nil => simp [respawnDue]
  | cons head rest ih =>
      obtain ⟨hHead, hRest⟩ := List.nodup_cons.mp hNodup
      rcases s.respawnDue_cons tick head rest with
        ⟨hLeft, hAfter⟩ | ⟨record, hFind, hDue, ⟨hOut, hAfter⟩ | ⟨hIn, hAfter⟩⟩
      · have hNotDue : (s.standing head).due tick = false := by rwa [due_standing]
        obtain ⟨hStanding, hMem⟩ := ih hRest s
        rw [hAfter, hStanding, hMem]
        by_cases hId : id = head
        · rw [hId, if_neg hHead, if_pos List.mem_cons_self, Standing.revive, hNotDue]
          simp [hHead]
        · simp [hId]
      · have hRevived := standing_revived hFind hDue (f := stopWaiting) fun _ => rfl
        obtain ⟨hStanding, hMem⟩ := ih hRest (s.modifyPlayer head stopWaiting)
        rw [hAfter, hStanding, hMem, hRevived]
        by_cases hId : id = head
        · have hGone : (standingOf record).eliminated = true := hOut
          rw [hId, standing_of_find hFind]
          simp [hHead, hGone]
        · simp [hId]
      · have hRevived := standing_revived hFind hDue (f := returned) fun _ => rfl
        obtain ⟨hStanding, hMem⟩ := ih hRest (s.modifyPlayer head returned)
        have hJoins : id ∈ head :: ((s.modifyPlayer head returned).respawnDue tick rest).1 ↔
            id = head ∨ id ∈ ((s.modifyPlayer head returned).respawnDue tick rest).1 :=
          List.mem_cons
        rw [hAfter, hJoins, hMem, hRevived]
        dsimp only
        rw [hStanding, hRevived]
        by_cases hId : id = head
        · have hIs : (standingOf record).due tick = true := hDue
          have hStays : (standingOf record).eliminated = false := hIn
          rw [hId, standing_of_find hFind]
          simp [hHead, hIs, hStays]
        · simp [hId]

theorem standing_finishMatch (s : MatchLifecycleSimulation) (tick : Nat) (timerExpired : Bool)
    (id : Nat) : (s.finishMatch tick timerExpired).2.standing id = s.standing id := by
  rcases s.finishMatch_cases tick timerExpired with ⟨_, _, _, winner, hAfter⟩ | ⟨_, hSame⟩
  · rw [hAfter]
    rfl
  · rw [hSame]

/-- Over the deaths of a tick each player dies once, if at all. -/
theorem standing_applyDeaths (s : MatchLifecycleSimulation) (tick : Nat)
    (deathEvents : List DeathResolution) (id : Nat) (hPhase : s.phase = .inMatch) :
    (s.applyDeaths tick deathEvents).standing id =
      (s.standing id).dieIf (Died deathEvents id) s.config tick := by
  have hDied : Died (sortBy deathLess deathEvents) id ↔ Died deathEvents id := by simp [Died]
  rw [applyDeaths, if_pos hPhase, standing_recordDeaths]
  unfold Standing.dieIf
  simp [hDied]

/-- Each player is visited once. -/
theorem sortedPlayerIds_nodup (s : MatchLifecycleSimulation) : s.sortedPlayerIds.Nodup :=
  (sortBy_perm _ _).nodup_iff.mpr s.playersById.keys_nodup

/-- In play, every due standing is revived, and the player respawns unless it is out. -/
theorem standing_applyRespawns (s : MatchLifecycleSimulation) (tick id : Nat)
    (hPhase : s.phase = .inMatch) :
    (s.applyRespawns tick).2.standing id = (s.standing id).revive tick ∧
      (id ∈ (s.applyRespawns tick).1 ↔
        (s.standing id).due tick = true ∧ (s.standing id).eliminated = false) := by
  obtain ⟨hStanding, hMem⟩ := standing_respawnDue tick s.sortedPlayerIds_nodup s id
  rw [applyRespawns, if_pos hPhase, hStanding, hMem]
  have hKnown : id ∈ s.sortedPlayerIds ↔ ∃ record, s.playersById.find id = some record := by
    rw [sortedPlayerIds, mem_sortBy, UnorderedMap.mem_keys_iff]
  cases hFind : s.playersById.find id with
  | none =>
      have hNot : id ∉ s.sortedPlayerIds := by simp [hKnown, hFind]
      rw [if_neg hNot, standing_of_find_none hFind]
      simp [hNot, Standing.revive_of_none, Standing.fresh, Standing.due]
  | some record => simp [hKnown, hFind]

/-! A whole tick, as one player sees it. -/

section Tick

variable (s : MatchLifecycleSimulation) (tick : Nat) (tickInterval : Int)
  (activePlayerIds : List Nat) (combatStates : List PlayerCombatState)
  (deathEvents : List DeathResolution) (inventorySummaries : List InventorySummary)

theorem config_openTick :
    (s.openTick tick tickInterval activePlayerIds combatStates inventorySummaries).2.2.config =
      s.config := by
  have hObserve := s.sameClock_observe activePlayerIds combatStates inventorySummaries
  rcases s.openTick_cases tick tickInterval activePlayerIds combatStates inventorySummaries with
    ⟨-, -, _, _, _, hAfter⟩ | ⟨-, _, _, _, hAfter⟩
  · rw [hAfter]
    exact hObserve.config_eq
  · rw [hAfter]
    exact hObserve.config_eq

/-- The match is in play at the deaths of the tick: it was before, or it starts now. -/
theorem phase_openTick :
    (s.openTick tick tickInterval activePlayerIds combatStates inventorySummaries).2.2.phase =
        .inMatch ↔
      s.phase = .inMatch ∨ (s.observe activePlayerIds combatStates inventorySummaries).Starts := by
  have hObserve := s.sameClock_observe activePlayerIds combatStates inventorySummaries
  rcases s.openTick_cases tick tickInterval activePlayerIds combatStates inventorySummaries with
    ⟨hStarts, -, _, _, _, hAfter⟩ | ⟨hWaits, _, _, _, hAfter⟩
  · rw [hAfter]
    exact ⟨fun _ => Or.inr hStarts, fun _ => rfl⟩
  · rw [hAfter]
    dsimp only
    rw [hObserve.phase_eq]
    exact ⟨Or.inl, fun h => h.resolve_right hWaits⟩

/-- Unless the match starts, a tick up to its deaths stays in its phase. -/
theorem phase_openTick_of_waits
    (hWaits : ¬ (s.observe activePlayerIds combatStates inventorySummaries).Starts) :
    (s.openTick tick tickInterval activePlayerIds combatStates inventorySummaries).2.2.phase =
      s.phase := by
  have hObserve := s.sameClock_observe activePlayerIds combatStates inventorySummaries
  rcases s.openTick_cases tick tickInterval activePlayerIds combatStates inventorySummaries with
    ⟨hStarts, -⟩ | ⟨-, _, _, _, hAfter⟩
  · exact absurd hStarts hWaits
  · rw [hAfter]
    exact hObserve.phase_eq

/-- The start of a match resets every standing, and no other tick's opening touches one. -/
theorem standing_openTick (id : Nat) :
    ((s.observe activePlayerIds combatStates inventorySummaries).Starts →
        (s.openTick tick tickInterval activePlayerIds combatStates
          inventorySummaries).2.2.standing id = .fresh s.config) ∧
      (¬ (s.observe activePlayerIds combatStates inventorySummaries).Starts →
        (s.openTick tick tickInterval activePlayerIds combatStates
          inventorySummaries).2.2.standing id = s.standing id) := by
  have hObserve := s.sameClock_observe activePlayerIds combatStates inventorySummaries
  obtain ⟨hStarts, hWaits⟩ := (s.observe activePlayerIds combatStates
    inventorySummaries).standing_countDown tick id
  unfold openTick
  dsimp only
  rw [standing_runClock]
  refine ⟨fun h => ?_, fun h => ?_⟩
  · rw [hStarts h, hObserve.config_eq]
  · rw [hWaits h, standing_observe]

theorem config_resolveTick :
    (s.resolveTick tick tickInterval activePlayerIds combatStates deathEvents
      inventorySummaries).2.config = s.config := by
  have hRecords := s.sameClock_playTick tick tickInterval activePlayerIds combatStates deathEvents
    inventorySummaries
  have hConfig := hRecords.config_eq.trans (s.config_openTick tick tickInterval activePlayerIds
    combatStates inventorySummaries)
  rw [resolveTick_snd]
  rcases finishMatch_cases (s.playTick tick tickInterval activePlayerIds combatStates
      deathEvents inventorySummaries).2 tick (s.openTick tick tickInterval activePlayerIds
        combatStates inventorySummaries).1 with ⟨_, _, _, winner, hAfter⟩ | ⟨_, hSame⟩
  · rw [hAfter]
    exact hConfig
  · rw [hSame]
    exact hConfig

/-- In play, a standing goes through the player's death and then through its respawn. -/
theorem standing_playTick (id : Nat)
    (hPlays : (s.openTick tick tickInterval activePlayerIds combatStates
      inventorySummaries).2.2.phase = .inMatch) :
    let buried := ((s.openTick tick tickInterval activePlayerIds combatStates
      inventorySummaries).2.2.standing id).dieIf (Died deathEvents id) s.config tick
    let played := s.playTick tick tickInterval activePlayerIds combatStates deathEvents
      inventorySummaries
    played.2.standing id = buried.revive tick ∧
      (id ∈ played.1 ↔ buried.due tick = true ∧ buried.eliminated = false) := by
  intro buried played
  have hSame := sameClock_applyDeaths (s.openTick tick tickInterval activePlayerIds combatStates
    inventorySummaries).2.2 tick deathEvents
  have hBuried := standing_applyDeaths _ tick deathEvents id hPlays
  rw [config_openTick] at hBuried
  obtain ⟨hStanding, hMem⟩ := standing_applyRespawns _ tick id (hSame.phase_eq.trans hPlays)
  rw [hBuried] at hStanding hMem
  exact ⟨hStanding, hMem⟩

/-- Out of play a tick leaves its records as they are, and nobody respawns. -/
theorem playTick_of_idle
    (hIdle : (s.openTick tick tickInterval activePlayerIds combatStates
      inventorySummaries).2.2.phase ≠ .inMatch) :
    s.playTick tick tickInterval activePlayerIds combatStates deathEvents inventorySummaries =
      ([], (s.openTick tick tickInterval activePlayerIds combatStates
        inventorySummaries).2.2) := by
  rw [playTick, applyDeaths, if_neg hIdle, applyRespawns, if_neg hIdle]

end Tick

end MatchLifecycleSimulation

end DevyFps.Server
