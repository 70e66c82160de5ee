import DevyFps.Server.MatchLifecycleSimulation

/-! The match records of single players through the stages of a tick. A player
without a record is read as the record that `ensure_player` would create, so that
each stage acts on every player in the same way. -/

namespace DevyFps.Server.MatchLifecycleSimulation

open Foundations

/-- The record of a player, or the one it would start with. -/
def recordOf (s : MatchLifecycleSimulation) (playerId : Nat) : PlayerRecord :=
  (s.playersById.find playerId).getD (s.newRecord playerId)

/-- The fields that decide whether a player lives, and the only ones that a death or
a respawn writes apart from the score. -/
structure Vitals where
  alive : Bool
  eliminated : Bool
  respawnsRemaining : Nat
  pendingRespawnTick : Option Nat
  deriving DecidableEq

def vitalsOf (record : PlayerRecord) : Vitals where
  alive := record.alive
  eliminated := record.eliminated
  respawnsRemaining := record.respawnsRemaining
  pendingRespawnTick := record.pendingRespawnTick

def vitals (s : MatchLifecycleSimulation) (playerId : Nat) : Vitals := vitalsOf (s.recordOf playerId)

theorem recordOf_of_find {s : MatchLifecycleSimulation} {playerId : Nat} {record : PlayerRecord}
    (h : s.playersById.find playerId = some record) : s.recordOf playerId = record := by
  simp [recordOf, h]

/-- A player that is made known is connected, and was created if it was not there. -/
theorem find_ensurePlayer (s : MatchLifecycleSimulation) (playerId id : Nat) :
    (s.ensurePlayer playerId).playersById.find id =
      if id = playerId then some (touch (s.recordOf playerId)) else s.playersById.find id := by
  simp only [ensurePlayer, UnorderedMap.find_modify, UnorderedMap.find_tryEmplace, if_true,
    Option.map_some, recordOf]
  by_cases h : id = playerId
  · simp [h]
  · simp [h]

/-- The record that is read of a player, after one was made known. -/
theorem recordOf_ensurePlayer (s : MatchLifecycleSimulation) (playerId id : Nat) :
    (s.ensurePlayer playerId).recordOf id =
      if id = playerId then touch (s.recordOf playerId) else s.recordOf id := by
  unfold recordOf
  rw [find_ensurePlayer]
  split
  · rfl
  · rfl

/-- A change of a player that was made known first. -/
theorem recordOf_modifyPlayer_ensured (s : MatchLifecycleSimulation) (playerId id : Nat)
    (f : PlayerRecord → PlayerRecord) :
    ((s.ensurePlayer playerId).modifyPlayer playerId f).recordOf id =
      if id = playerId then f (touch (s.recordOf playerId)) else s.recordOf id := by
  unfold recordOf
  simp only [modifyPlayer, UnorderedMap.find_modify, find_ensurePlayer, if_true, Option.map_some]
  split
  · rfl
  · rfl

/-! Who is marked connected. -/

/-- The player has a record that is marked connected. -/
def isConnected (s : MatchLifecycleSimulation) (playerId : Nat) : Bool :=
  (s.playersById.find playerId).any (·.connected)

/-- Connected are the players whose record has the mark. -/
theorem isConnected_iff {s : MatchLifecycleSimulation} {playerId : Nat} :
    s.isConnected playerId = true ↔
      ∃ record, s.playersById.find playerId = some record ∧ record.connected = true := by
  unfold isConnected
  cases s.playersById.find playerId <;> simp

/-- To make a player known connects it. -/
theorem isConnected_ensurePlayer (s : MatchLifecycleSimulation) (playerId id : Nat) :
    (s.ensurePlayer playerId).isConnected id = (decide (id = playerId) || s.isConnected id) := by
  unfold isConnected
  rw [find_ensurePlayer]
  by_cases h : id = playerId
  · simp [h, touch]
  · simp [h]

/-- A write through an iterator that leaves the flag alone. -/
theorem isConnected_modifyPlayer (s : MatchLifecycleSimulation) (playerId id : Nat)
    (f : PlayerRecord → PlayerRecord) (hFlag : ∀ record, (f record).connected = record.connected) :
    (s.modifyPlayer playerId f).isConnected id = s.isConnected id := by
  unfold isConnected modifyPlayer
  rw [UnorderedMap.find_modify]
  split
  · rename_i hId
    rw [hId]
    cases s.playersById.find playerId with
    | none => rfl
    | some record => simp [hFlag]
  · rfl

/-- A pass over all records that keeps the mark connects nobody. -/
theorem isConnected_mapValues (s : MatchLifecycleSimulation) (id : Nat)
    (f : Nat → PlayerRecord → PlayerRecord)
    (hFlag : ∀ key record, (f key record).connected = record.connected) :
    ({ s with playersById := s.playersById.mapValues f }).isConnected id = s.isConnected id := by
  unfold isConnected
  rw [UnorderedMap.find_mapValues]
  cases s.playersById.find id with
  | none => rfl
  | some record => simp [hFlag]

/-- A list of players that are made known connects those in it. -/
theorem isConnected_ensureAll (s : MatchLifecycleSimulation) (ids : List Nat) (id : Nat) :
    (ids.foldl ensurePlayer s).isConnected id = (ids.contains id || s.isConnected id) := by
  induction ids generalizing s with
  | nil => simp
  | cons head rest ih =>
      rw [List.foldl_cons, ih, isConnected_ensurePlayer, List.contains_cons]
      have hEq : decide (id = head) = (id == head) := rfl
      rw [hEq, ← Bool.or_assoc, Bool.or_comm (rest.contains id)]

/-- After the first two loops the flag is exactly membership in the active ids. -/
theorem isConnected_markActive (s : MatchLifecycleSimulation) (activePlayerIds : List Nat)
    (id : Nat) : (s.markActive activePlayerIds).isConnected id = activePlayerIds.contains id := by
  have hEnsured := isConnected_ensureAll s activePlayerIds id
  unfold isConnected markActive at *
  rw [UnorderedMap.find_mapValues]
  cases hFind : (activePlayerIds.foldl ensurePlayer s).playersById.find id with
  | some record => simp
  | none =>
      rw [hFind] at hEnsured
      simp only [Option.any_none] at hEnsured
      simp only [Option.map_none, Option.any_none]
      cases hActive : activePlayerIds.contains id with
      | false => rfl
      | true => rw [hActive] at hEnsured; cases hEnsured

/-- Every player of the combat is connected by the copy of its state. -/
theorem isConnected_syncCombatStates (s : MatchLifecycleSimulation)
    (states : List PlayerCombatState) (id : Nat) :
    (states.foldl syncCombatState s).isConnected id =
      ((states.map PlayerCombatState.playerId).contains id || s.isConnected id) := by
  induction states generalizing s with
  | nil => simp
  | cons head rest ih =>
      have hHead : (s.syncCombatState head).isConnected id =
          (decide (id = head.playerId) || s.isConnected id) := by
        rw [← isConnected_ensurePlayer]
        refine isConnected_modifyPlayer _ head.playerId id _ fun record => ?_
        split <;> rfl
      rw [List.foldl_cons, ih, hHead, List.map_cons, List.contains_cons]
      have hEq : decide (id = head.playerId) = (id == head.playerId) := rfl
      rw [hEq, ← Bool.or_assoc, Bool.or_comm (List.contains _ id)]

/-- Every player with a summary is connected by the copy of its coins. -/
theorem isConnected_syncAllCoins (s : MatchLifecycleSimulation)
    (summaries : List InventorySummary) (id : Nat) :
    (summaries.foldl syncCoins s).isConnected id =
      ((summaries.map InventorySummary.playerId).contains id || s.isConnected id) := by
  induction summaries generalizing s with
  | nil => simp
  | cons head rest ih =>
      have hHead : (s.syncCoins head).isConnected id =
          (decide (id = head.playerId) || s.isConnected id) := by
        rw [← isConnected_ensurePlayer]
        exact isConnected_modifyPlayer _ head.playerId id _ fun _ => rfl
      rw [List.foldl_cons, ih, hHead, List.map_cons, List.contains_cons]
      have hEq : decide (id = head.playerId) = (id == head.playerId) := rfl
      rw [hEq, ← Bool.or_assoc, Bool.or_comm (List.contains _ id)]

/-- The countdown connects nobody. -/
theorem isConnected_countDown (s : MatchLifecycleSimulation) (tick id : Nat) :
    (s.countDown tick).2.2.isConnected id = s.isConnected id := by
  unfold countDown
  split
  · rfl
  · split
    · rfl
    · dsimp only
      split
      · exact isConnected_mapValues s id (fun _ record => enterRecord s.config record)
          fun _ _ => rfl
      · rfl

theorem isConnected_runClock (s : MatchLifecycleSimulation) (tickInterval : Int) (started : Bool)
    (id : Nat) : (s.runClock tickInterval started).2.isConnected id = s.isConnected id := by
  unfold runClock
  split
  · rfl
  · rfl

/-- The victim of a death is connected by it. -/
theorem isConnected_victimRecord (s : MatchLifecycleSimulation) (tick victimId id : Nat) :
    ((s.ensurePlayer victimId).modifyPlayer victimId (victimRecord s.config tick)).isConnected id =
      (decide (id = victimId) || s.isConnected id) := by
  rw [← isConnected_ensurePlayer]
  refine isConnected_modifyPlayer _ victimId id _ fun record => ?_
  unfold victimRecord
  dsimp only
  split
  · rfl
  · rfl

/-- A death connects only players that it names. -/
theorem isConnected_recordDeath (s : MatchLifecycleSimulation) (tick : Nat)
    (death : DeathResolution) (id : Nat) :
    (s.isConnected id = true → (s.recordDeath tick death).isConnected id = true) ∧
      ((s.recordDeath tick death).isConnected id = true →
        s.isConnected id = true ∨ id = death.victimId ∨ id = death.killerId) := by
  unfold recordDeath
  dsimp only
  split
  · rw [isConnected_modifyPlayer _ _ _ killerRecord fun _ => rfl, isConnected_ensurePlayer,
      isConnected_victimRecord]
    simp only [Bool.or_eq_true, decide_eq_true_eq]
    tauto
  · rw [isConnected_victimRecord]
    simp only [Bool.or_eq_true, decide_eq_true_eq]
    tauto

/-- The loop over the deaths keeps what a death keeps. -/
theorem keeps_recordDeaths {R : MatchLifecycleSimulation → MatchLifecycleSimulation → Prop}
    (hRefl : ∀ s, R s s) (hTrans : ∀ {s t u}, R s t → R t u → R s u) {tick : Nat}
    (hDeath : ∀ s death, R s (s.recordDeath tick death)) (deaths : List DeathResolution)
    (s : MatchLifecycleSimulation) (handled : Finset Nat) :
    R s (s.recordDeaths tick deaths handled) := by
  induction deaths generalizing s handled with
  | nil => exact hRefl s
  | cons death rest ih =>
      unfold recordDeaths
      split
      · exact ih s handled
      · exact hTrans (hDeath s death) (ih _ _)

/-- The deaths of a tick disconnect nobody and connect only those who are in them. -/
theorem isConnected_recordDeaths (tick : Nat) (deaths : List DeathResolution)
    (s : MatchLifecycleSimulation) (handled : Finset Nat) (id : Nat) :
    (s.isConnected id = true → (s.recordDeaths tick deaths handled).isConnected id = true) ∧
      ((s.recordDeaths tick deaths handled).isConnected id = true →
        s.isConnected id = true ∨ ∃ death ∈ deaths, id = death.victimId ∨ id = death.killerId) := by
  induction deaths generalizing s handled with
  | nil => exact ⟨fun h => h, Or.inl⟩
  | cons death rest ih =>
      unfold recordDeaths
      split
      · refine ⟨(ih s handled).1, fun h => ?_⟩
        rcases (ih s handled).2 h with hOld | ⟨other, hOther, hNamed⟩
        · exact Or.inl hOld
        · exact Or.inr ⟨other, List.mem_cons_of_mem _ hOther, hNamed⟩
      · have hRest := ih (s.recordDeath tick death) (insert death.victimId handled)
        have hFirst := isConnected_recordDeath s tick death id
        refine ⟨fun h => hRest.1 (hFirst.1 h), fun h => ?_⟩
        rcases hRest.2 h with hOld | ⟨other, hOther, hNamed⟩
        · rcases hFirst.2 hOld with hOlder | hNamed
          · exact Or.inl hOlder
          · exact Or.inr ⟨death, List.mem_cons_self, hNamed⟩
        · exact Or.inr ⟨other, List.mem_cons_of_mem _ hOther, hNamed⟩

/-! The loop that brings players back changes the records of those who are due. -/

def isDue (tick : Nat) (record : PlayerRecord) : Bool :=
  record.pendingRespawnTick.any fun due => due ≤ tick

def stopWaiting (record : PlayerRecord) : PlayerRecord :=
  { record with pendingRespawnTick := none }

def returned (record : PlayerRecord) : PlayerRecord :=
  { record with pendingRespawnTick := none, alive := true }

/-- One turn of the loop. A player who is not due is left alone, one who is eliminated only
stops waiting, and any other one returns. -/
theorem respawnDue_cons (s : MatchLifecycleSimulation) (tick head : Nat) (rest : List Nat) :
    ((s.playersById.find head).any (isDue tick) = false ∧
        s.respawnDue tick (head :: rest) = s.respawnDue tick rest) ∨
      ∃ record, s.playersById.find head = some record ∧ isDue tick record = true ∧
        ((record.eliminated = true ∧ s.respawnDue tick (head :: rest) =
            (s.modifyPlayer head stopWaiting).respawnDue tick rest) ∨
          (record.eliminated = false ∧ s.respawnDue tick (head :: rest) =
            (head :: ((s.modifyPlayer head returned).respawnDue tick rest).1,
              ((s.modifyPlayer head returned).respawnDue tick rest).2))) := by
  rw [respawnDue]
  cases hFind : s.playersById.find head with
  | none => exact Or.inl ⟨rfl, rfl⟩
  | some record =>
      rw [Option.bind_some]
      cases hPending : record.pendingRespawnTick with
      | none =>
          left
          simp [isDue, hPending]
      | some due =>
          by_cases hEarly : tick < due
          · left
            simp [isDue, hPending, hEarly]
          · right
            refine ⟨record, rfl, by simp [isDue, hPending, Nat.le_of_not_lt hEarly], ?_⟩
            dsimp only
            rw [if_neg hEarly]
            cases hOut : record.eliminated with
            | true =>
                left
                simp only [Option.any_some, hOut, if_true, true_and]
                rfl
            | false =>
                right
                simp only [Option.any_some, hOut, Bool.false_eq_true, if_false, true_and]
                rfl

/-- The loop keeps what both changes to a record keep. -/
theorem keeps_respawnDue {R : MatchLifecycleSimulation → MatchLifecycleSimulation → Prop}
    (hRefl : ∀ s, R s s) (hTrans : ∀ {s t u}, R s t → R t u → R s u)
    (hStop : ∀ s playerId, R s (s.modifyPlayer playerId stopWaiting))
    (hReturn : ∀ s playerId, R s (s.modifyPlayer playerId returned)) (tick : Nat)
    (ids : List Nat) (s : MatchLifecycleSimulation) : R s (s.respawnDue tick ids).2 := by
  induction ids generalizing s with
  | nil => exact hRefl s
  | cons head rest ih =>
      rcases s.respawnDue_cons tick head rest with
        ⟨-, hAfter⟩ | ⟨_, -, -, ⟨-, hAfter⟩ | ⟨-, hAfter⟩⟩
      · rw [hAfter]
        exact ih s
      · rw [hAfter]
        exact hTrans (hStop s head) (ih _)
      · rw [hAfter]
        exact hTrans (hReturn s head) (ih _)

theorem isConnected_respawnDue (tick : Nat) (ids : List Nat) (s : MatchLifecycleSimulation)
    (id : Nat) : (s.respawnDue tick ids).2.isConnected id = s.isConnected id :=
  keeps_respawnDue (R := fun s t => t.isConnected id = s.isConnected id) (fun _ => rfl)
    (fun hFirst hSecond => hSecond.trans hFirst)
    (fun s head => isConnected_modifyPlayer s head id stopWaiting fun _ => rfl)
    (fun s head => isConnected_modifyPlayer s head id returned fun _ => rfl) tick ids s

theorem isConnected_finishMatch (s : MatchLifecycleSimulation) (tick : Nat) (timerExpired : Bool)
    (id : Nat) : (s.finishMatch tick timerExpired).2.isConnected id = s.isConnected id := by
  unfold finishMatch
  split
  · rfl
  · split
    · rfl
    · split <;> rfl

end DevyFps.Server.MatchLifecycleSimulation
