import DevyFps.Server.MatchStandings
import Mathlib.Algebra.BigOperators.Group.Finset.Piecewise
import Mathlib.Algebra.Order.BigOperators.Group.Finset

/-! Kills and deaths, for each player and over the whole scoreboard. The two counters
are 32 bits wide. -/

namespace DevyFps.Server.MatchLifecycleSimulation

open Foundations

structure Tally where
  kills : Nat
  deaths : Nat
  deriving DecidableEq

def tallyOf (record : PlayerRecord) : Tally := ⟨record.kills, record.deaths⟩

def tally (s : MatchLifecycleSimulation) (playerId : Nat) : Tally := tallyOf (s.recordOf playerId)

theorem unread_tallyOf : Unread tallyOf where
  participated _ _ := rfl
  connected _ _ := rfl
  alive _ _ := rfl
  coins _ _ := rfl

theorem steady_tallyOf : Steady tallyOf where
  alive _ _ := rfl
  enter _ _ := rfl
  pending _ _ := rfl

/-- The opening of a tick resets no tally, not even when the match starts. -/
theorem tally_openTick (s : MatchLifecycleSimulation) (tick : Nat) (tickInterval : Int)
    (activePlayerIds : List Nat) (combatStates : List PlayerCombatState)
    (inventorySummaries : List InventorySummary) (id : Nat) :
    (s.openTick tick tickInterval activePlayerIds combatStates inventorySummaries).2.2.tally id =
      s.tally id :=
  view_openTick unread_tallyOf steady_tallyOf s tick tickInterval activePlayerIds combatStates
    inventorySummaries id

theorem tally_applyRespawns (s : MatchLifecycleSimulation) (tick id : Nat) :
    (s.applyRespawns tick).2.tally id = s.tally id :=
  view_applyRespawns steady_tallyOf s tick id

theorem tally_finishMatch (s : MatchLifecycleSimulation) (tick : Nat) (timerExpired : Bool)
    (id : Nat) : (s.finishMatch tick timerExpired).2.tally id = s.tally id :=
  view_finishMatch tallyOf s tick timerExpired id

/-- A death adds one to the deaths of its victim and one to the kills of its killer, unless
that is nobody or the victim. -/
theorem tally_recordDeath (s : MatchLifecycleSimulation) (tick : Nat) (death : DeathResolution)
    (id : Nat) :
    (s.recordDeath tick death).tally id =
      { kills :=
          if id = death.killerId ∧ death.killerId ≠ 0 ∧ death.killerId ≠ death.victimId then
            ((s.tally id).kills + 1) % 2 ^ 32
          else (s.tally id).kills
        deaths :=
          if id = death.victimId then ((s.tally id).deaths + 1) % 2 ^ 32
          else (s.tally id).deaths } := by
  have hVictim : ∀ record, tallyOf (victimRecord s.config tick record) =
      ⟨record.kills, (record.deaths + 1) % 2 ^ 32⟩ := by
    intro record
    unfold victimRecord
    dsimp only
    split
    · rfl
    · rfl
  have hBuried : ((s.ensurePlayer death.victimId).modifyPlayer death.victimId
      (victimRecord s.config tick)).tally id =
        if id = death.victimId then ⟨(s.tally id).kills, ((s.tally id).deaths + 1) % 2 ^ 32⟩
        else s.tally id := by
    unfold tally
    rw [recordOf_modifyPlayer_ensured]
    by_cases h : id = death.victimId
    · rw [if_pos h, if_pos h, hVictim, h]
      rfl
    · rw [if_neg h, if_neg h]
  unfold recordDeath
  dsimp only
  by_cases hKill : death.killerId ≠ 0 ∧ death.killerId ≠ death.victimId
  · rw [if_pos hKill, tally, recordOf_modifyPlayer_ensured]
    by_cases hId : id = death.killerId
    · have hNot : ¬ id = death.victimId := fun h => hKill.2 (hId ▸ h)
      rw [if_neg hNot] at hBuried
      rw [if_pos hId, if_pos ⟨hId, hKill⟩, if_neg hNot, ← hBuried, hId]
      rfl
    · rw [if_neg hId, if_neg (fun h => hId h.1)]
      refine hBuried.trans ?_
      split
      · rfl
      · rfl
  · rw [if_neg hKill, if_neg (fun h => hKill h.2)]
    refine hBuried.trans ?_
    split
    · rfl
    · rfl

/-- A tick raises the deaths of a player by at most one, and only if the player dies. -/
theorem deaths_recordDeaths (tick : Nat) (deaths : List DeathResolution)
    (s : MatchLifecycleSimulation) (handled : Finset Nat) (id : Nat) :
    ((s.recordDeaths tick deaths handled).tally id).deaths ≤
      (s.tally id).deaths + if Died deaths id ∧ id ∉ handled then 1 else 0 := by
  induction deaths generalizing s handled with
  | nil => exact Nat.le_add_right _ _
  | cons death rest ih =>
      have hDied := died_cons death rest id
      unfold recordDeaths
      split
      · rename_i hHandled
        refine (ih s handled).trans (Nat.add_le_add_left ?_ _)
        split
        · rename_i hRest
          rw [if_pos ⟨hDied.mpr (Or.inr hRest.1), hRest.2⟩]
        · exact Nat.zero_le _
      · rename_i hNew
        refine (ih _ _).trans ?_
        rw [tally_recordDeath]
        dsimp only
        by_cases hVictim : id = death.victimId
        · rw [if_pos hVictim, if_neg fun h => h.2 (hVictim ▸ Finset.mem_insert_self _ _),
            if_pos ⟨hDied.mpr (Or.inl hVictim.symm), hVictim ▸ hNew⟩]
          exact Nat.mod_le ((s.tally id).deaths + 1) _
        · rw [if_neg hVictim]
          refine Nat.add_le_add_left ?_ _
          split
          · rename_i hRest
            rw [if_pos ⟨hDied.mpr (Or.inr hRest.1), fun h => hRest.2 (Finset.mem_insert_of_mem h)⟩]
          · exact Nat.zero_le _

/-- Over any players that include the victims, kills rise by no more than deaths, as long as
no counter of deaths wraps around. -/
theorem kills_recordDeaths (tick : Nat) (players : Finset Nat) (deaths : List DeathResolution)
    (s : MatchLifecycleSimulation) (handled : Finset Nat)
    (hPlayers : ∀ death ∈ deaths, death.victimId ∈ players)
    (hBound : ∀ id, Died deaths id → id ∉ handled → (s.tally id).deaths + 1 < 2 ^ 32) :
    ∑ id ∈ players, ((s.recordDeaths tick deaths handled).tally id).kills +
        ∑ id ∈ players, (s.tally id).deaths ≤
      ∑ id ∈ players, (s.tally id).kills +
        ∑ id ∈ players, ((s.recordDeaths tick deaths handled).tally id).deaths := by
  induction deaths generalizing s handled with
  | nil => exact le_rfl
  | cons death rest ih =>
      have hRest : ∀ other ∈ rest, other.victimId ∈ players :=
        fun other hOther => hPlayers other (List.mem_cons_of_mem _ hOther)
      have hDied : ∀ id, Died rest id → Died (death :: rest) id :=
        fun id ⟨other, hOther, hVictim⟩ => ⟨other, List.mem_cons_of_mem _ hOther, hVictim⟩
      unfold recordDeaths
      split
      · exact ih s handled hRest fun id hRests => hBound id (hDied id hRests)
      · rename_i hNew
        have hAfter := ih (s.recordDeath tick death) (insert death.victimId handled) hRest (by
          intro id hRests hId
          rw [Finset.mem_insert, not_or] at hId
          rw [tally_recordDeath]
          dsimp only
          rw [if_neg hId.1]
          exact hBound id (hDied id hRests) hId.2)
        have hDeaths : ∑ id ∈ players, ((s.recordDeath tick death).tally id).deaths =
            ∑ id ∈ players, (s.tally id).deaths + 1 := by
          calc ∑ id ∈ players, ((s.recordDeath tick death).tally id).deaths
              = ∑ id ∈ players, ((s.tally id).deaths + if id = death.victimId then 1 else 0) := by
                apply Finset.sum_congr rfl
                intro id _
                rw [tally_recordDeath]
                dsimp only
                split
                · rename_i hVictim
                  have hDies : Died (death :: rest) id := ⟨death, List.mem_cons_self, hVictim.symm⟩
                  rw [Nat.mod_eq_of_lt (hBound id hDies (hVictim ▸ hNew))]
                · rfl
            _ = ∑ id ∈ players, (s.tally id).deaths + 1 := by
                rw [Finset.sum_add_distrib, Finset.sum_ite_eq' players,
                  if_pos (hPlayers death List.mem_cons_self)]
        have hKills : ∑ id ∈ players, ((s.recordDeath tick death).tally id).kills ≤
            ∑ id ∈ players, (s.tally id).kills + 1 := by
          calc ∑ id ∈ players, ((s.recordDeath tick death).tally id).kills
              ≤ ∑ id ∈ players, ((s.tally id).kills + if id = death.killerId then 1 else 0) := by
                apply Finset.sum_le_sum
                intro id _
                rw [tally_recordDeath]
                dsimp only
                split
                · rename_i hKiller
                  rw [if_pos hKiller.1]
                  exact Nat.mod_le _ _
                · exact Nat.le_add_right _ _
            _ ≤ ∑ id ∈ players, (s.tally id).kills + 1 := by
                rw [Finset.sum_add_distrib, Finset.sum_ite_eq' players]
                refine Nat.add_le_add_left ?_ _
                split
                · exact le_rfl
                · exact Nat.zero_le 1
        omega

/-- The sums over all records. -/
def totalKills (s : MatchLifecycleSimulation) : Nat :=
  (s.playersById.values.map PlayerRecord.kills).sum

def totalDeaths (s : MatchLifecycleSimulation) : Nat :=
  (s.playersById.values.map PlayerRecord.deaths).sum

/-- The sum over the table is one over any set of players that contains it. -/
theorem totalKills_eq {s : MatchLifecycleSimulation} {players : Finset Nat}
    (h : ∀ id ∈ s.playersById.keys, id ∈ players) :
    s.totalKills = ∑ id ∈ players, (s.tally id).kills := by
  rw [totalKills, UnorderedMap.sum_values _ _ players h]
  apply Finset.sum_congr rfl
  intro id _
  unfold tally recordOf
  cases s.playersById.find id with
  | none => rfl
  | some record => rfl

theorem totalDeaths_eq {s : MatchLifecycleSimulation} {players : Finset Nat}
    (h : ∀ id ∈ s.playersById.keys, id ∈ players) :
    s.totalDeaths = ∑ id ∈ players, (s.tally id).deaths := by
  rw [totalDeaths, UnorderedMap.sum_values _ _ players h]
  apply Finset.sum_congr rfl
  intro id _
  unfold tally recordOf
  cases s.playersById.find id with
  | none => rfl
  | some record => rfl

end DevyFps.Server.MatchLifecycleSimulation
