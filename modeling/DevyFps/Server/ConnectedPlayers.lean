import DevyFps.Server.MatchRecords
import Mathlib.Logic.Relation

/-! Which players a match tick leaves marked as connected. -/

namespace DevyFps.Server.MatchLifecycleSimulation

open Foundations

/-- The calls by which other components change the match. -/
inductive MatchStep : MatchLifecycleSimulation → MatchLifecycleSimulation → Prop where
  | ensurePlayer (s) (playerId : Nat) : MatchStep s (s.ensurePlayer playerId)
  | removePlayer (s) (playerId : Nat) : MatchStep s (s.removePlayer playerId)
  | reset (s) : MatchStep s s.reset
  | resolveTick (s) (tick : Nat) (tickInterval : Int) (activePlayerIds : List Nat)
      (combatStates : List PlayerCombatState) (deathEvents : List DeathResolution)
      (inventorySummaries : List InventorySummary) :
      MatchStep s (s.resolveTick tick tickInterval activePlayerIds combatStates deathEvents
        inventorySummaries).2

/-- The matches that some sequence of calls builds. -/
def Reachable (config : MatchLifecycleConfig) (s : MatchLifecycleSimulation) : Prop :=
  Relation.ReflTransGen MatchStep (create config) s

/-- A death event names the player, as victim or as killer. -/
def NamedByDeath (deathEvents : List DeathResolution) (playerId : Nat) : Prop :=
  ∃ death ∈ deathEvents, playerId = death.victimId ∨ playerId = death.killerId

/-- The records marked connected are those of the active players. Players that a death
event names may be marked besides. -/
def ConnectedExactly (after : MatchLifecycleSimulation) (activePlayerIds : List Nat)
    (deathEvents : List DeathResolution) : Prop :=
  ∀ playerId record, after.playersById.find playerId = some record →
    (playerId ∈ activePlayerIds → record.connected = true) ∧
      (record.connected = true →
        playerId ∈ activePlayerIds ∨ NamedByDeath deathEvents playerId)

/-- The loops over the combat states and the inventory summaries connect every player
that these lists mention. -/
theorem isConnected_openTick (s : MatchLifecycleSimulation) (tick : Nat) (tickInterval : Int)
    (activePlayerIds : List Nat) (combatStates : List PlayerCombatState)
    (inventorySummaries : List InventorySummary) (id : Nat) :
    (s.openTick tick tickInterval activePlayerIds combatStates
        inventorySummaries).2.2.isConnected id = true ↔
      id ∈ activePlayerIds ∨ id ∈ combatStates.map PlayerCombatState.playerId ∨
        id ∈ inventorySummaries.map InventorySummary.playerId := by
  unfold openTick
  dsimp only
  rw [isConnected_runClock, isConnected_countDown, observe, isConnected_syncAllCoins,
    isConnected_syncCombatStates, isConnected_markActive]
  simp only [Bool.or_eq_true, List.contains_iff_mem]
  tauto

/-- The rest of the tick disconnects nobody and connects only players named by deaths. -/
theorem isConnected_resolveTick (s : MatchLifecycleSimulation) (tick : Nat) (tickInterval : Int)
    (activePlayerIds : List Nat) (combatStates : List PlayerCombatState)
    (deathEvents : List DeathResolution) (inventorySummaries : List InventorySummary) (id : Nat) :
    let opened := s.openTick tick tickInterval activePlayerIds combatStates inventorySummaries
    let after := s.resolveTick tick tickInterval activePlayerIds combatStates deathEvents
      inventorySummaries
    (opened.2.2.isConnected id = true → after.2.isConnected id = true) ∧
      (after.2.isConnected id = true →
        opened.2.2.isConnected id = true ∨ NamedByDeath deathEvents id) := by
  intro opened after
  have hRespawns : ∀ t : MatchLifecycleSimulation,
      (t.applyRespawns tick).2.isConnected id = t.isConnected id := by
    intro t
    unfold applyRespawns
    split
    · exact isConnected_respawnDue tick _ t id
    · rfl
  have hEnd : after.2.isConnected id =
      (opened.2.2.applyDeaths tick deathEvents).isConnected id := by
    simp only [after, resolveTick]
    rw [isConnected_finishMatch, hRespawns]
  rw [hEnd]
  unfold applyDeaths
  split
  · obtain ⟨hKeep, hNew⟩ := isConnected_recordDeaths tick (sortBy deathLess deathEvents)
      opened.2.2 ∅ id
    refine ⟨hKeep, fun h => ?_⟩
    rcases hNew h with hOld | ⟨death, hDeath, hNamed⟩
    · exact Or.inl hOld
    · exact Or.inr ⟨death, mem_sortBy.mp hDeath, hNamed⟩
  · exact ⟨fun h => h, Or.inl⟩

/-- From any state, the flags are exact after a tick when every player that the combat
states and the inventory summaries mention is active or named by a death, and only
then. -/
theorem connected_exactly_iff (s : MatchLifecycleSimulation) (tick : Nat) (tickInterval : Int)
    (activePlayerIds : List Nat) (combatStates : List PlayerCombatState)
    (deathEvents : List DeathResolution) (inventorySummaries : List InventorySummary) :
    ConnectedExactly (s.resolveTick tick tickInterval activePlayerIds combatStates deathEvents
        inventorySummaries).2 activePlayerIds deathEvents ↔
      ∀ id, id ∈ combatStates.map PlayerCombatState.playerId ∨
          id ∈ inventorySummaries.map InventorySummary.playerId →
        id ∈ activePlayerIds ∨ NamedByDeath deathEvents id := by
  have hOpen := isConnected_openTick s tick tickInterval activePlayerIds combatStates
    inventorySummaries
  have hTick := isConnected_resolveTick s tick tickInterval activePlayerIds combatStates
    deathEvents inventorySummaries
  constructor
  · intro hExact id hMentioned
    have hConnected := (hTick id).1 ((hOpen id).mpr (Or.inr hMentioned))
    obtain ⟨record, hFind, hFlag⟩ := isConnected_iff.mp hConnected
    exact (hExact id record hFind).2 hFlag
  · intro hMentioned id record hFind
    have hFlag : (s.resolveTick tick tickInterval activePlayerIds combatStates deathEvents
        inventorySummaries).2.isConnected id = record.connected := by
      simp [isConnected, hFind]
    rw [← hFlag]
    refine ⟨fun hActive => (hTick id).1 ((hOpen id).mpr (Or.inl hActive)), fun hConnected => ?_⟩
    rcases (hTick id).2 hConnected with hOpened | hNamed
    · rcases (hOpen id).mp hOpened with hActive | hOther
      · exact Or.inl hActive
      · exact hMentioned id hOther
    · exact Or.inr hNamed

/-- A player who joined and left: the inventory snapshot still lists it, and the next
tick marks it connected. -/
theorem connected_not_exact :
    ¬ ∀ (config : MatchLifecycleConfig) (s : MatchLifecycleSimulation), Reachable config s →
      ∀ (tick : Nat) (tickInterval : Int) (activePlayerIds : List Nat)
        (combatStates : List PlayerCombatState) (deathEvents : List DeathResolution)
        (inventorySummaries : List InventorySummary),
        ConnectedExactly (s.resolveTick tick tickInterval activePlayerIds combatStates deathEvents
          inventorySummaries).2 activePlayerIds deathEvents := by
  intro hAll
  let departed := ((create {}).ensurePlayer 1).removePlayer 1
  have hReach : Reachable {} departed :=
    (Relation.ReflTransGen.single (.ensurePlayer _ 1)).tail (.removePlayer _ 1)
  let record : PlayerRecord :=
    { playerId := 1, respawnsRemaining := 2, connected := true, participated := true }
  have hFind : (departed.resolveTick 1 33333333 [] [] [] [{ playerId := 1 }]).2.playersById.find 1 =
      some record := by decide
  obtain hActive | ⟨death, hDeath, _⟩ :=
    (hAll {} departed hReach 1 33333333 [] [] [] [{ playerId := 1 }] 1 record hFind).2 rfl
  · cases hActive
  · cases hDeath

end DevyFps.Server.MatchLifecycleSimulation
