import DevyFps.Server.CombatSimulation

/-! Life and death in the combat simulation: which operations can end a life, which
can start one, and how a tick reports the lives it ended. -/

namespace DevyFps.Server.CombatSimulation

open Foundations

variable {F : Type} [SingleFloat F]

/-- Every combat state is stored under the id it carries. -/
def KeyedById (s : CombatSimulation F) : Prop :=
  ∀ playerId state, s.playersById.find playerId = some state → state.playerId = playerId

/-- The player has a combat state and lives. -/
def aliveIn (s : CombatSimulation F) (playerId : Nat) : Bool :=
  (s.playersById.find playerId).any (·.alive)

/-- What a stretch of a tick does to the players: it takes lives, reports each of
them as a death, and neither creates nor revives anyone. -/
structure Harms (before after : CombatSimulation F) (deaths : List DeathResolution) : Prop where
  config : after.config = before.config
  weapons : after.weaponsById = before.weaponsById
  present : ∀ p, (after.playersById.find p).isSome = (before.playersById.find p).isSome
  keyed : before.KeyedById → after.KeyedById
  dead_stays : ∀ p, after.aliveIn p = true → before.aliveIn p = true
  death_iff : ∀ p, (∃ death ∈ deaths, death.victimId = p) ↔
    before.aliveIn p = true ∧ after.aliveIn p = false
  lastShot : after.lastShotSeqByPlayer = before.lastShotSeqByPlayer

/-- What touches no player harms nobody. -/
theorem Harms.of_players_eq {before after : CombatSimulation F}
    (hConfig : after.config = before.config) (hWeapons : after.weaponsById = before.weaponsById)
    (hPlayers : after.playersById = before.playersById)
    (hShots : after.lastShotSeqByPlayer = before.lastShotSeqByPlayer) : Harms before after [] where
  config := hConfig
  weapons := hWeapons
  present p := by rw [hPlayers]
  keyed h := by simpa only [KeyedById, hPlayers] using h
  dead_stays p h := by simpa only [aliveIn, hPlayers] using h
  death_iff p := by simp [aliveIn, hPlayers]
  lastShot := hShots

/-- The deaths of two stretches of a tick, one after the other. -/
theorem Harms.trans {a b c : CombatSimulation F} {first second : List DeathResolution}
    (h : Harms a b first) (h' : Harms b c second) : Harms a c (first ++ second) where
  config := h'.config.trans h.config
  weapons := h'.weapons.trans h.weapons
  present p := (h'.present p).trans (h.present p)
  keyed hKeyed := h'.keyed (h.keyed hKeyed)
  dead_stays p hAlive := h.dead_stays p (h'.dead_stays p hAlive)
  death_iff p := by
    have hFirst := h.death_iff p
    have hSecond := h'.death_iff p
    have hMid := h.dead_stays p
    have hLast := h'.dead_stays p
    simp only [List.mem_append, or_and_right, exists_or, hFirst, hSecond]
    cases hb : b.aliveIn p with
    | true => simp [hMid hb]
    | false =>
        have hc : c.aliveIn p = false := by
          cases hcAlive : c.aliveIn p with
          | true => rw [hLast hcAlive] at hb; cases hb
          | false => rfl
        simp [hc]
  lastShot := h'.lastShot.trans h.lastShot

/-- Storing a changed state of an existing player that does not revive it. -/
theorem Harms.set {s : CombatSimulation F} {victimId : Nat} {old new : PlayerCombatState}
    {deaths : List DeathResolution} (hFind : s.playersById.find victimId = some old)
    (hId : new.playerId = old.playerId) (hAlive : new.alive = true → old.alive = true)
    (hDeaths : ∀ p, (∃ death ∈ deaths, death.victimId = p) ↔
      p = victimId ∧ old.alive = true ∧ new.alive = false) :
    Harms s { s with playersById := s.playersById.set victimId new } deaths where
  config := rfl
  weapons := rfl
  present p := by
    rw [UnorderedMap.find_set]
    split
    · rename_i hp
      rw [hp, hFind]
      rfl
    · rfl
  keyed hKeyed := by
    intro p state hState
    rw [UnorderedMap.find_set] at hState
    split at hState
    · rename_i hp
      injection hState with hState
      rw [← hState, hId, hp]
      exact hKeyed victimId old hFind
    · exact hKeyed p state hState
  dead_stays p h := by
    unfold aliveIn at h ⊢
    rw [UnorderedMap.find_set] at h
    split at h
    · rename_i hp
      rw [hp, hFind]
      exact hAlive h
    · exact h
  death_iff p := by
    rw [hDeaths]
    unfold aliveIn
    rw [UnorderedMap.find_set]
    by_cases hp : p = victimId
    · simp [hp, hFind]
    · simp [hp]
  lastShot := rfl

/-- One hit: the victim of the one reported death lived before and does not after. -/
theorem harms_applyDamage (s : CombatSimulation F) (tick : Nat) (hit : PendingProjectileHit)
    (out : CombatTickResult) :
    ∃ deaths, (s.applyDamage tick hit out).1.deathEvents = out.deathEvents ++ deaths ∧
      Harms s (s.applyDamage tick hit out).2 deaths := by
  unfold applyDamage
  cases hFind : s.playersById.find hit.victimId with
  | none => exact ⟨[], by simp, .of_players_eq rfl rfl rfl rfl⟩
  | some victim =>
      simp only
      split
      · exact ⟨[], by simp, .of_players_eq rfl rfl rfl rfl⟩
      · rename_i hHurt
        have hVictim : victim.alive = true := by
          simp only [Bool.or_eq_true, Bool.not_eq_true', not_or] at hHurt
          simpa using hHurt.1
        refine ⟨_, rfl, .set hFind rfl (fun _ => hVictim) fun p => ?_⟩
        by_cases hLethal : max 0 (victim.health - max 0 hit.damage) = 0
        · simp [hLethal, hVictim, eq_comm]
        · simp [hLethal]

/-- Many hits, one after the other. -/
theorem harms_applyDamages (hits : List PendingProjectileHit) (tick : Nat)
    (acc : CombatTickResult × CombatSimulation F) :
    ∃ deaths, (hits.foldl (fun acc hit => acc.2.applyDamage tick hit acc.1) acc).1.deathEvents =
        acc.1.deathEvents ++ deaths ∧
      Harms acc.2 (hits.foldl (fun acc hit => acc.2.applyDamage tick hit acc.1) acc).2 deaths := by
  induction hits generalizing acc with
  | nil => exact ⟨[], by simp, .of_players_eq rfl rfl rfl rfl⟩
  | cons hit rest ih =>
      obtain ⟨first, hEvents, hFirst⟩ := harms_applyDamage acc.2 tick hit acc.1
      obtain ⟨later, hLater, hRest⟩ := ih (acc.2.applyDamage tick hit acc.1)
      refine ⟨first ++ later, ?_, hFirst.trans hRest⟩
      rw [List.foldl_cons, hLater, hEvents, List.append_assoc]

/-- To record a shot harms nobody. -/
theorem harms_recordShot (s : CombatSimulation F) (tick : Nat) (tickInterval : Int)
    (command : FireCommand F) (weapon : WeaponRuntime F) :
    Harms s (s.recordShot tick tickInterval command weapon) [] := by
  cases hFind : s.playersById.find command.attackerId with
  | none =>
      refine .of_players_eq rfl rfl ?_ rfl
      simp [recordShot, UnorderedMap.modify, hFind]
  | some attacker =>
      have hRecord : (s.recordShot tick tickInterval command weapon).playersById =
          s.playersById.set command.attackerId
            { attacker with lastShotSeq := max attacker.lastShotSeq command.shotSeq } := by
        simp [recordShot, UnorderedMap.modify, hFind]
      let shot := { attacker with lastShotSeq := max attacker.lastShotSeq command.shotSeq }
      have hSet : Harms s { s with playersById := s.playersById.set command.attackerId shot } [] :=
        .set hFind rfl id (by simp [shot])
      exact hSet.trans (.of_players_eq rfl rfl hRecord rfl)

/-- A shot kills one player at most. -/
theorem harms_resolveFire (tick : Nat) (tickInterval : Int)
    (acc : CombatTickResult × CombatSimulation F) (fire : QueuedFire F) :
    ∃ deaths, (resolveFire tick tickInterval acc fire).1.deathEvents =
        acc.1.deathEvents ++ deaths ∧
      Harms acc.2 (resolveFire tick tickInterval acc fire).2 deaths := by
  obtain ⟨out, s⟩ := acc
  have hStay : ∃ deaths, out.deathEvents = out.deathEvents ++ deaths ∧ Harms s s deaths :=
    ⟨[], by simp, .of_players_eq rfl rfl rfl rfl⟩
  unfold resolveFire
  simp only
  split
  · exact hStay
  · cases fire.weapon with
    | none => exact hStay
    | some weapon =>
        simp only
        split
        · exact hStay
        · have hShot := harms_recordShot s tick tickInterval fire.command weapon
          cases (s.recordShot tick tickInterval fire.command weapon).raycastVictim fire with
          | none => exact ⟨[], by simp, hShot⟩
          | some hit =>
              cases weapon.weaponClass with
              | hitscan =>
                  obtain ⟨deaths, hEvents, hHarms⟩ := harms_applyDamage
                    (s.recordShot tick tickInterval fire.command weapon) tick
                    { resolveTick := tick, attackerId := fire.command.attackerId,
                      victimId := hit.victimId, shotSeq := fire.command.shotSeq,
                      weaponId := weapon.id, damage := weapon.damage } out
                  exact ⟨deaths, hEvents, by simpa using hShot.trans hHarms⟩
              | projectile =>
                  refine ⟨[], by simp, ?_⟩
                  exact hShot.trans (.of_players_eq rfl rfl rfl rfl)

/-- The shots of a tick; by induction on them. -/
theorem harms_resolveFires (fires : List (QueuedFire F)) (tick : Nat) (tickInterval : Int)
    (acc : CombatTickResult × CombatSimulation F) :
    ∃ deaths, (fires.foldl (resolveFire tick tickInterval) acc).1.deathEvents =
        acc.1.deathEvents ++ deaths ∧
      Harms acc.2 (fires.foldl (resolveFire tick tickInterval) acc).2 deaths := by
  induction fires generalizing acc with
  | nil => exact ⟨[], by simp, .of_players_eq rfl rfl rfl rfl⟩
  | cons fire rest ih =>
      obtain ⟨first, hEvents, hFirst⟩ := harms_resolveFire tick tickInterval acc fire
      obtain ⟨later, hLater, hRest⟩ := ih (resolveFire tick tickInterval acc fire)
      refine ⟨first ++ later, ?_, hFirst.trans hRest⟩
      rw [List.foldl_cons, hLater, hEvents, List.append_assoc]

/-- A whole tick: its death events are exactly the lives it ended. -/
theorem harms_resolveTick (s : CombatSimulation F) (tick : Nat) (tickInterval : Int) :
    Harms s (s.resolveTick tick tickInterval).2
      (s.resolveTick tick tickInterval).1.deathEvents := by
  let remaining := s.pendingProjectiles.filter fun pending => !(pending.resolveTick ≤ tick)
  have hLanded : ∃ deaths, (s.resolveProjectiles tick {}).1.deathEvents = [] ++ deaths ∧
      Harms { s with pendingProjectiles := remaining } (s.resolveProjectiles tick {}).2 deaths :=
    harms_applyDamages _ tick _
  obtain ⟨landed, hLandedEvents, hLandedHarms⟩ := hLanded
  obtain ⟨fired, hFiredEvents, hFiredHarms⟩ :=
    harms_resolveFires (s.resolveProjectiles tick {}).2.drainFireCommands.1 tick tickInterval
      ((s.resolveProjectiles tick {}).1, (s.resolveProjectiles tick {}).2.drainFireCommands.2)
  have hTick : s.resolveTick tick tickInterval =
      (s.resolveProjectiles tick {}).2.drainFireCommands.1.foldl (resolveFire tick tickInterval)
        ((s.resolveProjectiles tick {}).1, (s.resolveProjectiles tick {}).2.drainFireCommands.2) :=
    rfl
  rw [hTick, hFiredEvents, hLandedEvents, List.nil_append]
  have hSplit : Harms s { s with pendingProjectiles := remaining } [] :=
    .of_players_eq rfl rfl rfl rfl
  have hDrained : Harms (s.resolveProjectiles tick {}).2
      (s.resolveProjectiles tick {}).2.drainFireCommands.2 [] := .of_players_eq rfl rfl rfl rfl
  have hAll := ((hSplit.trans hLandedHarms).trans hDrained).trans hFiredHarms
  simpa using hAll

/-! The states carry the ids under which they are stored. -/

theorem find_ensurePlayer (s : CombatSimulation F) (playerId id : Nat) :
    (s.ensurePlayer playerId).playersById.find id =
      if id = playerId then some ((s.playersById.find playerId).getD (s.newPlayer playerId))
      else s.playersById.find id :=
  UnorderedMap.find_tryEmplace _ _ _ _

/-- A new player is under its own key. -/
theorem KeyedById.ensurePlayer {s : CombatSimulation F} (h : s.KeyedById) (playerId : Nat) :
    (s.ensurePlayer playerId).KeyedById := by
  intro id state hFind
  rw [find_ensurePlayer] at hFind
  split at hFind
  · rename_i hId
    injection hFind with hState
    rw [← hState, hId]
    cases hOld : s.playersById.find playerId with
    | some old => exact h playerId old hOld
    | none => rfl
  · exact h id state hFind

theorem KeyedById.removePlayer {s : CombatSimulation F} (h : s.KeyedById) (playerId : Nat) :
    (s.removePlayer playerId).KeyedById := by
  intro id state hFind
  change (s.playersById.erase playerId).find id = some state at hFind
  rw [UnorderedMap.find_erase] at hFind
  split at hFind
  · cases hFind
  · exact h id state hFind

theorem KeyedById.respawnPlayer {s : CombatSimulation F} (h : s.KeyedById) (playerId : Nat) :
    (s.respawnPlayer playerId).KeyedById := by
  have hEnsured := h.ensurePlayer playerId
  intro id state hFind
  unfold CombatSimulation.respawnPlayer at hFind
  dsimp only at hFind
  rw [UnorderedMap.find_modify] at hFind
  split at hFind
  · rename_i hId
    obtain ⟨old, hOld, rfl⟩ := Option.map_eq_some_iff.mp hFind
    rw [hId]
    exact hEnsured playerId old hOld
  · exact hEnsured id state hFind

/-- Positions keep every player under its own key. -/
theorem KeyedById.setPlayerPositions {s : CombatSimulation F} (h : s.KeyedById)
    (states : List (PlayerMotionState F)) : (s.setPlayerPositions states).KeyedById := by
  induction states generalizing s with
  | nil => exact h
  | cons state rest ih =>
      apply ih
      unfold setPlayerPosition
      dsimp only
      split
      · exact h.ensurePlayer state.playerId
      · exact h.ensurePlayer state.playerId

/-- The snapshot lists exactly the stored states. -/
theorem mem_snapshot {s : CombatSimulation F} {state : PlayerCombatState} :
    state ∈ s.snapshot ↔ ∃ playerId, s.playersById.find playerId = some state := by
  rw [snapshot, mem_sortBy, UnorderedMap.mem_values_iff]

end DevyFps.Server.CombatSimulation
