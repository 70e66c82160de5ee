import DevyFps.Server.CombatRuns

/-! Health and death. What a tick reports is a run of strikes, each of which takes health
from a living player; a death is a strike that left nothing. -/

namespace DevyFps.Server

open Foundations

/-- The health of the known players and whether they live. -/
abbrev Vitals := Nat → Option (Int × Bool)

/-- One damage event on the health of the players. -/
inductive Strike : Vitals → DamageResolution → Vitals → Prop where
  | strike (vitals : Vitals) (event : DamageResolution) (health : Int)
      (hAlive : vitals event.victimId = some (health, true)) (hDamage : 0 < event.damage)
      (hHealth : event.victimHealth = max 0 (health - event.damage))
      (hLethal : event.lethal = decide (event.victimHealth = 0)) :
      Strike vitals event
        (Function.update vitals event.victimId (some (event.victimHealth, !event.lethal)))

namespace Vitals

/-- One for a living player, none for a dead or an unknown one. -/
def lives (vitals : Vitals) (playerId : Nat) : Nat :=
  if (vitals playerId).any Prod.snd then 1 else 0

/-- Nobody is below zero or above the given health, and the living are those above zero. -/
def Sound (vitals : Vitals) (startingHealth : Int) : Prop :=
  ∀ playerId health alive, vitals playerId = some (health, alive) →
    0 ≤ health ∧ health ≤ startingHealth ∧ (alive = true ↔ 0 < health)

end Vitals

namespace Strike

variable {vitals vitals' : Vitals} {event : DamageResolution} {startingHealth : Int}

/-- A strike leaves health and life in agreement. -/
theorem sound (hStrike : Strike vitals event vitals') (h : vitals.Sound startingHealth) :
    vitals'.Sound startingHealth := by
  cases hStrike with
  | strike health hAlive hDamage hHealth hLethal =>
      intro playerId newHealth alive hFind
      by_cases hVictim : playerId = event.victimId
      · rw [hVictim, Function.update_self] at hFind
        injection hFind with hFind
        injection hFind with hNew hLife
        obtain ⟨hNonneg, hBound, -⟩ := h event.victimId health true hAlive
        rw [← hNew, ← hLife, hLethal]
        refine ⟨by omega, by omega, ?_⟩
        rw [Bool.not_eq_true', decide_eq_false_iff_not]
        omega
      · rw [Function.update_of_ne hVictim] at hFind
        exact h playerId newHealth alive hFind

/-- A death ends a life. -/
theorem lives_le (hStrike : Strike vitals event vitals') (playerId : Nat) :
    (if event.lethal ∧ event.victimId = playerId then 1 else 0) + vitals'.lives playerId ≤
      vitals.lives playerId := by
  cases hStrike with
  | strike health hAlive hDamage hHealth hLethal =>
      unfold Vitals.lives
      by_cases hVictim : playerId = event.victimId
      · rw [hVictim, Function.update_self, hAlive]
        cases event.lethal <;> simp
      · rw [Function.update_of_ne hVictim, if_neg (fun h => hVictim h.2.symm), Nat.zero_add]

end Strike

/-- So do all strikes of a tick. -/
theorem sound_of_strikes {vitals vitals' : Vitals} {events : List DamageResolution}
    {startingHealth : Int} (run : Run Strike vitals events vitals')
    (h : vitals.Sound startingHealth) : vitals'.Sound startingHealth :=
  run.invariant (fun _ _ _ hBefore hStrike => hStrike.sound hBefore) h

/-- How many deaths of a player a list of them holds. -/
def deathCount (playerId : Nat) (deaths : List DeathResolution) : Nat :=
  (deaths.filter fun death => death.victimId = playerId).length

/-- Deaths add up over two lists. -/
theorem deathCount_append (playerId : Nat) (first second : List DeathResolution) :
    deathCount playerId (first ++ second) =
      deathCount playerId first + deathCount playerId second := by
  unfold deathCount
  rw [List.filter_append, List.length_append]

/-- A strike counts as a death of its victim exactly if it is lethal. -/
theorem deathCount_strike (playerId : Nat) (event : DamageResolution) :
    deathCount playerId (CombatSimulation.deathsOf [event]) =
      if event.lethal ∧ event.victimId = playerId then 1 else 0 := by
  unfold deathCount CombatSimulation.deathsOf
  cases hLethal : event.lethal with
  | false => simp [hLethal]
  | true =>
      by_cases hVictim : event.victimId = playerId
      · simp [hLethal, CombatSimulation.deathOf, hVictim]
      · simp [hLethal, CombatSimulation.deathOf, hVictim]

/-- The deaths of a run of strikes end lives, at most one for each player. -/
theorem deaths_le_lives {vitals vitals' : Vitals} {events : List DamageResolution}
    (run : Run Strike vitals events vitals') (playerId : Nat) :
    deathCount playerId (CombatSimulation.deathsOf events) + vitals'.lives playerId ≤
      vitals.lives playerId := by
  induction run with
  | nil => exact (Nat.zero_add _).le
  | snoc prior last ih =>
      have hLast := last.lives_le playerId
      rw [CombatSimulation.deathsOf_append, deathCount_append, deathCount_strike]
      omega

namespace CombatSimulation

variable {F : Type} [SingleFloat F]

def vitals (s : CombatSimulation F) : Vitals := fun playerId =>
  (s.playersById.find playerId).map fun state => (state.health, state.alive)

/-- The damage of a hit is a strike. -/
theorem strike_suffer {s : CombatSimulation F} {tick : Nat} {hit : PendingProjectileHit}
    {event : DamageResolution} (h : s.damageOf tick hit = some event) :
    Strike s.vitals event (s.suffer (some event)).vitals ∧ event.tick = tick := by
  unfold damageOf at h
  cases hFind : s.playersById.find hit.victimId with
  | none =>
      rw [hFind] at h
      cases h
  | some victim =>
      rw [hFind] at h
      dsimp only at h
      split at h
      · cases h
      · rename_i hHurt
        rw [Bool.or_eq_true, not_or, Bool.not_eq_true', Bool.not_eq_false, decide_eq_true_iff,
          not_le] at hHurt
        obtain ⟨hAlive, hDamage⟩ := hHurt
        injection h with h
        have hBefore : s.vitals event.victimId = some (victim.health, true) := by
          rw [← h]
          unfold vitals
          rw [hFind, ← hAlive]
          rfl
        have hAfter : (s.suffer (some event)).vitals = Function.update s.vitals event.victimId
            (some (event.victimHealth, !event.lethal)) := by
          funext playerId
          unfold suffer vitals
          dsimp only
          rw [UnorderedMap.find_modify]
          by_cases hVictim : playerId = event.victimId
          · rw [if_pos hVictim, hVictim, Function.update_self]
            have hSame : event.victimId = hit.victimId := by rw [← h]
            rw [hSame, hFind]
            rfl
          · rw [if_neg hVictim, Function.update_of_ne hVictim]
        rw [hAfter]
        refine ⟨.strike _ _ victim.health hBefore ?_ ?_ ?_, ?_⟩
        · rw [← h]
          exact hDamage
        · rw [← h]
        · rw [← h]
          exact beq_eq_decide _ _
        · rw [← h]

/-- A stretch of a tick that reports its strikes. -/
def Strikes (tick : Nat) (before after : CombatTickResult × CombatSimulation F) : Prop :=
  ∃ events, after.1 = CombatTickResult.report before.1 events ∧
    Run Strike before.2.vitals events after.2.vitals ∧ ∀ event ∈ events, event.tick = tick

/-- What changes no vitals strikes nobody. -/
theorem Strikes.of_vitals {tick : Nat} {out : CombatTickResult} {s t : CombatSimulation F}
    (h : t.vitals = s.vitals) : Strikes tick (out, s) (out, t) := by
  refine ⟨[], (report_nil out).symm, ?_, fun event hEvent => nomatch hEvent⟩
  rw [h]
  exact .nil _

/-- The strikes of two stages, one after the other. -/
theorem Strikes.trans {tick : Nat} {a b c : CombatTickResult × CombatSimulation F}
    (h : Strikes tick a b) (h' : Strikes tick b c) : Strikes tick a c := by
  obtain ⟨first, hFirst, hRun, hTick⟩ := h
  obtain ⟨second, hSecond, hRun', hTick'⟩ := h'
  refine ⟨first ++ second, ?_, hRun.trans hRun', ?_⟩
  · rw [hSecond, hFirst, report_report]
  · intro event hEvent
    rcases List.mem_append.mp hEvent with hOld | hNew
    · exact hTick event hOld
    · exact hTick' event hNew

/-- One hit is one strike, or none if its victim is not there any more. -/
theorem strikes_applyDamage (s : CombatSimulation F) (tick : Nat) (hit : PendingProjectileHit)
    (out : CombatTickResult) : Strikes tick (out, s) (s.applyDamage tick hit out) := by
  rw [applyDamage_eq]
  cases hEvent : s.damageOf tick hit with
  | none => exact ⟨[], rfl, .nil _, fun event h => nomatch h⟩
  | some event =>
      obtain ⟨hStrike, hTick⟩ := strike_suffer hEvent
      refine ⟨[event], rfl, Run.single hStrike, fun other hOther => ?_⟩
      rw [List.mem_singleton.mp hOther]
      exact hTick

/-- A shot that is only recorded harms nobody. -/
theorem vitals_recordShot (s : CombatSimulation F) (tick : Nat) (tickInterval : Int)
    (command : FireCommand F) (weapon : WeaponRuntime F) :
    (s.recordShot tick tickInterval command weapon).vitals = s.vitals := by
  funext playerId
  unfold vitals recordShot
  dsimp only
  rw [UnorderedMap.find_modify]
  split
  · rename_i hSame
    rw [hSame]
    cases s.playersById.find command.attackerId with
    | none => rfl
    | some attacker => rfl
  · rfl

/-- A shot strikes one player at most. -/
theorem strikes_resolveFire (tick : Nat) (tickInterval : Int)
    (acc : CombatTickResult × CombatSimulation F) (fire : QueuedFire F) :
    Strikes tick acc (resolveFire tick tickInterval acc fire) := by
  obtain ⟨out, s⟩ := acc
  rcases resolveFire_cases tick tickInterval out s fire with hIdle | ⟨-, weapon, fired, hFired, h⟩
  · rw [hIdle]
    exact .of_vitals rfl
  · have hShot : Strikes tick (out, s) (out, fired) := by
      rw [hFired]
      exact .of_vitals (s.vitals_recordShot tick tickInterval fire.command weapon)
    rcases h with hMiss | ⟨hit, -, -, hNow | hLater⟩
    · rw [hMiss]
      exact hShot
    · rw [hNow]
      exact hShot.trans (fired.strikes_applyDamage tick hit out)
    · rw [hLater]
      exact hShot.trans (.of_vitals rfl)

/-- A loop strikes as its rounds do. -/
theorem strikes_foldl {α : Type} {tick : Nat}
    {f : CombatTickResult × CombatSimulation F → α → CombatTickResult × CombatSimulation F}
    (h : ∀ acc a, Strikes tick acc (f acc a)) (l : List α)
    (acc : CombatTickResult × CombatSimulation F) : Strikes tick acc (l.foldl f acc) := by
  induction l generalizing acc with
  | nil => exact .of_vitals rfl
  | cons head rest ih => exact (h acc head).trans (ih (f acc head))

/-- The damage of a tick is a run of strikes, and its deaths are the lethal ones. -/
theorem strikes_resolveTick (s : CombatSimulation F) (tick : Nat) (tickInterval : Int) :
    Run Strike s.vitals (s.resolveTick tick tickInterval).1.damageEvents
        (s.resolveTick tick tickInterval).2.vitals ∧
      (s.resolveTick tick tickInterval).1.deathEvents =
        deathsOf (s.resolveTick tick tickInterval).1.damageEvents ∧
      ∀ event ∈ (s.resolveTick tick tickInterval).1.damageEvents, event.tick = tick := by
  have hStart : Strikes tick (({} : CombatTickResult), s)
      (({} : CombatTickResult), { s with pendingProjectiles := s.remaining tick }) :=
    .of_vitals rfl
  have hLanded : Strikes tick
      (({} : CombatTickResult), { s with pendingProjectiles := s.remaining tick })
      (s.resolveProjectiles tick {}) :=
    strikes_foldl (fun acc hit => acc.2.strikes_applyDamage tick hit acc.1) _ _
  have hDrained : Strikes tick (s.resolveProjectiles tick {})
      ((s.resolveProjectiles tick {}).1, (s.resolveProjectiles tick {}).2.drainFireCommands.2) :=
    .of_vitals rfl
  have hFired : Strikes tick
      ((s.resolveProjectiles tick {}).1, (s.resolveProjectiles tick {}).2.drainFireCommands.2)
      (s.resolveTick tick tickInterval) :=
    strikes_foldl (strikes_resolveFire tick tickInterval)
      (s.resolveProjectiles tick {}).2.drainFireCommands.1 _
  obtain ⟨events, hEvents, hRun, hTick⟩ :=
    ((hStart.trans hLanded).trans hDrained).trans hFired
  have hDamage : (s.resolveTick tick tickInterval).1.damageEvents = events := by
    rw [hEvents]
    rfl
  have hDeaths : (s.resolveTick tick tickInterval).1.deathEvents = deathsOf events := by
    rw [hEvents]
    rfl
  rw [hDamage, hDeaths]
  exact ⟨hRun, rfl, hTick⟩

/-- A new player has full health, and a known one keeps its own. -/
theorem vitals_ensurePlayer (s : CombatSimulation F) (playerId : Nat) :
    (s.ensurePlayer playerId).vitals = Function.update s.vitals playerId
      (some ((s.vitals playerId).getD (s.config.startingHealth, true))) := by
  funext id
  unfold vitals ensurePlayer
  dsimp only
  rw [UnorderedMap.find_tryEmplace]
  by_cases hSame : id = playerId
  · rw [if_pos hSame, hSame, Function.update_self]
    cases s.playersById.find playerId with
    | none => rfl
    | some state => rfl
  · rw [if_neg hSame, Function.update_of_ne hSame]

/-- A removed player has no vitals. -/
theorem vitals_removePlayer (s : CombatSimulation F) (playerId : Nat) :
    (s.removePlayer playerId).vitals = Function.update s.vitals playerId none := by
  funext id
  unfold vitals removePlayer
  dsimp only
  rw [UnorderedMap.find_erase]
  by_cases hSame : id = playerId
  · rw [if_pos hSame, hSame, Function.update_self]
    rfl
  · rw [if_neg hSame, Function.update_of_ne hSame]

/-- A respawned player has full health, whatever it had. -/
theorem vitals_respawnPlayer (s : CombatSimulation F) (playerId : Nat) :
    (s.respawnPlayer playerId).vitals =
      Function.update s.vitals playerId (some (s.config.startingHealth, true)) := by
  funext id
  unfold vitals respawnPlayer ensurePlayer
  dsimp only
  rw [UnorderedMap.find_modify, UnorderedMap.find_tryEmplace]
  by_cases hSame : id = playerId
  · rw [if_pos hSame, hSame, Function.update_self, if_pos rfl]
    rfl
  · rw [if_neg hSame, Function.update_of_ne hSame, UnorderedMap.find_tryEmplace, if_neg hSame]

theorem vitals_setPlayerPosition (s : CombatSimulation F) (playerId : Nat) (x y : F) :
    (s.setPlayerPosition playerId x y).vitals = (s.ensurePlayer playerId).vitals := by
  unfold setPlayerPosition
  dsimp only
  split
  · rfl
  · rfl

/-- An accepted shot creates its player, a refused one changes nothing. -/
theorem enqueueFire_cases (s : CombatSimulation F) (fire : FireCommand F) :
    (s.enqueueFire fire).1 ≠ .accepted ∧ (s.enqueueFire fire).2 = s ∨
      (s.enqueueFire fire).1 = .accepted ∧
        (s.enqueueFire fire).2 =
          ({ s with
              fireQueueByPlayer := s.fireQueueByPlayer.push fire.attackerId
                ({ fire with weaponId := Bytes.lowercase fire.weaponId })
              lastShotSeqByPlayer := s.lastShotSeqByPlayer.set fire.attackerId
                fire.shotSeq } : CombatSimulation F).ensurePlayer fire.attackerId := by
  unfold enqueueFire
  dsimp only
  split
  · exact Or.inl ⟨by simp, rfl⟩
  · split
    · exact Or.inl ⟨by simp, rfl⟩
    · split
      · exact Or.inl ⟨by simp, rfl⟩
      · exact Or.inr ⟨rfl, rfl⟩

/-- An accepted shot makes its attacker known. -/
theorem vitals_enqueueFire {s : CombatSimulation F} {fire : FireCommand F}
    (h : (s.enqueueFire fire).1 = .accepted) :
    (s.enqueueFire fire).2.vitals = (s.ensurePlayer fire.attackerId).vitals := by
  rcases s.enqueueFire_cases fire with ⟨hRefused, -⟩ | ⟨-, hState⟩
  · exact absurd h hRefused
  · rw [hState, vitals_ensurePlayer, vitals_ensurePlayer]
    rfl

/-- The starting health is positive, and the health of every player is sound. -/
def Healthy (s : CombatSimulation F) : Prop :=
  0 < s.config.startingHealth ∧ s.vitals.Sound s.config.startingHealth

/-- A player that starts at full health. -/
theorem sound_update {vitals : Vitals} {startingHealth : Int} (hPos : 0 < startingHealth)
    (h : vitals.Sound startingHealth) (playerId : Nat) :
    Vitals.Sound (Function.update vitals playerId (some (startingHealth, true)))
      startingHealth := by
  intro id health alive hFind
  by_cases hSame : id = playerId
  · rw [hSame, Function.update_self] at hFind
    injection hFind with hFind
    injection hFind with hHealth hAlive
    rw [← hHealth, ← hAlive]
    exact ⟨hPos.le, le_refl _, iff_of_true rfl hPos⟩
  · rw [Function.update_of_ne hSame] at hFind
    exact h id health alive hFind

theorem Healthy.ensurePlayer {s : CombatSimulation F} (h : s.Healthy) (playerId : Nat) :
    (s.ensurePlayer playerId).Healthy := by
  refine ⟨h.1, ?_⟩
  rw [vitals_ensurePlayer]
  cases hFind : s.vitals playerId with
  | none => exact sound_update h.1 h.2 playerId
  | some known =>
      rw [Option.getD_some, ← hFind, Function.update_eq_self]
      exact h.2

theorem config_setPlayerPosition (s : CombatSimulation F) (playerId : Nat) (x y : F) :
    (s.setPlayerPosition playerId x y).config = s.config := by
  unfold setPlayerPosition
  dsimp only
  split
  · rfl
  · rfl

/-- Every call keeps health and life of all players in agreement. -/
theorem Healthy.step {s t : CombatSimulation F} {event : CombatEvent} (h : s.Healthy)
    (hStep : CombatCall s event t) : t.Healthy := by
  cases hStep with
  | reset => exact ⟨h.1, fun playerId health alive hFind => nomatch hFind⟩
  | ensurePlayer playerId => exact h.ensurePlayer playerId
  | removePlayer playerId =>
      refine ⟨h.1, ?_⟩
      rw [vitals_removePlayer]
      intro id health alive hFind
      by_cases hSame : id = playerId
      · rw [hSame, Function.update_self] at hFind
        cases hFind
      · rw [Function.update_of_ne hSame] at hFind
        exact h.2 id health alive hFind
  | respawnPlayer playerId =>
      refine ⟨h.1, ?_⟩
      rw [vitals_respawnPlayer]
      exact sound_update h.1 h.2 playerId
  | setPlayerPosition playerId x y =>
      unfold Healthy
      rw [vitals_setPlayerPosition, config_setPlayerPosition]
      exact h.ensurePlayer playerId
  | enqueueFire fire hAccepted =>
      unfold Healthy
      rw [vitals_enqueueFire hAccepted]
      rcases s.enqueueFire_cases fire with ⟨hRefused, -⟩ | ⟨-, hState⟩
      · exact absurd hAccepted hRefused
      · rw [hState]
        exact h.ensurePlayer fire.attackerId
  | refuseFire fire hRefused =>
      rcases s.enqueueFire_cases fire with ⟨-, hState⟩ | ⟨hAccepted, -⟩
      · rw [hState]
        exact h
      · exact absurd hAccepted hRefused
  | resolveTick tick tickInterval =>
      unfold Healthy
      rw [(s.harms_resolveTick tick tickInterval).config]
      exact ⟨h.1, sound_of_strikes (s.strikes_resolveTick tick tickInterval).1 h.2⟩

/-- At the start there are no players. -/
theorem healthy_create (weaponDefinitions : List (Game.WeaponDefinition F))
    (config : CombatConfig F) : (create weaponDefinitions config).Healthy := by
  refine ⟨?_, fun playerId health alive hFind => nomatch hFind⟩
  change 0 < if config.startingHealth ≤ 0 then 100 else config.startingHealth
  split
  · decide
  · omega

end CombatSimulation

namespace CombatEvent

/-- One more event in the count of the deaths of a player since its last fresh life. -/
def noteDeaths (playerId : Nat) (count : Nat) : CombatEvent → Nat
  | .reset => count
  | .ensured id inserted => if id = playerId ∧ inserted then 0 else count
  | .removed _ => count
  | .respawned id => if id = playerId then 0 else count
  | .refused => count
  | .ticked record => count + deathCount playerId record.result.deathEvents

/-- The deaths of a player since it was last inserted or respawned. -/
def deathsInLife (playerId : Nat) (trace : List CombatEvent) : Nat :=
  trace.foldl (noteDeaths playerId) 0

end CombatEvent

namespace CombatSimulation

open CombatEvent

variable {F : Type} [SingleFloat F] {s t : CombatSimulation F} {trace : List CombatEvent}

/-- Nobody has more than one life at a time. -/
theorem lives_le_one (vitals : Vitals) (playerId : Nat) : vitals.lives playerId ≤ 1 := by
  unfold Vitals.lives
  split
  · exact le_refl 1
  · exact Nat.zero_le 1

/-- The life of a player does not depend on the vitals of others. -/
theorem lives_update (vitals : Vitals) (id : Nat) (value : Option (Int × Bool)) {playerId : Nat}
    (h : id ≠ playerId) : Vitals.lives (Function.update vitals id value) playerId =
      vitals.lives playerId := by
  unfold Vitals.lives
  rw [Function.update_of_ne (Ne.symm h)]

/-- A call that may insert a player. -/
theorem deaths_ensured {playerId count : Nat} (h : count + s.vitals.lives playerId ≤ 1) (id : Nat)
    (hVitals : t.vitals = (s.ensurePlayer id).vitals) :
    noteDeaths playerId count (.ensured id (!s.knows id)) + t.vitals.lives playerId ≤ 1 := by
  rw [hVitals, vitals_ensurePlayer]
  dsimp only [noteDeaths]
  by_cases hSame : id = playerId
  · cases hKnown : s.vitals id with
    | none =>
        have hInserted : (!s.knows id) = true := by
          unfold vitals at hKnown
          rw [Option.map_eq_none_iff] at hKnown
          unfold knows
          rw [hKnown]
          rfl
        rw [if_pos ⟨hSame, hInserted⟩, Nat.zero_add]
        exact lives_le_one _ _
    | some known =>
        have hNot : ¬ (id = playerId ∧ (!s.knows id) = true) := by
          intro hInserted
          unfold vitals at hKnown
          obtain ⟨state, hState, -⟩ := Option.map_eq_some_iff.mp hKnown
          unfold knows at hInserted
          rw [hState] at hInserted
          exact absurd hInserted.2 Bool.false_ne_true
        rw [if_neg hNot, Option.getD_some, ← hKnown, Function.update_eq_self]
        exact h
  · rw [if_neg (fun hBoth => hSame hBoth.1), lives_update _ _ _ hSame]
    exact h

/-- Deaths so far and the life left make at most one. -/
theorem deaths_step {event : CombatEvent} {playerId count : Nat}
    (h : count + s.vitals.lives playerId ≤ 1) (hStep : CombatCall s event t) :
    noteDeaths playerId count event + t.vitals.lives playerId ≤ 1 := by
  cases hStep with
  | reset =>
      -- a reset ends all lives, and only an insertion starts another one
      change count + 0 ≤ 1
      omega
  | ensurePlayer id => exact deaths_ensured h id rfl
  | removePlayer id =>
      rw [vitals_removePlayer]
      change count + _ ≤ 1
      by_cases hSame : id = playerId
      · have hGone : Vitals.lives (Function.update s.vitals id none) playerId = 0 := by
          unfold Vitals.lives
          rw [hSame, Function.update_self]
          rfl
        omega
      · rw [lives_update _ _ _ hSame]
        exact h
  | respawnPlayer id =>
      rw [vitals_respawnPlayer]
      dsimp only [noteDeaths]
      by_cases hSame : id = playerId
      · rw [if_pos hSame, Nat.zero_add]
        exact lives_le_one _ _
      · rw [if_neg hSame, lives_update _ _ _ hSame]
        exact h
  | setPlayerPosition id x y => exact deaths_ensured h id (s.vitals_setPlayerPosition id x y)
  | enqueueFire fire hAccepted =>
      exact deaths_ensured h fire.attackerId (vitals_enqueueFire hAccepted)
  | refuseFire fire hRefused =>
      rcases s.enqueueFire_cases fire with ⟨-, hState⟩ | ⟨hAccepted, -⟩
      · rw [hState]
        exact h
      · exact absurd hAccepted hRefused
  | resolveTick tick tickInterval =>
      obtain ⟨hRun, hDeaths, -⟩ := s.strikes_resolveTick tick tickInterval
      have hEnded := deaths_le_lives hRun playerId
      rw [← hDeaths] at hEnded
      change count + deathCount playerId (s.resolveTick tick tickInterval).1.deathEvents + _ ≤ 1
      omega

/-- Health and life stay together within their bounds; what a tick reports are strikes on
living players, of which the lethal ones are its deaths; and nobody dies twice in one life. -/
theorem health_accounting {weaponDefinitions : List (Game.WeaponDefinition F)}
    {config : CombatConfig F} (run : Run CombatCall (create weaponDefinitions config) trace s) :
    (∀ playerId state, s.stateFor playerId = some state →
      0 ≤ state.health ∧ state.health ≤ s.config.startingHealth ∧
        (state.alive = true ↔ 0 < state.health)) ∧
      (∀ tick tickInterval,
        Run Strike s.vitals (s.resolveTick tick tickInterval).1.damageEvents
            (s.resolveTick tick tickInterval).2.vitals ∧
          (s.resolveTick tick tickInterval).1.deathEvents =
            deathsOf (s.resolveTick tick tickInterval).1.damageEvents ∧
          ∀ event ∈ (s.resolveTick tick tickInterval).1.damageEvents, event.tick = tick) ∧
      ∀ playerId, deathsInLife playerId trace ≤ 1 := by
  have hHealthy : s.Healthy := run.invariant (fun _ _ _ h hStep => h.step hStep)
    (healthy_create weaponDefinitions config)
  refine ⟨?_, fun tick tickInterval => s.strikes_resolveTick tick tickInterval, ?_⟩
  · intro playerId state hState
    apply hHealthy.2 playerId state.health state.alive
    unfold vitals
    rw [show s.playersById.find playerId = some state from hState]
    rfl
  · intro playerId
    have hCount : deathsInLife playerId trace + s.vitals.lives playerId ≤ 1 := by
      apply run.history (I := fun trace s =>
        deathsInLife playerId trace + s.vitals.lives playerId ≤ 1)
      · intro trace s event t h hStep
        unfold deathsInLife at h ⊢
        rw [List.foldl_concat]
        exact deaths_step h hStep
      · exact Nat.zero_le 1
    omega

/-- A rifle that kills at once. -/
def rifle : Game.WeaponDefinition ℚ where
  id := Bytes.ofString "rifle"
  type := Bytes.ofString "hitscan"
  damage := 120
  rateOfFire := 2
  rangeUnits := 200
  projectileSpeedUnitsPerSecond := 40

def rifleShot (attackerId : Nat) (directionX : ℚ) : FireCommand ℚ where
  attackerId := attackerId
  shotSeq := 1
  weaponId := Bytes.ofString "rifle"
  directionX := directionX

/-- Player 2 stands between players 1 and 3. -/
def placed : CombatSimulation ℚ :=
  ((create [rifle] {}).setPlayerPosition 2 100 0).setPlayerPosition 3 150 0

/-- Both shoot at player 2. -/
def crossfire : CombatSimulation ℚ :=
  ((placed.enqueueFire (rifleShot 1 1)).2.enqueueFire (rifleShot 3 (-1))).2

/-- Players 1 and 3 shoot player 2 in one tick, which dies of the first shot; after a reset it
joins again. -/
theorem health_accounting_crossfire :
    let tick := crossfire.resolveTick 1 50000000
    let joined := tick.2.reset.ensurePlayer 2
    tick.1.damageEvents.map DamageResolution.attackerId = [1] ∧
      tick.1.deathEvents.map DeathResolution.victimId = [2] ∧
      Run Strike crossfire.vitals tick.1.damageEvents tick.2.vitals ∧
      (tick.2.stateFor 2).map (fun state => (state.health, state.alive)) = some (0, false) ∧
      deathsInLife 2 [.ensured 2 true, .ensured 3 true, .ensured 1 true, .ensured 3 false,
        .ticked (crossfire.record 1 50000000)] = 1 ∧
      deathsInLife 2 [.ensured 2 true, .ensured 3 true, .ensured 1 true, .ensured 3 false,
        .ticked (crossfire.record 1 50000000), .reset, .ensured 2 true] ≤ 1 ∧
      ∀ playerId state, joined.stateFor playerId = some state → 0 ≤ state.health := by
  have hPlaced : Run CombatCall (create [rifle] {}) [.ensured 2 true, .ensured 3 true] placed :=
    ((Run.nil _).snoc (.setPlayerPosition _ 2 100 0)).snoc (.setPlayerPosition _ 3 150 0)
  have hFirst : CombatCall placed (.ensured 1 true) (placed.enqueueFire (rifleShot 1 1)).2 :=
    .enqueueFire placed (rifleShot 1 1) (by decide +kernel)
  have hKnown : (!(placed.enqueueFire (rifleShot 1 1)).2.knows 3) = false := by decide +kernel
  have hSecond : CombatCall (placed.enqueueFire (rifleShot 1 1)).2 (.ensured 3 false) crossfire := by
    rw [← hKnown]
    exact .enqueueFire _ (rifleShot 3 (-1)) (by decide +kernel)
  have hShots := (hPlaced.snoc hFirst).snoc hSecond
  have hTicked := (hShots.snoc (.resolveTick _ 1 50000000)).snoc (.reset _)
  obtain ⟨-, hStrikes, -⟩ := health_accounting hShots
  obtain ⟨hSound, -, hDeaths⟩ := health_accounting (hTicked.snoc (.ensurePlayer _ 2))
  refine ⟨by decide +kernel, by decide +kernel, (hStrikes 1 50000000).1, by decide +kernel,
    by decide +kernel, hDeaths 2, fun playerId state hState => ?_⟩
  exact (hSound playerId state hState).1

end CombatSimulation

end DevyFps.Server
