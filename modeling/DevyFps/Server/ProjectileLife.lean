import DevyFps.Server.HealthAccounts
import Mathlib.Algebra.Order.Group.Multiset

/-! The hits in flight. Each lands at most once, and it is purged when its attacker or its
victim leaves and when its victim is respawned. -/

namespace DevyFps.Server

open Foundations

namespace CombatSimulation

variable {F : Type} [SingleFloat F]

/-- Whatever is stored for a player id belongs to a known player. -/
structure KnownKeys (s : CombatSimulation F) : Prop where
  positions : ∀ id, s.positionsByPlayer.find id ≠ none → s.knows id = true
  queues : ∀ id, s.fireQueueByPlayer.find id ≠ none → s.knows id = true
  shots : ∀ id, s.lastShotSeqByPlayer.find id ≠ none → s.knows id = true
  cooldowns : ∀ id, s.nextFireTickByPlayer.find id ≠ none → s.knows id = true
  pending : ∀ hit ∈ s.pendingProjectiles,
    s.knows hit.attackerId = true ∧ s.knows hit.victimId = true

/-- A stretch of a tick that sets hits between known players going. -/
structure Launches (before after : CombatSimulation F) (launched : List PendingProjectileHit) :
    Prop where
  pending : after.pendingProjectiles = before.pendingProjectiles ++ launched
  known : ∀ id, after.knows id = before.knows id
  between : ∀ hit ∈ launched, before.knows hit.attackerId = true ∧ before.knows hit.victimId = true
  positions : after.positionsByPlayer = before.positionsByPlayer
  queues : after.fireQueueByPlayer = before.fireQueueByPlayer
  shots : after.lastShotSeqByPlayer = before.lastShotSeqByPlayer
  cooldowns : ∀ id, after.nextFireTickByPlayer.find id ≠ none →
    before.nextFireTickByPlayer.find id ≠ none ∨ before.knows id = true

theorem Launches.refl (s : CombatSimulation F) : Launches s s [] where
  pending := (List.append_nil _).symm
  known _ := rfl
  between _ h := nomatch h
  positions := rfl
  queues := rfl
  shots := rfl
  cooldowns _ h := Or.inl h

/-- What is launched in two parts of a tick is launched in the tick. -/
theorem Launches.trans {a b c : CombatSimulation F} {first second : List PendingProjectileHit}
    (h : Launches a b first) (h' : Launches b c second) : Launches a c (first ++ second) where
  pending := by rw [h'.pending, h.pending, List.append_assoc]
  known id := (h'.known id).trans (h.known id)
  between hit hHit := by
    rcases List.mem_append.mp hHit with hFirst | hSecond
    · exact h.between hit hFirst
    · rw [← h.known, ← h.known]
      exact h'.between hit hSecond
  positions := h'.positions.trans h.positions
  queues := h'.queues.trans h.queues
  shots := h'.shots.trans h.shots
  cooldowns id hFind := by
    rcases h'.cooldowns id hFind with hMiddle | hKnown
    · exact h.cooldowns id hMiddle
    · rw [h.known] at hKnown
      exact Or.inr hKnown

/-- Damage leaves a player known. -/
theorem knows_suffer (s : CombatSimulation F) (event : Option DamageResolution) (id : Nat) :
    (s.suffer event).knows id = s.knows id := by
  cases event with
  | none => rfl
  | some event =>
      unfold suffer knows
      dsimp only
      rw [UnorderedMap.find_modify]
      split
      · rename_i hSame
        rw [hSame, Option.isSome_map]
      · rfl

/-- Damage launches nothing. -/
theorem launches_applyDamage (s : CombatSimulation F) (tick : Nat) (hit : PendingProjectileHit)
    (out : CombatTickResult) : Launches s (s.applyDamage tick hit out).2 [] := by
  rw [applyDamage_eq]
  have hKnown := s.knows_suffer (s.damageOf tick hit)
  cases hEvent : s.damageOf tick hit with
  | none => exact .refl s
  | some event =>
      rw [hEvent] at hKnown
      exact
        { pending := (List.append_nil _).symm
          known := hKnown
          between := fun _ h => nomatch h
          positions := rfl
          queues := rfl
          shots := rfl
          cooldowns := fun _ h => Or.inl h }

/-- Nor do all the projectiles that land in a tick. -/
theorem launches_applyDamages (tick : Nat) (hits : List PendingProjectileHit)
    (acc : CombatTickResult × CombatSimulation F) :
    Launches acc.2 (hits.foldl (fun acc hit => acc.2.applyDamage tick hit acc.1) acc).2 [] := by
  induction hits generalizing acc with
  | nil => exact .refl acc.2
  | cons hit rest ih => exact (launches_applyDamage acc.2 tick hit acc.1).trans (ih _)

theorem knows_recordShot (s : CombatSimulation F) (tick : Nat) (tickInterval : Int)
    (command : FireCommand F) (weapon : WeaponRuntime F) (id : Nat) :
    (s.recordShot tick tickInterval command weapon).knows id = s.knows id := by
  unfold recordShot knows
  dsimp only
  rw [UnorderedMap.find_modify]
  split
  · rename_i hSame
    rw [hSame, Option.isSome_map]
  · rfl

/-- To record a shot launches nothing yet. -/
theorem launches_recordShot {s : CombatSimulation F} {command : FireCommand F}
    (h : s.knows command.attackerId = true) (tick : Nat) (tickInterval : Int)
    (weapon : WeaponRuntime F) :
    Launches s (s.recordShot tick tickInterval command weapon) [] where
  pending := (List.append_nil _).symm
  known := s.knows_recordShot tick tickInterval command weapon
  between _ h := nomatch h
  positions := rfl
  queues := rfl
  shots := rfl
  cooldowns id hFind := by
    unfold recordShot at hFind
    dsimp only at hFind
    rw [UnorderedMap.find_set] at hFind
    split at hFind
    · rename_i hSame
      rw [hSame]
      exact Or.inr h
    · exact Or.inl hFind

/-- A shot launches one projectile at most. -/
theorem launches_resolveFire (tick : Nat) (tickInterval : Int)
    (acc : CombatTickResult × CombatSimulation F) (fire : QueuedFire F) :
    ∃ launched, Launches acc.2 (resolveFire tick tickInterval acc fire).2 launched := by
  obtain ⟨out, s⟩ := acc
  rcases resolveFire_cases tick tickInterval out s fire with
    hIdle | ⟨hAttacker, weapon, fired, hFired, h⟩
  · rw [hIdle]
    exact ⟨[], .refl s⟩
  · have hShot : Launches s fired [] := by
      rw [hFired]
      exact launches_recordShot hAttacker tick tickInterval weapon
    rcases h with hMiss | ⟨hit, hShooter, hVictim, hNow | hLater⟩
    · rw [hMiss]
      exact ⟨[], hShot⟩
    · rw [hNow]
      exact ⟨[], hShot.trans (fired.launches_applyDamage tick hit out)⟩
    · rw [hLater]
      refine ⟨[hit], hShot.trans ?_⟩
      exact
        { pending := rfl
          known := fun _ => rfl
          between := by
            intro other hOther
            rw [List.mem_singleton.mp hOther, hShooter, hShot.known]
            exact ⟨hAttacker, hVictim⟩
          positions := rfl
          queues := rfl
          shots := rfl
          cooldowns := fun _ h => Or.inl h }

/-- The shots of a tick, in their order. -/
theorem launches_resolveFires (tick : Nat) (tickInterval : Int) (fires : List (QueuedFire F))
    (acc : CombatTickResult × CombatSimulation F) :
    ∃ launched, Launches acc.2 (fires.foldl (resolveFire tick tickInterval) acc).2 launched := by
  induction fires generalizing acc with
  | nil => exact ⟨[], .refl acc.2⟩
  | cons fire rest ih =>
      obtain ⟨first, hFirst⟩ := launches_resolveFire tick tickInterval acc fire
      obtain ⟨later, hLater⟩ := ih (resolveFire tick tickInterval acc fire)
      exact ⟨first ++ later, hFirst.trans hLater⟩

/-- A tick empties the fire queues, keeps what is not due in flight and launches more. -/
theorem launches_resolveTick (s : CombatSimulation F) (tick : Nat) (tickInterval : Int) :
    ∃ launched, Launches
      ({ s with
          pendingProjectiles := s.remaining tick
          fireQueueByPlayer := s.fireQueueByPlayer.drain.2 } : CombatSimulation F)
      (s.resolveTick tick tickInterval).2 launched := by
  have hLanded := launches_applyDamages tick (s.due tick)
    (({} : CombatTickResult), { s with pendingProjectiles := s.remaining tick })
  have hDrained : Launches
      ({ s with
          pendingProjectiles := s.remaining tick
          fireQueueByPlayer := s.fireQueueByPlayer.drain.2 } : CombatSimulation F)
      (s.resolveProjectiles tick {}).2.drainFireCommands.2 [] :=
    { pending := hLanded.pending
      known := hLanded.known
      between := fun _ h => nomatch h
      positions := hLanded.positions
      queues := congrArg (fun queues => (CommandQueues.drain queues).2) hLanded.queues
      shots := hLanded.shots
      cooldowns := hLanded.cooldowns }
  obtain ⟨launched, hFired⟩ := launches_resolveFires tick tickInterval
    (s.resolveProjectiles tick {}).2.drainFireCommands.1
    ((s.resolveProjectiles tick {}).1, (s.resolveProjectiles tick {}).2.drainFireCommands.2)
  exact ⟨[] ++ launched, hDrained.trans hFired⟩

/-- What a tick let land and launched. -/
theorem tick_spec {s t : CombatSimulation F} {record : CombatTick}
    (hStep : CombatCall s (.ticked record) t) :
    record.landings = s.landings record.tick ∧
      Launches
        ({ s with
            pendingProjectiles := s.remaining record.tick
            fireQueueByPlayer := s.fireQueueByPlayer.drain.2 } : CombatSimulation F)
        t record.launched := by
  cases hStep with
  | resolveTick tick tickInterval =>
      obtain ⟨launched, hLaunches⟩ := s.launches_resolveTick tick tickInterval
      have hLaunched : (s.resolveTick tick tickInterval).2.pendingProjectiles.drop
          (s.remaining tick).length = launched := by
        rw [hLaunches.pending]
        exact List.drop_left
      refine ⟨rfl, ?_⟩
      unfold record
      dsimp only
      rw [hLaunched]
      exact hLaunches

/-- The landings of a tick are of hits that were in flight and due, and an event is of its
hit. -/
theorem landings_spec {s : CombatSimulation F} {tick : Nat} {hit : PendingProjectileHit}
    {event : Option DamageResolution} (h : (hit, event) ∈ s.landings tick) :
    hit ∈ s.pendingProjectiles ∧ hit.resolveTick ≤ tick ∧
      ∀ damage, event = some damage → damage.tick = tick ∧
        damage.attackerId = hit.attackerId ∧ damage.victimId = hit.victimId ∧
        damage.shotSeq = hit.shotSeq := by
  have hDue : hit ∈ s.due tick := by
    have hMem : hit ∈ (s.landings tick).map Prod.fst := List.mem_map_of_mem h
    unfold landings at hMem
    rwa [map_fst_land] at hMem
  have hPending := List.mem_filter.mp ((sortBy_perm _ _).mem_iff.mp hDue)
  refine ⟨hPending.1, of_decide_eq_true hPending.2, ?_⟩
  have hOwn : ∀ (hits : List PendingProjectileHit) (t : CombatSimulation F),
      (hit, event) ∈ land tick t hits → ∃ u : CombatSimulation F, event = u.damageOf tick hit := by
    intro hits
    induction hits with
    | nil => exact fun t hMem => nomatch hMem
    | cons first rest ih =>
        intro t hMem
        rw [land_cons] at hMem
        cases hMem with
        | head => exact ⟨t, rfl⟩
        | tail _ hLater => exact ih _ hLater
  obtain ⟨u, hEvent⟩ := hOwn _ _ h
  intro damage hDamage
  rw [hEvent] at hDamage
  unfold damageOf at hDamage
  cases hFind : u.playersById.find hit.victimId with
  | none =>
      rw [hFind] at hDamage
      cases hDamage
  | some victim =>
      rw [hFind] at hDamage
      dsimp only at hDamage
      split at hDamage
      · cases hDamage
      · injection hDamage with hDamage
        rw [← hDamage]
        exact ⟨rfl, rfl, rfl, rfl⟩

/-! The keys of the tables. -/

theorem knows_ensurePlayer (s : CombatSimulation F) (playerId id : Nat) :
    (s.ensurePlayer playerId).knows id = (id == playerId || s.knows id) := by
  unfold ensurePlayer knows
  dsimp only
  rw [UnorderedMap.find_tryEmplace]
  by_cases hSame : id = playerId
  · rw [if_pos hSame, hSame, BEq.rfl]
    rfl
  · rw [if_neg hSame, beq_false_of_ne hSame, Bool.false_or]

theorem knows_ensurePlayer_of (s : CombatSimulation F) (playerId : Nat) {id : Nat}
    (h : s.knows id = true) : (s.ensurePlayer playerId).knows id = true := by
  rw [knows_ensurePlayer, h, Bool.or_true]

theorem knows_ensurePlayer_self (s : CombatSimulation F) (playerId : Nat) :
    (s.ensurePlayer playerId).knows playerId = true := by
  rw [knows_ensurePlayer, BEq.rfl, Bool.true_or]

/-- A reset leaves nothing behind in the tables. -/
theorem knownKeys_reset (s : CombatSimulation F) : s.reset.KnownKeys where
  positions id hFind := absurd (UnorderedMap.find_empty id) hFind
  queues id hFind := absurd (UnorderedMap.find_empty id) hFind
  shots id hFind := absurd (UnorderedMap.find_empty id) hFind
  cooldowns id hFind := absurd (UnorderedMap.find_empty id) hFind
  pending _ hHit := nomatch hHit

/-- A fresh simulation is as empty as a reset one. -/
theorem knownKeys_create (weaponDefinitions : List (Game.WeaponDefinition F))
    (config : CombatConfig F) : (create weaponDefinitions config).KnownKeys :=
  knownKeys_reset (create weaponDefinitions config)

theorem KnownKeys.ensurePlayer {s : CombatSimulation F} (h : s.KnownKeys) (playerId : Nat) :
    (s.ensurePlayer playerId).KnownKeys where
  positions id hFind := s.knows_ensurePlayer_of playerId (h.positions id hFind)
  queues id hFind := s.knows_ensurePlayer_of playerId (h.queues id hFind)
  shots id hFind := s.knows_ensurePlayer_of playerId (h.shots id hFind)
  cooldowns id hFind := s.knows_ensurePlayer_of playerId (h.cooldowns id hFind)
  pending hit hHit :=
    ⟨s.knows_ensurePlayer_of playerId (h.pending hit hHit).1,
      s.knows_ensurePlayer_of playerId (h.pending hit hHit).2⟩

/-- A leaving player is erased from every table. -/
theorem KnownKeys.removePlayer {s : CombatSimulation F} (h : s.KnownKeys) (playerId : Nat) :
    (s.removePlayer playerId).KnownKeys := by
  have hKept : ∀ id, id ≠ playerId → s.knows id = true →
      (s.removePlayer playerId).knows id = true := by
    intro id hOther hKnown
    unfold CombatSimulation.removePlayer knows
    dsimp only
    rw [UnorderedMap.find_erase, if_neg hOther]
    exact hKnown
  have hErased : ∀ {α : Type} (table : UnorderedMap Nat α),
      (∀ id, table.find id ≠ none → s.knows id = true) →
      ∀ id, (table.erase playerId).find id ≠ none →
        (s.removePlayer playerId).knows id = true := by
    intro α table hTable id hFind
    rw [UnorderedMap.find_erase] at hFind
    split at hFind
    · exact absurd rfl hFind
    · rename_i hOther
      exact hKept id hOther (hTable id hFind)
  exact
    { positions := hErased _ h.positions
      queues := hErased _ h.queues
      shots := hErased _ h.shots
      cooldowns := hErased _ h.cooldowns
      pending := by
        intro hit hHit
        obtain ⟨hMem, hApart⟩ := List.mem_filter.mp hHit
        rw [Bool.not_eq_true', Bool.or_eq_false_iff, beq_eq_false_iff_ne,
          beq_eq_false_iff_ne] at hApart
        exact ⟨hKept _ hApart.1 (h.pending hit hMem).1, hKept _ hApart.2 (h.pending hit hMem).2⟩ }

theorem knows_respawnPlayer (s : CombatSimulation F) (playerId id : Nat) :
    (s.respawnPlayer playerId).knows id = (s.ensurePlayer playerId).knows id := by
  unfold respawnPlayer knows
  dsimp only
  rw [UnorderedMap.find_modify]
  split
  · rename_i hSame
    rw [hSame, Option.isSome_map]
  · rfl

theorem KnownKeys.respawnPlayer {s : CombatSimulation F} (h : s.KnownKeys) (playerId : Nat) :
    (s.respawnPlayer playerId).KnownKeys := by
  have hEnsured := h.ensurePlayer playerId
  have hKnows := s.knows_respawnPlayer playerId
  exact
    { positions := fun id hFind => (hKnows id).trans (hEnsured.positions id hFind)
      queues := fun id hFind => (hKnows id).trans (hEnsured.queues id hFind)
      shots := fun id hFind => (hKnows id).trans (hEnsured.shots id hFind)
      cooldowns := fun id hFind => (hKnows id).trans (hEnsured.cooldowns id hFind)
      pending := by
        intro hit hHit
        obtain ⟨hMem, -⟩ := List.mem_filter.mp hHit
        obtain ⟨hAttacker, hVictim⟩ := hEnsured.pending hit hMem
        exact ⟨(hKnows _).trans hAttacker, (hKnows _).trans hVictim⟩ }

theorem KnownKeys.setPlayerPosition {s : CombatSimulation F} (h : s.KnownKeys) (playerId : Nat)
    (x y : F) : (s.setPlayerPosition playerId x y).KnownKeys := by
  have hEnsured := h.ensurePlayer playerId
  unfold CombatSimulation.setPlayerPosition
  dsimp only
  split
  · exact hEnsured
  · exact
      { hEnsured with
        positions := by
          intro id hFind
          dsimp only at hFind
          rw [UnorderedMap.find_set] at hFind
          split at hFind
          · rename_i hSame
            rw [hSame]
            exact s.knows_ensurePlayer_self playerId
          · exact hEnsured.positions id hFind }

theorem KnownKeys.enqueueFire {s : CombatSimulation F} (h : s.KnownKeys) (fire : FireCommand F) :
    (s.enqueueFire fire).2.KnownKeys := by
  rcases s.enqueueFire_cases fire with ⟨-, hState⟩ | ⟨-, hState⟩
  · rw [hState]
    exact h
  · have hEnsured := h.ensurePlayer fire.attackerId
    have hSelf := s.knows_ensurePlayer_self fire.attackerId
    rw [hState]
    exact
      { positions := hEnsured.positions
        queues := by
          intro id hFind
          change (CommandQueues.push _ _ _).find id ≠ none at hFind
          rw [CommandQueues.find_push] at hFind
          split at hFind
          · rename_i hSame
            rw [hSame]
            exact hSelf
          · exact hEnsured.queues id hFind
        shots := by
          intro id hFind
          change (UnorderedMap.set _ _ _).find id ≠ none at hFind
          rw [UnorderedMap.find_set] at hFind
          split at hFind
          · rename_i hSame
            rw [hSame]
            exact hSelf
          · exact hEnsured.shots id hFind
        cooldowns := hEnsured.cooldowns
        pending := hEnsured.pending }

/-- A tick writes to the tables for known players only. -/
theorem KnownKeys.ticked {s t : CombatSimulation F} {record : CombatTick} (h : s.KnownKeys)
    (hStep : CombatCall s (.ticked record) t) : t.KnownKeys := by
  obtain ⟨-, hLaunches⟩ := tick_spec hStep
  have hKnown : ∀ id, t.knows id = s.knows id := hLaunches.known
  exact
    { positions := by
        intro id hFind
        rw [hLaunches.positions] at hFind
        rw [hKnown]
        exact h.positions id hFind
      queues := by
        intro id hFind
        rw [hLaunches.queues] at hFind
        rw [hKnown]
        apply h.queues id
        intro hNone
        exact hFind (CommandQueues.find_drain_none hNone)
      shots := by
        intro id hFind
        rw [hLaunches.shots] at hFind
        rw [hKnown]
        exact h.shots id hFind
      cooldowns := by
        intro id hFind
        rw [hKnown]
        rcases hLaunches.cooldowns id hFind with hOld | hShooter
        · exact h.cooldowns id hOld
        · exact hShooter
      pending := by
        intro hit hHit
        rw [hLaunches.pending] at hHit
        rw [hKnown, hKnown]
        rcases List.mem_append.mp hHit with hOld | hNew
        · exact h.pending hit (List.mem_filter.mp hOld).1
        · exact hLaunches.between hit hNew }

/-- Every call keeps the tables to players that are known. -/
theorem KnownKeys.step {s t : CombatSimulation F} {event : CombatEvent} (h : s.KnownKeys)
    (hStep : CombatCall s event t) : t.KnownKeys := by
  cases hStep with
  | reset => exact knownKeys_reset s
  | ensurePlayer playerId => exact h.ensurePlayer playerId
  | removePlayer playerId => exact h.removePlayer playerId
  | respawnPlayer playerId => exact h.respawnPlayer playerId
  | setPlayerPosition playerId x y => exact h.setPlayerPosition playerId x y
  | enqueueFire fire hAccepted => exact h.enqueueFire fire
  | refuseFire fire hRefused => exact h.enqueueFire fire
  | resolveTick tick tickInterval => exact h.ticked (.resolveTick s tick tickInterval)

end CombatSimulation

/-- The events that end the flight of a hit: a reset, a removal of its attacker or its victim,
and a fresh life of its victim, or of an attacker that had become unknown. -/
def EndsFlight (hit : PendingProjectileHit) : CombatEvent → Prop
  | .reset => True
  | .ensured id inserted => inserted = true ∧ (id = hit.attackerId ∨ id = hit.victimId)
  | .removed id => id = hit.attackerId ∨ id = hit.victimId
  | .respawned id => id = hit.victimId
  | .refused => False
  | .ticked _ => False

namespace CombatEvent

/-- A tick of the run launched the hit, and nothing ended its flight since. -/
def InFlight (trace : List CombatEvent) (hit : PendingProjectileHit) : Prop :=
  ∃ before record since, trace = before ++ .ticked record :: since ∧ hit ∈ record.launched ∧
    ∀ event ∈ since, ¬ EndsFlight hit event

/-- All hits that a run launched. -/
def launched (trace : List CombatEvent) : Multiset PendingProjectileHit :=
  ↑(trace.flatMap fun event =>
    match event with
    | .ticked record => record.launched
    | _ => [])

/-- All hits that a run let land. -/
def landed (trace : List CombatEvent) : Multiset PendingProjectileHit :=
  ↑(trace.flatMap fun event =>
    match event with
    | .ticked record => record.landings.map Prod.fst
    | _ => [])

/-- What a run launches adds up over its events. -/
theorem launched_snoc (trace : List CombatEvent) (event : CombatEvent) :
    launched (trace ++ [event]) = launched trace + launched [event] := by
  unfold launched
  rw [List.flatMap_append, Multiset.coe_add]

/-- So does what lands in it. -/
theorem landed_snoc (trace : List CombatEvent) (event : CombatEvent) :
    landed (trace ++ [event]) = landed trace + landed [event] := by
  unfold landed
  rw [List.flatMap_append, Multiset.coe_add]

/-- A tick counts what it launches. -/
theorem launched_ticked (record : CombatTick) : launched [.ticked record] = ↑record.launched :=
  congrArg _ (List.append_nil _)

/-- A tick counts what lands in it, struck or not. -/
theorem landed_ticked (record : CombatTick) :
    landed [.ticked record] = ↑(record.landings.map Prod.fst) :=
  congrArg _ (List.append_nil _)

/-- A projectile stays in flight until an event ends its flight. -/
theorem InFlight.later {trace : List CombatEvent} {hit : PendingProjectileHit}
    (h : InFlight trace hit) {event : CombatEvent} (hEvent : ¬ EndsFlight hit event) :
    InFlight (trace ++ [event]) hit := by
  obtain ⟨before, record, since, hTrace, hLaunched, hSince⟩ := h
  refine ⟨before, record, since ++ [event], ?_, hLaunched, fun other hOther => ?_⟩
  · rw [hTrace, List.append_assoc, List.cons_append]
  · rcases List.mem_append.mp hOther with hOld | hNew
    · exact hSince other hOld
    · rw [List.mem_singleton.mp hNew]
      exact hEvent

end CombatEvent

namespace CombatSimulation

open CombatEvent

variable {F : Type} [SingleFloat F] {s t : CombatSimulation F} {trace : List CombatEvent}

/-- What a call other than a tick leaves in flight was in flight before, and the call did not
end its flight. -/
theorem pending_of_call {event : CombatEvent} (h : s.KnownKeys) (hStep : CombatCall s event t)
    (hCall : ∀ record, event ≠ .ticked record) :
    t.pendingProjectiles.Sublist s.pendingProjectiles ∧
      ∀ hit ∈ t.pendingProjectiles, ¬ EndsFlight hit event := by
  have hEnsured : ∀ id, ∀ hit ∈ s.pendingProjectiles,
      ¬ EndsFlight hit (.ensured id (!s.knows id)) := by
    rintro id hit hHit ⟨hInserted, hSame⟩
    obtain ⟨hAttacker, hVictim⟩ := h.pending hit hHit
    rcases hSame with hSame | hSame
    · rw [hSame, hAttacker] at hInserted
      cases hInserted
    · rw [hSame, hVictim] at hInserted
      cases hInserted
  cases hStep with
  | reset => exact ⟨List.nil_sublist _, fun hit hHit => nomatch hHit⟩
  | ensurePlayer id => exact ⟨List.Sublist.refl _, hEnsured id⟩
  | removePlayer id =>
      refine ⟨List.filter_sublist, fun hit hHit hEnds => ?_⟩
      obtain ⟨-, hApart⟩ := List.mem_filter.mp hHit
      rw [Bool.not_eq_true', Bool.or_eq_false_iff, beq_eq_false_iff_ne, beq_eq_false_iff_ne] at hApart
      rcases hEnds with hSame | hSame
      · exact hApart.1 hSame.symm
      · exact hApart.2 hSame.symm
  | respawnPlayer id =>
      refine ⟨List.filter_sublist, fun hit hHit hEnds => ?_⟩
      obtain ⟨-, hApart⟩ := List.mem_filter.mp hHit
      rw [Bool.not_eq_true', beq_eq_false_iff_ne] at hApart
      exact hApart (Eq.symm hEnds)
  | setPlayerPosition id x y =>
      have hPending : (s.setPlayerPosition id x y).pendingProjectiles = s.pendingProjectiles := by
        unfold setPlayerPosition
        dsimp only
        split
        · rfl
        · rfl
      rw [hPending]
      exact ⟨List.Sublist.refl _, hEnsured id⟩
  | enqueueFire fire hAccepted =>
      rcases s.enqueueFire_cases fire with ⟨hRefused, -⟩ | ⟨-, hState⟩
      · exact absurd hAccepted hRefused
      · rw [hState]
        exact ⟨List.Sublist.refl _, hEnsured fire.attackerId⟩
  | refuseFire fire hRefused =>
      rcases s.enqueueFire_cases fire with ⟨-, hState⟩ | ⟨hAccepted, -⟩
      · rw [hState]
        exact ⟨List.Sublist.refl _, fun hit hHit hEnds => hEnds⟩
      · exact absurd hAccepted hRefused
  | resolveTick tick tickInterval => exact absurd rfl (hCall _)

/-- Whatever is in flight was launched in the current lives. -/
theorem inFlight_step {event : CombatEvent} (hKeys : s.KnownKeys)
    (h : ∀ hit ∈ s.pendingProjectiles, InFlight trace hit) (hStep : CombatCall s event t) :
    ∀ hit ∈ t.pendingProjectiles, InFlight (trace ++ [event]) hit := by
  intro hit hHit
  by_cases hTick : ∃ record, event = .ticked record
  · obtain ⟨record, rfl⟩ := hTick
    obtain ⟨-, hLaunches⟩ := tick_spec hStep
    rw [hLaunches.pending] at hHit
    rcases List.mem_append.mp hHit with hOld | hNew
    · exact (h hit (List.mem_filter.mp hOld).1).later fun hEnds => hEnds
    · exact ⟨trace, record, [], rfl, hNew, fun other hOther => nomatch hOther⟩
  · obtain ⟨hKept, hFlies⟩ := pending_of_call hKeys hStep fun record hEvent =>
      hTick ⟨record, hEvent⟩
    exact (h hit (hKept.subset hHit)).later (hFlies hit hHit)

/-- What landed and what is in flight was launched, each hit once. -/
theorem landed_step {event : CombatEvent} (hKeys : s.KnownKeys)
    (h : landed trace + ↑s.pendingProjectiles ≤ launched trace) (hStep : CombatCall s event t) :
    landed (trace ++ [event]) + ↑t.pendingProjectiles ≤ launched (trace ++ [event]) := by
  rw [landed_snoc, launched_snoc]
  by_cases hTick : ∃ record, event = .ticked record
  · obtain ⟨record, rfl⟩ := hTick
    obtain ⟨hLandings, hLaunches⟩ := tick_spec hStep
    rw [landed_ticked, launched_ticked, hLaunches.pending, hLandings]
    unfold landings
    rw [map_fst_land]
    dsimp only
    have hSplit : (↑(s.due record.tick) : Multiset PendingProjectileHit) +
        ↑(s.remaining record.tick) = ↑s.pendingProjectiles := by
      rw [Multiset.coe_add]
      exact Multiset.coe_eq_coe.mpr (s.due_perm record.tick)
    calc landed trace + ↑(s.due record.tick) + ↑(s.remaining record.tick ++ record.launched)
      _ = landed trace + (↑(s.due record.tick) + ↑(s.remaining record.tick)) +
          ↑record.launched := by
        rw [← Multiset.coe_add, ← add_assoc, ← add_assoc]
      _ = landed trace + ↑s.pendingProjectiles + ↑record.launched := by rw [hSplit]
      _ ≤ launched trace + ↑record.launched := add_le_add_left h _
  · obtain ⟨hKept, -⟩ := pending_of_call hKeys hStep fun record hEvent => hTick ⟨record, hEvent⟩
    have hNothing : landed [event] = 0 ∧ launched [event] = 0 := by
      cases event with
      | ticked record => exact absurd ⟨record, rfl⟩ hTick
      | reset => exact ⟨rfl, rfl⟩
      | ensured id inserted => exact ⟨rfl, rfl⟩
      | removed id => exact ⟨rfl, rfl⟩
      | respawned id => exact ⟨rfl, rfl⟩
      | refused => exact ⟨rfl, rfl⟩
    have hFewer : (↑t.pendingProjectiles : Multiset PendingProjectileHit) ≤
        ↑s.pendingProjectiles := Multiset.coe_le.mpr hKept.subperm
    rw [hNothing.1, hNothing.2, add_zero, add_zero]
    exact le_trans (add_le_add_right hFewer _) h

/-- A hit in flight lands at most once and not before its tick; the damage of a tick is that of
its landings and that of the hitscan shots queued for it; a landing damages its victim only in the
life in which it was shot at, while attacker and victim have been known without a break; and
whatever is stored for a player id belongs to a known player. -/
theorem projectile_life {weaponDefinitions : List (Game.WeaponDefinition F)}
    {config : CombatConfig F} (run : Run CombatCall (create weaponDefinitions config) trace s) :
    landed trace + ↑s.pendingProjectiles ≤ launched trace ∧
      (∀ before record later, trace = before ++ .ticked record :: later →
        (∃ u : CombatSimulation F, Run CombatCall (create weaponDefinitions config) before u ∧
          record = u.record record.tick record.tickInterval ∧
          u.TickAccount record.tick record.tickInterval ∧
          ∀ shot ∈ record.shots, ∀ damage, shot.struck = some damage →
            ∃ fire ∈ u.drainFireCommands.1, ∃ weapon, fire.weapon = some weapon ∧
              StruckBy fire weapon damage) ∧
        record.result.damageEvents =
          damageIn record.landings ++ record.shots.filterMap Shot.struck ∧
        record.launched = (record.shots.filterMap fun shot => shot.launched.map Prod.fst) ∧
        ∀ hit damage, (hit, some damage) ∈ record.landings →
          damage.tick = record.tick ∧ damage.attackerId = hit.attackerId ∧
            damage.victimId = hit.victimId ∧ damage.shotSeq = hit.shotSeq ∧
            hit.resolveTick ≤ record.tick ∧ InFlight before hit) ∧
      s.KnownKeys := by
  have hHistory : ∀ {trace : List CombatEvent} {s : CombatSimulation F},
      Run CombatCall (create weaponDefinitions config) trace s →
      s.KnownKeys ∧ (∀ hit ∈ s.pendingProjectiles, InFlight trace hit) ∧
        landed trace + ↑s.pendingProjectiles ≤ launched trace := by
    intro trace s run
    apply run.history (I := fun trace s => s.KnownKeys ∧
      (∀ hit ∈ s.pendingProjectiles, InFlight trace hit) ∧
        landed trace + ↑s.pendingProjectiles ≤ launched trace)
    · intro trace s event t ⟨hKeys, hFlight, hLedger⟩ hStep
      exact ⟨hKeys.step hStep, inFlight_step hKeys hFlight hStep, landed_step hKeys hLedger hStep⟩
    · refine ⟨knownKeys_create weaponDefinitions config, ?_, le_refl _⟩
      exact fun hit hHit => nomatch hHit
  obtain ⟨hKeys, -, hLedger⟩ := hHistory run
  refine ⟨hLedger, fun before record later hTrace => ?_, hKeys⟩
  rw [hTrace] at run
  obtain ⟨u, v, hBefore, hTick, -⟩ := run.around
  obtain ⟨-, hFlight, -⟩ := hHistory hBefore
  obtain ⟨hRecord, -⟩ := record_of_tick hTick
  have hAccount := u.tickAccount record.tick record.tickInterval
  refine ⟨⟨u, hBefore, hRecord, hAccount, fun shot hShot damage hDamage => ?_⟩, ?_, ?_, ?_⟩
  · rw [hRecord] at hShot
    obtain ⟨fire, hFire, w, out, after, hEffect⟩ := hAccount.resolved.takesEffect hShot
    obtain ⟨weapon, hWeapon, -, hStruck, -⟩ := hEffect.weapon
    exact ⟨fire, hFire, weapon, hWeapon, hStruck damage hDamage⟩
  · rw [hRecord]
    exact hAccount.damage
  · rw [hRecord]
    exact u.launched_record record.tick record.tickInterval
  · intro hit damage hLanding
    rw [hRecord] at hLanding
    obtain ⟨hPending, hDue, hOwn⟩ := landings_spec hLanding
    obtain ⟨hTickOf, hAttacker, hVictim, hSeq⟩ := hOwn damage rfl
    exact ⟨hTickOf, hAttacker, hVictim, hSeq, hDue, hFlight hit hPending⟩

def mortar (rateOfFire projectileSpeed : ℚ) : Game.WeaponDefinition ℚ where
  id := Bytes.ofString "mortar"
  type := Bytes.ofString "projectile"
  damage := 10
  rateOfFire := rateOfFire
  rangeUnits := 200
  projectileSpeedUnitsPerSecond := projectileSpeed

/-- A shot of player 1 along the first axis. -/
def mortarShot (shotSeq : Nat) : FireCommand ℚ where
  attackerId := 1
  shotSeq := shotSeq
  weaponId := Bytes.ofString "mortar"
  directionX := 1

/-- Player 2 stands where player 1 shoots. -/
def mortarTarget (weapon : Game.WeaponDefinition ℚ) : CombatSimulation ℚ :=
  (create [weapon] {}).setPlayerPosition 2 100 0

def mortarQueued (weapon : Game.WeaponDefinition ℚ) : CombatSimulation ℚ :=
  ((mortarTarget weapon).enqueueFire (mortarShot 1)).2

/-- Player 1 shoots twice. -/
def mortarsQueued (weapon : Game.WeaponDefinition ℚ) : CombatSimulation ℚ :=
  ((mortarQueued weapon).enqueueFire (mortarShot 2)).2

def mortarsFired (weapon : Game.WeaponDefinition ℚ) (tick : Nat) : CombatSimulation ℚ :=
  ((mortarsQueued weapon).resolveTick tick 50000000).2

/-- The calls that queue the shots, and a tick of 50 ms. -/
def mortarShots (weapon : Game.WeaponDefinition ℚ) (tick : Nat) : List CombatEvent :=
  [.ensured 2 true, .ensured 1 (!(mortarTarget weapon).knows 1),
    .ensured 1 (!(mortarQueued weapon).knows 1),
    .ticked ((mortarsQueued weapon).record tick 50000000)]

/-- The tick is followed by another one. -/
def mortarTrace (weapon : Game.WeaponDefinition ℚ) (first second : Nat) : List CombatEvent :=
  mortarShots weapon first ++ [.ticked ((mortarsFired weapon first).record second 50000000)]

/-- Two shots of a mortar at one target, in two ticks. -/
theorem run_mortarTrace (weapon : Game.WeaponDefinition ℚ)
    (hFirst : ((mortarTarget weapon).enqueueFire (mortarShot 1)).1 = .accepted)
    (hSecond : ((mortarQueued weapon).enqueueFire (mortarShot 2)).1 = .accepted)
    (first second : Nat) :
    Run CombatCall (create [weapon] {}) (mortarTrace weapon first second)
      ((mortarsFired weapon first).resolveTick second 50000000).2 :=
  (((((Run.nil _).snoc (.setPlayerPosition (create [weapon] {}) 2 100 0)).snoc
    (.enqueueFire _ _ hFirst)).snoc (.enqueueFire _ _ hSecond)).snoc
    (.resolveTick _ first 50000000)).snoc (.resolveTick _ second 50000000)

def shell (resolveTick shotSeq : Nat) : PendingProjectileHit where
  resolveTick := resolveTick
  attackerId := 1
  victimId := 2
  shotSeq := shotSeq
  weaponId := Bytes.ofString "mortar"
  damage := 10

def explosion (tick shotSeq : Nat) (victimHealth : Int) : DamageResolution where
  tick := tick
  attackerId := 1
  victimId := 2
  shotSeq := shotSeq
  weaponId := Bytes.ofString "mortar"
  damage := 10
  victimHealth := victimHealth

/-- A shell that flies for 50 ticks explodes once, in tick 51; the second shot came too early. -/
theorem projectile_life_mortar :
    let fired := mortarsFired (mortar 2 40) 1
    fired.pendingProjectiles = [shell 51 1] ∧
      (fired.resolveTick 51 50000000).1.damageEvents = [explosion 51 1 90] ∧
      InFlight (mortarShots (mortar 2 40) 1) (shell 51 1) ∧
      landed (mortarTrace (mortar 2 40) 1 51) = {shell 51 1} ∧
      landed (mortarTrace (mortar 2 40) 1 51) +
          ↑(fired.resolveTick 51 50000000).2.pendingProjectiles ≤
        launched (mortarTrace (mortar 2 40) 1 51) ∧
      (fired.resolveTick 51 50000000).2.KnownKeys := by
  have run := run_mortarTrace (mortar 2 40) (by decide +kernel) (by decide +kernel) 1 51
  obtain ⟨hLedger, hTicks, hKeys⟩ := projectile_life run
  obtain ⟨-, -, -, hLandings⟩ := hTicks (mortarShots (mortar 2 40) 1) _ [] rfl
  have hLanding : (shell 51 1, some (explosion 51 1 90)) ∈
      ((mortarsFired (mortar 2 40) 1).record 51 50000000).landings := by
    decide +kernel
  obtain ⟨-, -, -, -, -, hFlight⟩ := hLandings _ _ hLanding
  exact ⟨by decide +kernel, by decide +kernel, hFlight, by decide +kernel, hLedger, hKeys⟩

end CombatSimulation

end DevyFps.Server
