import DevyFps.Server.KillTally
import DevyFps.Server.MatchHistory
import DevyFps.Server.ProjectileLife

/-! Who is credited with a kill. Every death that the combat reports is the work of another known
player, so that every death that the match counts credits a kill. -/

namespace DevyFps.Server

open Foundations

namespace CombatSimulation

variable {F : Type} [SingleFloat F]

/-- No hit in flight is on its way to its own shooter. -/
def Apart (s : CombatSimulation F) : Prop :=
  ∀ hit ∈ s.pendingProjectiles, hit.victimId ≠ hit.attackerId

section Apart

variable {s t : CombatSimulation F}

/-- The shots of a tick are aimed at other players. -/
theorem Apart.resolveTick (h : s.Apart) (tick : Nat) (tickInterval : Int) :
    (s.resolveTick tick tickInterval).2.Apart := by
  intro hit hHit
  have hAccount := s.tickAccount tick tickInterval
  rw [hAccount.pending] at hHit
  rcases List.mem_append.mp hHit with hOld | hNew
  · exact h hit (List.mem_filter.mp hOld).1
  · obtain ⟨shot, hShot, hLaunched⟩ := List.mem_filterMap.mp hNew
    obtain ⟨launched, hLaunch, hSame⟩ := Option.map_eq_some_iff.mp hLaunched
    obtain ⟨fire, -, w, out, after, hEffect⟩ := hAccount.resolved.takesEffect hShot
    obtain ⟨weapon, -, -, -, hFlies⟩ := hEffect.weapon
    rw [← hSame]
    exact (hFlies launched.1 launched.2 hLaunch).another

theorem Apart.step {event : CombatEvent} (h : s.Apart) (hKeys : s.KnownKeys)
    (hStep : CombatCall s event t) : t.Apart := by
  by_cases hTick : ∃ record, event = .ticked record
  · obtain ⟨record, rfl⟩ := hTick
    obtain ⟨-, hAfter⟩ := record_of_tick hStep
    rw [hAfter]
    exact h.resolveTick record.tick record.tickInterval
  · obtain ⟨hKept, -⟩ := pending_of_call hKeys hStep fun record hEvent => hTick ⟨record, hEvent⟩
    exact fun hit hHit => h hit (hKept.subset hHit)

theorem Apart.run {trace : List CombatEvent} (h : s.Apart) (hKeys : s.KnownKeys)
    (run : Run CombatCall s trace t) : t.Apart :=
  (run.invariant (I := fun s => s.KnownKeys ∧ s.Apart)
    (fun _ _ _ hBefore hStep => ⟨hBefore.1.step hStep, hBefore.2.step hBefore.1 hStep⟩)
    ⟨hKeys, h⟩).2

/-- Whoever shoots is known. -/
theorem Resolves.knows {tick : Nat} {tickInterval : Int}
    {before after : CombatTickResult × CombatSimulation F} {fires : List (QueuedFire F)}
    {shots : List Shot} (h : Resolves tick tickInterval before fires shots after) :
    ∀ shot ∈ shots, before.2.knows shot.attackerId = true := by
  induction h with
  | nil acc => exact fun shot hShot => nomatch hShot
  | ignored acc after fire rest later hIdle hRest ih => exact ih
  | fired acc after fire shot rest later hEffect hRest ih =>
      intro other hOther
      rcases List.mem_cons.mp hOther with hSame | hLater
      · rw [hSame]
        exact hEffect.known
      · obtain ⟨launched, hLaunches⟩ := launches_resolveFire tick tickInterval acc fire
        rw [← hLaunches.known]
        exact ih other hLater

/-- All damage of a tick is done by a known player to another one. -/
theorem damage_of_tick (h : s.Apart) (hKeys : s.KnownKeys) (tick : Nat) (tickInterval : Int)
    {damage : DamageResolution} (hDamage : damage ∈ (s.resolveTick tick tickInterval).1.damageEvents) :
    damage.attackerId ≠ damage.victimId ∧ s.knows damage.attackerId = true := by
  have hAccount := s.tickAccount tick tickInterval
  rw [hAccount.damage] at hDamage
  rcases List.mem_append.mp hDamage with hLanded | hStruck
  · obtain ⟨⟨hit, struck⟩, hLanding, hSame⟩ := List.mem_filterMap.mp hLanded
    obtain ⟨hPending, -, hOwn⟩ := landings_spec hLanding
    obtain ⟨-, hAttacker, hVictim, -⟩ := hOwn damage hSame
    rw [hAttacker, hVictim]
    exact ⟨(h hit hPending).symm, (hKeys.pending hit hPending).1⟩
  · obtain ⟨shot, hShot, hSame⟩ := List.mem_filterMap.mp hStruck
    obtain ⟨fire, -, w, out, after, hEffect⟩ := hAccount.resolved.takesEffect hShot
    obtain ⟨weapon, -, -, hStrikes, -⟩ := hEffect.weapon
    have hStruckBy := hStrikes damage hSame
    refine ⟨hStruckBy.another.symm, ?_⟩
    have hKnown : (s.resolveProjectiles tick {}).2.knows shot.attackerId = true :=
      hAccount.resolved.knows shot hShot
    have hBefore : (s.resolveProjectiles tick {}).2.knows shot.attackerId =
        s.knows shot.attackerId :=
      (launches_applyDamages tick (s.due tick)
        ({}, { s with pendingProjectiles := s.remaining tick })).known _
    rw [hStruckBy.attacker, ← hEffect.attacker, ← hBefore]
    exact hKnown

/-- All deaths of a tick are kills of a known player by another one. -/
theorem kill_of_tick (h : s.Apart) (hKeys : s.KnownKeys) (tick : Nat) (tickInterval : Int)
    {death : DeathResolution} (hDeath : death ∈ (s.resolveTick tick tickInterval).1.deathEvents) :
    death.killerId ≠ death.victimId ∧ s.knows death.killerId = true ∧
      s.knows death.victimId = true := by
  have hVictim := ((s.harms_resolveTick tick tickInterval).death_iff death.victimId).mp
    ⟨death, hDeath, rfl⟩
  obtain ⟨-, hDeaths, -⟩ := s.strikes_resolveTick tick tickInterval
  rw [hDeaths] at hDeath
  obtain ⟨damage, hDamage, rfl⟩ := List.mem_map.mp hDeath
  obtain ⟨hAnother, hKnown⟩ := damage_of_tick h hKeys tick tickInterval (List.mem_filter.mp hDamage).1
  refine ⟨hAnother, hKnown, ?_⟩
  have hAlive := hVictim.1
  unfold aliveIn at hAlive
  unfold knows
  cases hFind : s.playersById.find (deathOf damage).victimId with
  | none =>
      rw [hFind] at hAlive
      cases hAlive
  | some victim => rfl

end Apart

end CombatSimulation

namespace MatchLifecycleSimulation

/-- Nobody has more kills than the given number, and nobody died without a kill for somebody. -/
structure Credited (s : MatchLifecycleSimulation) (deaths : Nat) : Prop where
  kills : ∀ id, (s.tally id).kills ≤ deaths
  credit : ∀ id, 0 < (s.tally id).deaths → ∃ killer, 0 < (s.tally killer).kills

section Credited

variable {s t : MatchLifecycleSimulation} {deaths : Nat}

theorem Credited.of_tally (h : s.Credited deaths) (hTally : ∀ id, t.tally id = s.tally id) :
    t.Credited deaths where
  kills id := by
    rw [hTally]
    exact h.kills id
  credit id hDied := by
    rw [hTally] at hDied
    obtain ⟨killer, hKiller⟩ := h.credit id hDied
    exact ⟨killer, (hTally killer).symm ▸ hKiller⟩

theorem Credited.mono (h : s.Credited deaths) {later : Nat} (hLater : deaths ≤ later) :
    s.Credited later :=
  ⟨fun id => (h.kills id).trans hLater, h.credit⟩

/-- A death by another player credits a kill, as long as the counter does not wrap. -/
theorem Credited.recordDeath (h : s.Credited deaths) (tick : Nat) {death : DeathResolution}
    (hKill : death.killerId ≠ 0 ∧ death.killerId ≠ death.victimId) (hFits : deaths + 1 < 2 ^ 32) :
    (s.recordDeath tick death).Credited (deaths + 1) := by
  have hCounted : ∀ id, ((s.tally id).kills + 1) % 2 ^ 32 = (s.tally id).kills + 1 := by
    intro id
    have hKills := h.kills id
    exact Nat.mod_eq_of_lt (by omega)
  constructor
  · intro id
    have hKills := h.kills id
    rw [tally_recordDeath, hCounted]
    dsimp only
    split
    · omega
    · omega
  · intro id _
    refine ⟨death.killerId, ?_⟩
    rw [tally_recordDeath, hCounted]
    dsimp only
    rw [if_pos ⟨rfl, hKill⟩]
    exact Nat.succ_pos _

theorem Credited.recordDeaths (tick : Nat) (events : List DeathResolution) (h : s.Credited deaths)
    (handled : Finset Nat)
    (hKills : ∀ death ∈ events, death.killerId ≠ 0 ∧ death.killerId ≠ death.victimId)
    (hFits : deaths + events.length < 2 ^ 32) :
    (s.recordDeaths tick events handled).Credited (deaths + events.length) := by
  induction events generalizing s deaths handled with
  | nil => exact h
  | cons death rest ih =>
      have hRest : ∀ other ∈ rest, other.killerId ≠ 0 ∧ other.killerId ≠ other.victimId :=
        fun other hOther => hKills other (List.mem_cons_of_mem _ hOther)
      rw [List.length_cons] at hFits ⊢
      unfold MatchLifecycleSimulation.recordDeaths
      split
      · exact (ih h handled hRest (by omega)).mono (by omega)
      · have hOne := h.recordDeath tick (hKills death List.mem_cons_self) (by omega)
        exact (ih hOne _ hRest (by omega)).mono (by omega)

/-- A tick credits the kills of its deaths. -/
theorem Credited.tickWith (h : s.Credited deaths) (call : TickCall)
    (hKills : ∀ death ∈ call.deathEvents, death.killerId ≠ 0 ∧ death.killerId ≠ death.victimId)
    (hFits : deaths + call.deathEvents.length < 2 ^ 32) :
    (s.tickWith call).2.Credited (deaths + call.deathEvents.length) := by
  have hOpen : (s.openWith call).2.2.Credited deaths :=
    h.of_tally fun id => s.tally_openTick _ _ _ _ _ id
  have hBuried : ((s.openWith call).2.2.applyDeaths call.tick call.deathEvents).Credited
      (deaths + call.deathEvents.length) := by
    unfold applyDeaths
    split
    · rw [← length_sortBy deathLess call.deathEvents] at hFits ⊢
      exact hOpen.recordDeaths call.tick _ ∅
        (fun death hDeath => hKills death (mem_sortBy.mp hDeath)) hFits
    · exact hOpen.mono (Nat.le_add_right _ _)
  have hPlayed : (s.playWith call).2.Credited (deaths + call.deathEvents.length) :=
    hBuried.of_tally fun id => tally_applyRespawns _ call.tick id
  rcases s.tickWith_cases call with ⟨-, -, winner, hAfter⟩ | ⟨-, hAfter⟩
  · rw [hAfter]
    exact hPlayed.of_tally fun _ => rfl
  · rw [hAfter]
    exact hPlayed

end Credited

end MatchLifecycleSimulation

end DevyFps.Server
