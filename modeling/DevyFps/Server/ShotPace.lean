import DevyFps.Foundations.Pacing
import DevyFps.Server.ProjectileLife

/-! The pace of the weapons. Every shot that takes effect starts a cooldown and may set a
projectile going; both delays are added to the tick modulo the range of `uint64_t`. -/

namespace DevyFps.Server

open Foundations FloatFormat

/-- Neither of the two additions of a shot wraps. -/
def Shot.Fits (shot : Shot) : Prop :=
  shot.tick + shot.cooldown < 2 ^ 64 ∧
    ∀ hit delay, shot.launched = some (hit, delay) → shot.tick + delay < 2 ^ 64

/-- What the combat simulation does, as far as the pace of the shots goes. -/
inductive ShotDeed where
  | landed (tick : Nat) (hit : PendingProjectileHit) (damage : DamageResolution)
  | fired (shot : Shot)
  | left (playerId : Nat)
  | reset
  deriving DecidableEq, Repr

namespace ShotDeed

/-- A shot waits for the cooldown of its shooter; a player who leaves loses it. -/
def pace : ShotDeed → Option (Pace Nat)
  | landed _ _ _ => none
  | fired shot => some (.acted shot.attackerId shot.tick shot.cooldown)
  | left playerId => some (.cleared playerId)
  | reset => some .allCleared

/-- The deed lets the player forget its cooldown. -/
def Forgets (playerId : Nat) : ShotDeed → Prop
  | landed _ _ _ => False
  | fired _ => False
  | left other => other = playerId
  | reset => True

theorem forgets_of_clears {deed : ShotDeed} {pace : Pace Nat} {playerId : Nat}
    (h : deed.pace = some pace) (hClears : pace.Clears playerId) : deed.Forgets playerId := by
  cases deed with
  | landed tick hit damage => cases h
  | fired shot =>
      injection h with h
      rw [← h] at hClears
      exact hClears
  | left other =>
      injection h with h
      rw [← h] at hClears
      exact hClears
  | reset => trivial

end ShotDeed

namespace CombatTick

/-- The hits that land in a tick and hurt, then the shots that take effect. -/
def deeds (record : CombatTick) : List ShotDeed :=
  (record.landings.filterMap fun landing => landing.2.map (.landed record.tick landing.1)) ++
    record.shots.map .fired

end CombatTick

namespace CombatEvent

def deeds : CombatEvent → List ShotDeed
  | .reset => [.reset]
  | .removed playerId => [.left playerId]
  | .ticked record => record.deeds
  | .ensured _ _ => []
  | .respawned _ => []
  | .refused => []

end CombatEvent

namespace CombatSimulation

variable {F : Type} [SingleFloat F]

/-! The ticks from which on the players may fire again are a table of deadlines. -/

theorem deadline_of_effect {s : CombatSimulation F} {tick : Nat} {tickInterval : Int}
    {fire : QueuedFire F} {shot : Shot} {out : CombatTickResult}
    {after : CombatTickResult × CombatSimulation F}
    (h : TakesEffect s tick tickInterval fire shot out after) :
    after.2.deadline =
      Function.update s.deadline shot.attackerId ((tick + shot.cooldown) % 2 ^ 64) := by
  funext playerId
  unfold deadline
  rw [h.cooldown, UnorderedMap.find_set, Function.update_apply]
  split
  · rfl
  · rfl

/-- The additions of a shot do not wrap exactly if its deadline holds off every tick of its
cooldown, and the hit that it sets going is not due before its delay is over. -/
theorem TakesEffect.fits_iff {s : CombatSimulation F} {tick : Nat} {tickInterval : Int}
    {fire : QueuedFire F} {shot : Shot} {out : CombatTickResult}
    {after : CombatTickResult × CombatSimulation F}
    (h : TakesEffect s tick tickInterval fire shot out after) (hTick : tick < 2 ^ 64) :
    shot.Fits ↔
      (∀ later, tick ≤ later → later < tick + shot.cooldown → later < 2 ^ 64 →
          later < after.2.deadline shot.attackerId) ∧
        ∀ hit delay, shot.launched = some (hit, delay) → tick + delay ≤ hit.resolveTick := by
  have hCooldown : (∀ later, tick ≤ later → later < tick + shot.cooldown → later < 2 ^ 64 →
        later < after.2.deadline shot.attackerId) ↔ tick + shot.cooldown < 2 ^ 64 := by
    rw [deadline_of_effect h, Function.update_self]
    constructor
    · intro hHeld
      by_contra hWraps
      -- the last tick of the clock is in the cooldown, and no deadline is beyond it
      have hLast := hHeld (2 ^ 64 - 1) (by omega) (by omega) (by omega)
      have hBelow := Nat.mod_lt (tick + shot.cooldown) (show 0 < 2 ^ 64 by omega)
      omega
    · intro hRoom later _ hLater _
      rwa [Nat.mod_eq_of_lt hRoom]
  have hTravel : ∀ hit delay, shot.launched = some (hit, delay) →
      (tick + delay ≤ hit.resolveTick ↔ tick + delay < 2 ^ 64) := by
    intro hit delay hLaunched
    obtain ⟨weapon, -, -, -, hLaunch⟩ := h.weapon
    have hDue := (hLaunch hit delay hLaunched).due
    have hBelow := Nat.mod_lt (tick + delay) (show 0 < 2 ^ 64 by omega)
    constructor
    · omega
    · intro hRoom
      rw [hDue, Nat.mod_eq_of_lt hRoom]
  unfold Shot.Fits
  rw [hCooldown, h.fired]
  refine and_congr_right fun _ => forall₂_congr fun hit delay => ?_
  exact forall_congr' fun hLaunched => (hTravel hit delay hLaunched).symm

/-- The shots that take effect and fit are paced actions. -/
theorem Resolves.pace {tick : Nat} {tickInterval : Int}
    {before after : CombatTickResult × CombatSimulation F} {fires : List (QueuedFire F)}
    {shots : List Shot} (h : Resolves tick tickInterval before fires shots after)
    (hFits : ∀ shot ∈ shots, shot.Fits) :
    Run PaceStep before.2.deadline (shots.filterMap (ShotDeed.pace ∘ .fired))
      after.2.deadline := by
  induction h with
  | nil acc => exact .nil _
  | ignored acc after fire rest later hIdle hRest ih => exact ih hFits
  | fired acc after fire shot rest later hEffect hRest ih =>
      have hRoom : tick + shot.cooldown < 2 ^ 64 := by
        have hOwn := (hFits shot List.mem_cons_self).1
        rwa [hEffect.fired] at hOwn
      have hShot : Run PaceStep acc.2.deadline [.acted shot.attackerId shot.tick shot.cooldown]
          (resolveFire tick tickInterval acc fire).2.deadline := by
        rw [deadline_of_effect hEffect, Nat.mod_eq_of_lt hRoom, hEffect.fired]
        exact .single (.acted _ _ _ _ hEffect.waited)
      exact hShot.trans (ih fun other hOther => hFits other (List.mem_cons_of_mem _ hOther))

/-- The landings of a tick do not touch the deadlines, and its shots keep to them. -/
theorem pace_record (s : CombatSimulation F) (tick : Nat) (tickInterval : Int)
    (hFits : ∀ shot, .fired shot ∈ (s.record tick tickInterval).deeds → shot.Fits) :
    Run PaceStep s.deadline ((s.record tick tickInterval).deeds.filterMap ShotDeed.pace)
      (s.resolveTick tick tickInterval).2.deadline := by
  have hFired := (s.tickAccount tick tickInterval).resolved.pace fun shot hShot =>
    hFits shot (List.mem_append_right _ (List.mem_map_of_mem hShot))
  have hLanded : (s.resolveProjectiles tick {}).2.drainFireCommands.2.deadline = s.deadline :=
    (s.resolveProjectiles_frame tick).2.1
  have hNone : ((s.landings tick).filterMap fun landing =>
      landing.2.map (ShotDeed.landed tick landing.1)).filterMap ShotDeed.pace = [] := by
    rw [List.filterMap_filterMap, List.filterMap_eq_nil_iff]
    rintro ⟨hit, damage⟩ -
    cases damage with
    | none => rfl
    | some damage => rfl
  dsimp only at hFired
  rw [hLanded] at hFired
  unfold CombatTick.deeds record
  dsimp only
  rw [List.filterMap_append, hNone, List.nil_append, List.filterMap_map]
  exact hFired

/-- Each call whose shots fit paces the deadlines. -/
theorem pace_of_call {s t : CombatSimulation F} {event : CombatEvent}
    (hStep : CombatCall s event t) (hFits : ∀ shot, .fired shot ∈ event.deeds → shot.Fits) :
    Run PaceStep s.deadline (event.deeds.filterMap ShotDeed.pace) t.deadline := by
  cases hStep with
  | reset => exact .single (.allCleared _)
  | ensurePlayer playerId => exact .nil _
  | removePlayer playerId =>
      have hAfter : (s.removePlayer playerId).deadline =
          Function.update s.deadline playerId 0 := by
        funext id
        unfold deadline removePlayer
        dsimp only
        rw [UnorderedMap.find_erase, Function.update_apply]
        split
        · rfl
        · rfl
      rw [hAfter]
      exact .single (.cleared _ _)
  | respawnPlayer playerId => exact .nil _
  | setPlayerPosition playerId x y =>
      have hSame : (s.setPlayerPosition playerId x y).deadline = s.deadline := by
        unfold setPlayerPosition
        dsimp only
        split
        · rfl
        · rfl
      rw [hSame]
      exact .nil _
  | enqueueFire fire hAccepted =>
      rcases s.enqueueFire_cases fire with ⟨hRefused, -⟩ | ⟨-, hState⟩
      · exact absurd hAccepted hRefused
      · rw [hState]
        exact .nil _
  | refuseFire fire hRefused =>
      rcases s.enqueueFire_cases fire with ⟨-, hState⟩ | ⟨hAccepted, -⟩
      · rw [hState]
        exact .nil _
      · exact absurd hAccepted hRefused
  | resolveTick tick tickInterval => exact s.pace_record tick tickInterval hFits

/-- A landing is due, and a launched hit is due after its delay, up to wrapping. -/
theorem flight_of_call {s t : CombatSimulation F} {event : CombatEvent}
    (hStep : CombatCall s event t) :
    (∀ tick hit damage, .landed tick hit damage ∈ event.deeds → hit.resolveTick ≤ tick) ∧
      ∀ shot, .fired shot ∈ event.deeds → ∀ hit delay, shot.launched = some (hit, delay) →
        hit.resolveTick = (shot.tick + delay) % 2 ^ 64 := by
  cases event with
  | ticked record =>
      obtain ⟨hRecord, -⟩ := record_of_tick hStep
      have hLandings : record.landings = s.landings record.tick := congrArg _ hRecord
      have hShots : record.shots = s.shotsOfTick record.tick record.tickInterval :=
        congrArg _ hRecord
      constructor
      · intro tick hit damage hDeed
        rcases List.mem_append.mp hDeed with hLanded | hFired
        · obtain ⟨landing, hMem, hLanding⟩ := List.mem_filterMap.mp hLanded
          obtain ⟨damage', hDamage, hSame⟩ := Option.map_eq_some_iff.mp hLanding
          injection hSame with hTick hHit
          rw [← hTick, ← hHit]
          rw [hLandings] at hMem
          have hLanded : (landing.1, landing.2) ∈ s.landings record.tick := hMem
          exact (landings_spec hLanded).2.1
        · obtain ⟨shot, -, hSame⟩ := List.mem_map.mp hFired
          cases hSame
      · intro shot hDeed hit delay hLaunched
        rcases List.mem_append.mp hDeed with hLanded | hFired
        · obtain ⟨landing, -, hLanding⟩ := List.mem_filterMap.mp hLanded
          obtain ⟨damage, -, hSame⟩ := Option.map_eq_some_iff.mp hLanding
          cases hSame
        · obtain ⟨other, hMem, hSame⟩ := List.mem_map.mp hFired
          injection hSame with hSame
          rw [hSame, hShots] at hMem
          obtain ⟨fire, -, u, out, after, hEffect⟩ :=
            (s.tickAccount record.tick record.tickInterval).resolved.takesEffect hMem
          obtain ⟨weapon, -, -, -, hLaunch⟩ := hEffect.weapon
          rw [hEffect.fired]
          exact (hLaunch hit delay hLaunched).due
  | reset => exact ⟨by simp [CombatEvent.deeds], by simp [CombatEvent.deeds]⟩
  | removed playerId => exact ⟨by simp [CombatEvent.deeds], by simp [CombatEvent.deeds]⟩
  | ensured playerId inserted => exact ⟨nofun, nofun⟩
  | respawned playerId => exact ⟨nofun, nofun⟩
  | refused => exact ⟨nofun, nofun⟩

/-- No shot follows another of the same attacker within its cooldown, unless the attacker
left or everything was reset in between. -/
def KeepsCooldown (deeds : List ShotDeed) : Prop :=
  ∀ (before : List ShotDeed) (shot : Shot) (between : List ShotDeed) (next : Shot)
    (later : List ShotDeed),
    deeds = before ++ .fired shot :: between ++ .fired next :: later →
    next.attackerId = shot.attackerId → (∀ deed ∈ between, ¬ deed.Forgets shot.attackerId) →
      ¬ (shot.tick ≤ next.tick ∧ next.tick < shot.tick + shot.cooldown)

/-- No launched hit does damage before its delay is over. -/
def KeepsTravelTime (deeds : List ShotDeed) : Prop :=
  ∀ (before : List ShotDeed) (shot : Shot) (between : List ShotDeed) (tick : Nat)
    (hit : PendingProjectileHit) (damage : DamageResolution) (later : List ShotDeed),
    deeds = before ++ .fired shot :: between ++ .landed tick hit damage :: later →
    ∀ delay, shot.launched = some (hit, delay) → shot.tick + delay ≤ tick

/-- What the deeds of a run are: all damage that a tick reports and all hits that it sets going are
those of its deeds, each of its shots took effect for a queued one, and the additions of a shot
wrap exactly if its cooldown or its flight is cut short. -/
structure Accounts (start : CombatSimulation F) (before : List CombatEvent)
    (record : CombatTick) : Prop where
  tick : ∃ u : CombatSimulation F, Run CombatCall start before u ∧
    record = u.record record.tick record.tickInterval ∧
    u.TickAccount record.tick record.tickInterval
  damage : record.result.damageEvents =
    damageIn record.landings ++ record.shots.filterMap Shot.struck
  launched : record.launched = record.shots.filterMap fun shot => shot.launched.map Prod.fst
  fits : ∀ shot ∈ record.shots, ∃ (s : CombatSimulation F) (fire : QueuedFire F)
    (out : CombatTickResult) (after : CombatTickResult × CombatSimulation F),
      TakesEffect s record.tick record.tickInterval fire shot out after ∧
        (record.tick < 2 ^ 64 → (shot.Fits ↔
          (∀ later, record.tick ≤ later → later < record.tick + shot.cooldown → later < 2 ^ 64 →
              later < after.2.deadline shot.attackerId) ∧
            ∀ hit delay, shot.launched = some (hit, delay) →
              record.tick + delay ≤ hit.resolveTick))

theorem accounts_of_run {start s : CombatSimulation F} {before later : List CombatEvent}
    {record : CombatTick} (run : Run CombatCall start (before ++ .ticked record :: later) s) :
    Accounts start before record := by
  obtain ⟨u, v, hBefore, hTick, -⟩ := run.around
  obtain ⟨hRecord, -⟩ := record_of_tick hTick
  have hAccount := u.tickAccount record.tick record.tickInterval
  refine ⟨⟨u, hBefore, hRecord, hAccount⟩, ?_, ?_, fun shot hShot => ?_⟩
  · rw [hRecord]
    exact hAccount.damage
  · rw [hRecord]
    exact u.launched_record record.tick record.tickInterval
  · rw [hRecord] at hShot
    obtain ⟨fire, -, w, out, after, hEffect⟩ := hAccount.resolved.takesEffect hShot
    exact ⟨w, fire, out, after, hEffect, hEffect.fits_iff⟩

/-- The cooldowns of a run whose shots fit. -/
theorem keepsCooldown_of_run {start s : CombatSimulation F} {trace : List CombatEvent}
    (run : Run CombatCall start trace s)
    (hFits : ∀ event ∈ trace, ∀ shot, .fired shot ∈ event.deeds → shot.Fits) :
    KeepsCooldown (trace.flatMap CombatEvent.deeds) := by
  intro before shot between next later hDeeds hSame hKept hWithin
  have hGuarded := run.guard (P := fun _ event => ∀ shot, .fired shot ∈ event.deeds → shot.Fits)
    fun event hMem _ => hFits event hMem
  have hStep : ∀ (s : CombatSimulation F) (event : CombatEvent) (t : CombatSimulation F),
      True → CombatCall s event t ∧ (∀ shot, .fired shot ∈ event.deeds → shot.Fits) →
        True ∧ Run PaceStep s.deadline (event.deeds.filterMap ShotDeed.pace) t.deadline :=
    fun s event t _ hCall => ⟨trivial, pace_of_call hCall.1 hCall.2⟩
  obtain ⟨-, hPaced⟩ := hGuarded.refine hStep trivial
  have hPaces : trace.flatMap (fun event => event.deeds.filterMap ShotDeed.pace) =
      before.filterMap ShotDeed.pace ++ .acted shot.attackerId shot.tick shot.cooldown ::
        between.filterMap ShotDeed.pace ++ .acted shot.attackerId next.tick next.cooldown ::
          later.filterMap ShotDeed.pace := by
    rw [← List.filterMap_flatMap, hDeeds]
    simp [ShotDeed.pace, hSame]
  rw [hPaces] at hPaced
  have hCleared : ∀ pace ∈ between.filterMap ShotDeed.pace, ¬ pace.Clears shot.attackerId := by
    intro pace hMem hClears
    obtain ⟨deed, hDeed, hPace⟩ := List.mem_filterMap.mp hMem
    exact hKept deed hDeed (ShotDeed.forgets_of_clears hPace hClears)
  have hApart := apart_of_run hPaced hCleared
  omega

/-- The flights of a run whose shots fit. -/
theorem keepsTravelTime_of_run {start s : CombatSimulation F} {trace : List CombatEvent}
    (run : Run CombatCall start trace s)
    (hFits : ∀ event ∈ trace, ∀ shot, .fired shot ∈ event.deeds → shot.Fits) :
    KeepsTravelTime (trace.flatMap CombatEvent.deeds) := by
  intro before shot between tick hit damage later hDeeds delay hLaunched
  have hFired : ShotDeed.fired shot ∈ trace.flatMap CombatEvent.deeds := by
    rw [hDeeds]
    simp
  have hLanded : ShotDeed.landed tick hit damage ∈ trace.flatMap CombatEvent.deeds := by
    rw [hDeeds]
    simp
  obtain ⟨firing, hFiring, hFired⟩ := List.mem_flatMap.mp hFired
  obtain ⟨landing, hLanding, hLanded⟩ := List.mem_flatMap.mp hLanded
  obtain ⟨s, t, hFire⟩ := run.of_mem hFiring
  obtain ⟨u, v, hLand⟩ := run.of_mem hLanding
  have hDue := (flight_of_call hLand).1 tick hit damage hLanded
  have hFlight := (flight_of_call hFire).2 shot hFired hit delay hLaunched
  have hRoom := (hFits firing hFiring shot hFired).2 hit delay hLaunched
  rw [Nat.mod_eq_of_lt hRoom] at hFlight
  omega

/-- Every tick of a run accounts for its shots, and fire rate and travel time hold in every run
in which the additions of the shots do not wrap. -/
theorem weapons_keep_pace {weaponDefinitions : List (Game.WeaponDefinition F)}
    {config : CombatConfig F} {trace : List CombatEvent} {s : CombatSimulation F}
    (run : Run CombatCall (create weaponDefinitions config) trace s) :
    (∀ before record later, trace = before ++ .ticked record :: later →
      Accounts (create weaponDefinitions config) before record) ∧
      ((∀ event ∈ trace, ∀ shot, .fired shot ∈ event.deeds → shot.Fits) →
        KeepsCooldown (trace.flatMap CombatEvent.deeds) ∧
          KeepsTravelTime (trace.flatMap CombatEvent.deeds)) := by
  refine ⟨fun before record later hTrace => ?_, fun hFits => ?_⟩
  · rw [hTrace] at run
    exact accounts_of_run run
  · exact ⟨keepsCooldown_of_run run hFits, keepsTravelTime_of_run run hFits⟩

/-- A shot in tick 1. -/
def launch (cooldown : Nat) (shell : PendingProjectileHit) (delay : Nat) : Shot where
  tick := 1
  attackerId := 1
  cooldown := cooldown
  launched := some (shell, delay)

/-- A mortar that fires twice a second, and a shell that flies for 50 ticks. -/
theorem weapons_keep_pace_mortar :
    let deeds := (mortarTrace (mortar 2 40) 1 51).flatMap CombatEvent.deeds
    deeds = [.fired (launch 10 (shell 51 1) 50), .landed 51 (shell 51 1) (explosion 51 1 90)] ∧
      Accounts (create [mortar 2 40] {}) (mortarShots (mortar 2 40) 1)
        ((mortarsFired (mortar 2 40) 1).record 51 50000000) ∧
      KeepsCooldown deeds ∧ KeepsTravelTime deeds := by
  have hDeeds : (mortarTrace (mortar 2 40) 1 51).flatMap CombatEvent.deeds =
      [.fired (launch 10 (shell 51 1) 50), .landed 51 (shell 51 1) (explosion 51 1 90)] := by
    decide +kernel
  have run := run_mortarTrace (mortar 2 40) (by decide +kernel) (by decide +kernel) 1 51
  obtain ⟨hAccounts, hKeeps⟩ := weapons_keep_pace run
  have hFits : ∀ event ∈ mortarTrace (mortar 2 40) 1 51, ∀ shot,
      .fired shot ∈ event.deeds → shot.Fits := by
    intro event hEvent shot hShot
    have hMem : ShotDeed.fired shot ∈ (mortarTrace (mortar 2 40) 1 51).flatMap CombatEvent.deeds :=
      List.mem_flatMap.mpr ⟨event, hEvent, hShot⟩
    rw [hDeeds] at hMem
    have hSame : shot = launch 10 (shell 51 1) 50 := by simpa using hMem
    rw [hSame]
    simp [Shot.Fits, launch]
  obtain ⟨hCooldown, hTravel⟩ := hKeeps hFits
  exact ⟨hDeeds, hAccounts _ _ [] rfl, hCooldown, hTravel⟩

/-- With a tiny rate of fire and a tiny projectile speed, player 1 fires twice in tick 1 and
both shells explode in tick 2. -/
theorem mortar_wraps :
    let slow := mortar (1 / 10 ^ 30) (1 / 10 ^ 30)
    Run CombatCall (create [slow] {}) (mortarTrace slow 1 2)
        ((mortarsFired slow 1).resolveTick 2 50000000).2 ∧
      ((mortarsFired slow 1).resolveTick 2 50000000).1.damageEvents =
        [explosion 2 1 90, explosion 2 2 80] ∧
      ¬ KeepsCooldown ((mortarTrace slow 1 2).flatMap CombatEvent.deeds) ∧
      ¬ KeepsTravelTime ((mortarTrace slow 1 2).flatMap CombatEvent.deeds) := by
  have hDeeds : (mortarTrace (mortar (1 / 10 ^ 30) (1 / 10 ^ 30)) 1 2).flatMap CombatEvent.deeds =
      [.fired (launch (2 ^ 64 - 1) (shell 0 1) (2 ^ 64 - 1)),
        .fired (launch (2 ^ 64 - 1) (shell 0 2) (2 ^ 64 - 1)),
        .landed 2 (shell 0 1) (explosion 2 1 90),
        .landed 2 (shell 0 2) (explosion 2 2 80)] := by
    decide +kernel
  refine ⟨run_mortarTrace _ (by decide +kernel) (by decide +kernel) 1 2, by decide +kernel, ?_, ?_⟩
  · intro hKeeps
    refine hKeeps [] _ [] _ _ hDeeds rfl (fun deed hDeed => ?_) (by decide)
    cases hDeed
  · intro hKeeps
    have hEarly := hKeeps [] _ [_] _ _ _ _ hDeeds _ rfl
    exact absurd hEarly (by decide)

end CombatSimulation

end DevyFps.Server
