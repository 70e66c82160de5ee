import DevyFps.Server.CombatLife

/-! What the stages of a tick report, set going and let land. -/

namespace DevyFps.Server

open Foundations FloatFormat

/-- A shot that took effect: the cooldown that it starts, the damage that it did at once,
and the hit that it set going, with the delay until it lands. -/
structure Shot where
  tick : Nat
  attackerId : Nat
  cooldown : Nat
  struck : Option DamageResolution := none
  launched : Option (PendingProjectileHit × Nat) := none
  deriving DecidableEq, Repr

namespace CombatSimulation

variable {F : Type} [SingleFloat F]

def knows (s : CombatSimulation F) (playerId : Nat) : Bool :=
  (s.playersById.find playerId).isSome

/-- The damage that a hit does to the state, if any. -/
def damageOf (s : CombatSimulation F) (tick : Nat) (hit : PendingProjectileHit) :
    Option DamageResolution :=
  match s.playersById.find hit.victimId with
  | none => none
  | some victim =>
      if !victim.alive || max 0 hit.damage ≤ 0 then none
      else
        let health := max 0 (victim.health - max 0 hit.damage)
        some
          { tick, attackerId := hit.attackerId, victimId := hit.victimId, shotSeq := hit.shotSeq,
            weaponId := hit.weaponId, damage := max 0 hit.damage, victimHealth := health,
            lethal := health == 0 }

/-- The state after an event. -/
def suffer (s : CombatSimulation F) : Option DamageResolution → CombatSimulation F
  | none => s
  | some event =>
      { s with
        playersById := s.playersById.modify event.victimId fun victim =>
          { victim with health := event.victimHealth, alive := !event.lethal } }

def deathOf (event : DamageResolution) : DeathResolution where
  tick := event.tick
  victimId := event.victimId
  killerId := event.attackerId
  shotSeq := event.shotSeq
  weaponId := event.weaponId

/-- The deaths that the damage of a stretch of a tick amounts to. -/
def deathsOf (events : List DamageResolution) : List DeathResolution :=
  (events.filter DamageResolution.lethal).map deathOf

/-- Deaths are the lethal hits, in their order. -/
theorem deathsOf_append (first second : List DamageResolution) :
    deathsOf (first ++ second) = deathsOf first ++ deathsOf second := by
  unfold deathsOf
  rw [List.filter_append, List.map_append]

/-- A result with further damage. -/
def CombatTickResult.report (out : CombatTickResult) (events : List DamageResolution) :
    CombatTickResult where
  damageEvents := out.damageEvents ++ events
  deathEvents := out.deathEvents ++ deathsOf events

theorem report_nil (out : CombatTickResult) : CombatTickResult.report out [] = out := by
  unfold CombatTickResult.report deathsOf
  simp

/-- Reports add up. -/
theorem report_report (out : CombatTickResult) (first second : List DamageResolution) :
    CombatTickResult.report (CombatTickResult.report out first) second =
      CombatTickResult.report out (first ++ second) := by
  unfold CombatTickResult.report
  rw [deathsOf_append, List.append_assoc, List.append_assoc]

/-- A hit does the damage and nothing else. -/
theorem applyDamage_eq (s : CombatSimulation F) (tick : Nat) (hit : PendingProjectileHit)
    (out : CombatTickResult) :
    s.applyDamage tick hit out =
      (CombatTickResult.report out (s.damageOf tick hit).toList, s.suffer (s.damageOf tick hit)) := by
  unfold applyDamage damageOf
  cases hFind : s.playersById.find hit.victimId with
  | none => exact Prod.ext (report_nil out).symm rfl
  | some victim =>
      dsimp only
      split
      · exact Prod.ext (report_nil out).symm rfl
      · refine Prod.ext ?_ ?_
        · change CombatTickResult.mk _ _ = CombatTickResult.mk _ _
          congr 2
          cases max 0 (victim.health - max 0 hit.damage) == 0 <;> rfl
        · change CombatSimulation.mk _ _ _ _ _ _ _ _ = CombatSimulation.mk _ _ _ _ _ _ _ _
          congr 1
          unfold UnorderedMap.modify
          dsimp only
          rw [hFind]

/-- What becomes of hits that land one after the other. -/
def land (tick : Nat) :
    CombatSimulation F → List PendingProjectileHit →
      List (PendingProjectileHit × Option DamageResolution)
  | _, [] => []
  | s, hit :: rest => (hit, s.damageOf tick hit) :: land tick (s.suffer (s.damageOf tick hit)) rest

/-- Projectiles land one after the other, each on what those before it have left. -/
theorem land_cons (tick : Nat) (s : CombatSimulation F) (hit : PendingProjectileHit)
    (rest : List PendingProjectileHit) :
    land tick s (hit :: rest) =
      (hit, s.damageOf tick hit) :: land tick (s.suffer (s.damageOf tick hit)) rest := rfl

theorem map_fst_land (tick : Nat) (s : CombatSimulation F) (hits : List PendingProjectileHit) :
    (land tick s hits).map Prod.fst = hits := by
  induction hits generalizing s with
  | nil => rfl
  | cons hit rest ih => exact congrArg (hit :: ·) (ih _)

/-- The damage of a list of landings. -/
def damageIn (landings : List (PendingProjectileHit × Option DamageResolution)) :
    List DamageResolution :=
  landings.filterMap Prod.snd

/-- What a tick reports of the projectiles that land in it. -/
theorem applyDamages_out (tick : Nat) (hits : List PendingProjectileHit) (out : CombatTickResult)
    (s : CombatSimulation F) :
    (hits.foldl (fun acc hit => acc.2.applyDamage tick hit acc.1) (out, s)).1 =
      CombatTickResult.report out (damageIn (land tick s hits)) := by
  induction hits generalizing out s with
  | nil => exact (report_nil out).symm
  | cons hit rest ih =>
      rw [List.foldl_cons, applyDamage_eq, ih, report_report]
      rw [land_cons]
      unfold damageIn
      rw [List.filterMap_cons]
      cases s.damageOf tick hit with
      | none => rfl
      | some event => rfl

/-- The hits in flight that are due at a tick, in the order in which they land. -/
def due (s : CombatSimulation F) (tick : Nat) : List PendingProjectileHit :=
  sortBy projectileLess (s.pendingProjectiles.filter fun pending => pending.resolveTick ≤ tick)

/-- The hits that stay in flight. -/
def remaining (s : CombatSimulation F) (tick : Nat) : List PendingProjectileHit :=
  s.pendingProjectiles.filter fun pending => !(pending.resolveTick ≤ tick)

/-- Each pending projectile is due or remains. -/
theorem due_perm (s : CombatSimulation F) (tick : Nat) :
    (s.due tick ++ s.remaining tick).Perm s.pendingProjectiles := by
  refine ((sortBy_perm _ _).append_right _).trans ?_
  exact List.filter_append_perm _ _

/-- The landings of a tick. -/
def landings (s : CombatSimulation F) (tick : Nat) :
    List (PendingProjectileHit × Option DamageResolution) :=
  land tick { s with pendingProjectiles := s.remaining tick } (s.due tick)

/-- A traced victim is another known player who lives. -/
theorem raycastVictim_spec {s : CombatSimulation F} {fire : QueuedFire F} {hit : RaycastHit F}
    (h : s.raycastVictim fire = some hit) :
    ∃ victim, s.playersById.find hit.victimId = some victim ∧ victim.alive = true ∧
      hit.victimId ≠ fire.command.attackerId := by
  unfold raycastVictim at h
  cases hWeapon : fire.weapon with
  | none =>
      rw [hWeapon] at h
      cases h
  | some weapon =>
      rw [hWeapon] at h
      dsimp only at h
      split at h
      · cases h
      · -- every candidate that becomes the best is such a victim
        refine List.foldlRecOn (motive := fun best => ∀ found, best = some found → ∃ victim,
          s.playersById.find found.victimId = some victim ∧ victim.alive = true ∧
            found.victimId ≠ fire.command.attackerId) s.playersById.items _ ?_ ?_ hit h
        · intro found hFound
          cases hFound
        · intro best hBest item hItem found hFound
          split at hFound
          · rename_i alongRay hRay
            split at hFound
            · injection hFound with hFound
              unfold rayDistance at hRay
              split at hRay
              · cases hRay
              · rename_i hOther
                rw [Bool.or_eq_true, not_or, decide_eq_true_iff, Bool.not_eq_true',
                  Bool.not_eq_false] at hOther
                rw [← hFound]
                exact ⟨item.2, UnorderedMap.mem_items_iff.mp hItem, hOther.2, hOther.1⟩
            · exact hBest found hFound
          · exact hBest found hFound

/-- A shot of a tick is ignored, misses, hurts at once, or sets a projectile going. -/
theorem resolveFire_cases (tick : Nat) (tickInterval : Int) (out : CombatTickResult)
    (s : CombatSimulation F) (fire : QueuedFire F) :
    resolveFire tick tickInterval (out, s) fire = (out, s) ∨
      s.knows fire.command.attackerId = true ∧
        ∃ weapon : WeaponRuntime F, ∃ fired,
          fired = s.recordShot tick tickInterval fire.command weapon ∧
          (resolveFire tick tickInterval (out, s) fire = (out, fired) ∨
            ∃ hit : PendingProjectileHit, hit.attackerId = fire.command.attackerId ∧
              fired.knows hit.victimId = true ∧
              (resolveFire tick tickInterval (out, s) fire = fired.applyDamage tick hit out ∨
                resolveFire tick tickInterval (out, s) fire =
                  (out, { fired with pendingProjectiles := fired.pendingProjectiles ++ [hit] }))) := by
  unfold resolveFire
  dsimp only
  split
  · exact Or.inl rfl
  · rename_i hAlive
    have hKnown : s.knows fire.command.attackerId = true := by
      unfold knows
      cases hFind : s.playersById.find fire.command.attackerId with
      | none => simp [hFind] at hAlive
      | some attacker => rfl
    cases hWeapon : fire.weapon with
    | none => exact Or.inl rfl
    | some weapon =>
        dsimp only
        split
        · exact Or.inl rfl
        · refine Or.inr ⟨hKnown, weapon, _, rfl, ?_⟩
          cases hHit : (s.recordShot tick tickInterval fire.command weapon).raycastVictim fire with
          | none => exact Or.inl rfl
          | some hit =>
              obtain ⟨victim, hVictim, -, -⟩ := raycastVictim_spec hHit
              have hKnowsVictim : (s.recordShot tick tickInterval fire.command weapon).knows
                  hit.victimId = true := by
                unfold knows
                rw [hVictim]
                rfl
              right
              dsimp only
              cases weapon.weaponClass with
              | hitscan => exact ⟨_, rfl, hKnowsVictim, Or.inl rfl⟩
              | projectile => exact ⟨_, rfl, hKnowsVictim, Or.inr rfl⟩

/-- The tick from which on a player may fire again. -/
def deadline (s : CombatSimulation F) (playerId : Nat) : Nat :=
  (s.nextFireTickByPlayer.find playerId).getD 0

/-- The shot that takes effect, along the branches of `resolveFire`. -/
def shotOf (s : CombatSimulation F) (tick : Nat) (tickInterval : Int) (fire : QueuedFire F) :
    Option Shot :=
  let command := fire.command
  if !(s.playersById.find command.attackerId).any (·.alive) then none
  else
    match fire.weapon with
    | none => none
    | some weapon =>
        if tick < (s.nextFireTickByPlayer.find command.attackerId).getD 0 then none
        else
          let fired := s.recordShot tick tickInterval command weapon
          let shot : Shot :=
            { tick, attackerId := command.attackerId
              cooldown := cooldownTicks weapon.rateOfFire tickInterval }
          match fired.raycastVictim fire with
          | none => some shot
          | some hit =>
              match weapon.weaponClass with
              | .hitscan =>
                  let struck := fired.damageOf tick
                    { resolveTick := tick, attackerId := command.attackerId,
                      victimId := hit.victimId, shotSeq := command.shotSeq, weaponId := weapon.id,
                      damage := weapon.damage }
                  some { shot with struck }
              | .projectile =>
                  let delay := travelDelayTicks hit.distanceAlongRay
                    weapon.projectileSpeedUnitsPerSecond tickInterval
                  let launched : PendingProjectileHit :=
                    { resolveTick := (tick + delay) % 2 ^ 64, attackerId := command.attackerId,
                      victimId := hit.victimId, shotSeq := command.shotSeq,
                      weaponId := weapon.id, damage := weapon.damage }
                  some { shot with launched := some (launched, delay) }

/-- The shots that take effect among the drained ones. -/
def shots (tick : Nat) (tickInterval : Int) :
    CombatTickResult × CombatSimulation F → List (QueuedFire F) → List Shot
  | _, [] => []
  | acc, fire :: rest =>
      (acc.2.shotOf tick tickInterval fire).toList ++
        shots tick tickInterval (resolveFire tick tickInterval acc fire) rest

/-- The shots of a tick, the first one taken out. -/
theorem shots_cons (tick : Nat) (tickInterval : Int) (acc : CombatTickResult × CombatSimulation F)
    (fire : QueuedFire F) (rest : List (QueuedFire F)) :
    shots tick tickInterval acc (fire :: rest) =
      (acc.2.shotOf tick tickInterval fire).toList ++
        shots tick tickInterval (resolveFire tick tickInterval acc fire) rest := rfl

/-- The damage of a shot of a hitscan weapon. -/
structure StruckBy (fire : QueuedFire F) (weapon : WeaponRuntime F) (damage : DamageResolution) :
    Prop where
  hitscan : weapon.weaponClass = .hitscan
  attacker : damage.attackerId = fire.command.attackerId
  shotSeq : damage.shotSeq = fire.command.shotSeq
  weaponId : damage.weaponId = weapon.id
  amount : damage.damage = max 0 weapon.damage
  another : damage.victimId ≠ damage.attackerId

/-- The hit that a shot of a projectile weapon sets going, and its delay. -/
structure LaunchedBy (s : CombatSimulation F) (tick : Nat) (tickInterval : Int)
    (fire : QueuedFire F) (weapon : WeaponRuntime F) (hit : PendingProjectileHit) (delay : Nat) :
    Prop where
  projectile : weapon.weaponClass = .projectile
  attacker : hit.attackerId = fire.command.attackerId
  shotSeq : hit.shotSeq = fire.command.shotSeq
  weaponId : hit.weaponId = weapon.id
  amount : hit.damage = weapon.damage
  another : hit.victimId ≠ hit.attackerId
  travel : ∃ traced, (s.recordShot tick tickInterval fire.command weapon).raycastVictim fire =
      some traced ∧ hit.victimId = traced.victimId ∧
    delay = travelDelayTicks traced.distanceAlongRay weapon.projectileSpeedUnitsPerSecond
      tickInterval
  due : hit.resolveTick = (tick + delay) % 2 ^ 64

/-- A drained shot takes effect: what it reports and what it leaves behind. -/
structure TakesEffect (s : CombatSimulation F) (tick : Nat) (tickInterval : Int)
    (fire : QueuedFire F) (shot : Shot) (out : CombatTickResult)
    (after : CombatTickResult × CombatSimulation F) : Prop where
  fired : shot.tick = tick
  attacker : shot.attackerId = fire.command.attackerId
  known : s.knows shot.attackerId = true
  waited : s.deadline shot.attackerId ≤ tick
  weapon : ∃ weapon, fire.weapon = some weapon ∧
    shot.cooldown = cooldownTicks weapon.rateOfFire tickInterval ∧
    (∀ damage, shot.struck = some damage → StruckBy fire weapon damage) ∧
    ∀ hit delay, shot.launched = some (hit, delay) →
      LaunchedBy s tick tickInterval fire weapon hit delay
  cooldown : after.2.nextFireTickByPlayer =
    s.nextFireTickByPlayer.set shot.attackerId ((tick + shot.cooldown) % 2 ^ 64)
  damage : after.1.damageEvents = out.damageEvents ++ shot.struck.toList
  pending : after.2.pendingProjectiles =
    s.pendingProjectiles ++ (shot.launched.map Prod.fst).toList

/-- The drained shots, one after the other: each changes nothing or takes effect. -/
inductive Resolves (tick : Nat) (tickInterval : Int) :
    CombatTickResult × CombatSimulation F → List (QueuedFire F) → List Shot →
      CombatTickResult × CombatSimulation F → Prop where
  | nil (acc) : Resolves tick tickInterval acc [] [] acc
  | ignored (acc after) (fire : QueuedFire F) (rest : List (QueuedFire F)) (later : List Shot)
      (hIdle : resolveFire tick tickInterval acc fire = acc)
      (hRest : Resolves tick tickInterval acc rest later after) :
      Resolves tick tickInterval acc (fire :: rest) later after
  | fired (acc after) (fire : QueuedFire F) (shot : Shot) (rest : List (QueuedFire F))
      (later : List Shot)
      (hEffect : TakesEffect acc.2 tick tickInterval fire shot acc.1
        (resolveFire tick tickInterval acc fire))
      (hRest : Resolves tick tickInterval (resolveFire tick tickInterval acc fire) rest later
        after) :
      Resolves tick tickInterval acc (fire :: rest) (shot :: later) after

theorem pendingProjectiles_suffer (s : CombatSimulation F) (event : Option DamageResolution) :
    (s.suffer event).pendingProjectiles = s.pendingProjectiles := by
  cases event with
  | none => rfl
  | some event => rfl

theorem nextFireTick_suffer (s : CombatSimulation F) (event : Option DamageResolution) :
    (s.suffer event).nextFireTickByPlayer = s.nextFireTickByPlayer := by
  cases event with
  | none => rfl
  | some event => rfl

/-- The damage of a hitscan shot is that of its hit. -/
theorem struckBy_of_damageOf {s : CombatSimulation F} {tick : Nat} {fire : QueuedFire F}
    {weapon : WeaponRuntime F} {hit : PendingProjectileHit} {damage : DamageResolution}
    (hHitscan : weapon.weaponClass = .hitscan) (hAttacker : hit.attackerId = fire.command.attackerId)
    (hSeq : hit.shotSeq = fire.command.shotSeq) (hWeapon : hit.weaponId = weapon.id)
    (hAmount : hit.damage = weapon.damage) (hAnother : hit.victimId ≠ hit.attackerId)
    (h : s.damageOf tick hit = some damage) : StruckBy fire weapon damage := by
  unfold damageOf at h
  split at h
  · cases h
  dsimp only at h
  split at h
  · cases h
  injection h with h
  rw [← h]
  exact ⟨hHitscan, hAttacker, hSeq, hWeapon,
    congrArg (fun amount : Int => Max.max 0 amount) hAmount, hAnother⟩

/-- A drained shot is ignored, or takes effect as recorded. -/
theorem resolveFire_shotOf (tick : Nat) (tickInterval : Int) (out : CombatTickResult)
    (s : CombatSimulation F) (fire : QueuedFire F) :
    (s.shotOf tick tickInterval fire = none ∧
        resolveFire tick tickInterval (out, s) fire = (out, s)) ∨
      ∃ shot, s.shotOf tick tickInterval fire = some shot ∧
        TakesEffect s tick tickInterval fire shot out
          (resolveFire tick tickInterval (out, s) fire) := by
  unfold shotOf resolveFire
  dsimp only
  split
  · exact Or.inl ⟨rfl, rfl⟩
  · rename_i hAlive
    have hKnown : s.knows fire.command.attackerId = true := by
      unfold knows
      cases hFind : s.playersById.find fire.command.attackerId with
      | none => simp [hFind] at hAlive
      | some attacker => rfl
    cases hWeapon : fire.weapon with
    | none => exact Or.inl ⟨rfl, rfl⟩
    | some weapon =>
        dsimp only
        split
        · exact Or.inl ⟨rfl, rfl⟩
        · rename_i hWaited
          have hWaited := Nat.le_of_not_lt hWaited
          right
          cases hTraced : (s.recordShot tick tickInterval fire.command weapon).raycastVictim fire with
          | none =>
              exact ⟨_, rfl, rfl, rfl, hKnown, hWaited, ⟨weapon, hWeapon, rfl,
                fun _ hNone => (by cases hNone), fun _ _ hNone => (by cases hNone)⟩, rfl,
                (List.append_nil _).symm, (List.append_nil _).symm⟩
          | some traced =>
              obtain ⟨-, -, -, hAnother⟩ := raycastVictim_spec hTraced
              dsimp only
              cases hClass : weapon.weaponClass with
              | hitscan =>
                  refine ⟨_, rfl, rfl, rfl, hKnown, hWaited, ⟨weapon, hWeapon, rfl, ?_,
                    fun _ _ hNone => by cases hNone⟩, ?_, ?_, ?_⟩
                  · exact fun damage hDamage =>
                      struckBy_of_damageOf hClass rfl rfl rfl rfl hAnother hDamage
                  · rw [applyDamage_eq, nextFireTick_suffer]
                    rfl
                  · rw [applyDamage_eq]
                    rfl
                  · rw [applyDamage_eq, pendingProjectiles_suffer]
                    exact (List.append_nil _).symm
              | projectile =>
                  refine ⟨_, rfl, rfl, rfl, hKnown, hWaited, ⟨weapon, hWeapon, rfl,
                    fun _ hNone => (by cases hNone), ?_⟩, rfl,
                    (List.append_nil _).symm, rfl⟩
                  intro hit delay hLaunched
                  injection hLaunched with hLaunched
                  injection hLaunched with hHit hDelay
                  rw [← hHit, ← hDelay]
                  exact ⟨hClass, rfl, rfl, rfl, rfl, hAnother, ⟨traced, hTraced, rfl, rfl⟩, rfl⟩

/-- The loop over the drained shots. -/
theorem resolves_shots (tick : Nat) (tickInterval : Int) (fires : List (QueuedFire F))
    (acc : CombatTickResult × CombatSimulation F) :
    Resolves tick tickInterval acc fires (shots tick tickInterval acc fires)
      (fires.foldl (resolveFire tick tickInterval) acc) := by
  induction fires generalizing acc with
  | nil => exact .nil acc
  | cons fire rest ih =>
      obtain ⟨out, s⟩ := acc
      rw [List.foldl_cons, shots_cons]
      rcases resolveFire_shotOf tick tickInterval out s fire with
        ⟨hNone, hIdle⟩ | ⟨shot, hShot, hEffect⟩
      · rw [hNone, hIdle]
        exact .ignored _ _ fire rest _ hIdle (ih (out, s))
      · rw [hShot]
        exact .fired _ _ fire shot rest _ hEffect (ih _)

namespace Resolves

variable {tick : Nat} {tickInterval : Int} {before after : CombatTickResult × CombatSimulation F}
  {fires : List (QueuedFire F)} {shots : List Shot}

/-- The drained shots do the damage of those that take effect. -/
theorem damage (h : Resolves tick tickInterval before fires shots after) :
    after.1.damageEvents = before.1.damageEvents ++ shots.filterMap Shot.struck := by
  induction h with
  | nil acc => exact (List.append_nil _).symm
  | ignored acc after fire rest later hIdle hRest ih => exact ih
  | fired acc after fire shot rest later hEffect hRest ih =>
      rw [ih, hEffect.damage, List.append_assoc, List.filterMap_cons]
      cases shot.struck with
      | none => rfl
      | some damage => rfl

/-- The drained shots set the hits of those that take effect going. -/
theorem pending (h : Resolves tick tickInterval before fires shots after) :
    after.2.pendingProjectiles =
      before.2.pendingProjectiles ++ shots.filterMap fun shot => shot.launched.map Prod.fst := by
  induction h with
  | nil acc => exact (List.append_nil _).symm
  | ignored acc after fire rest later hIdle hRest ih => exact ih
  | fired acc after fire shot rest later hEffect hRest ih =>
      rw [ih, hEffect.pending, List.append_assoc, List.filterMap_cons]
      cases shot.launched with
      | none => rfl
      | some launched => rfl

/-- Every recorded shot is one of the drained ones, and it took effect. -/
theorem takesEffect (h : Resolves tick tickInterval before fires shots after) {shot : Shot}
    (hShot : shot ∈ shots) :
    ∃ fire ∈ fires, ∃ s out after, TakesEffect (F := F) s tick tickInterval fire shot out after := by
  induction h with
  | nil acc => cases hShot
  | ignored acc after fire rest later hIdle hRest ih =>
      obtain ⟨other, hOther, hEffect⟩ := ih hShot
      exact ⟨other, List.mem_cons_of_mem _ hOther, hEffect⟩
  | fired acc after fire first rest later hEffect hRest ih =>
      rcases List.mem_cons.mp hShot with hSame | hLater
      · exact ⟨fire, List.mem_cons_self, _, _, _, hSame ▸ hEffect⟩
      · obtain ⟨other, hOther, hEffect⟩ := ih hLater
        exact ⟨other, List.mem_cons_of_mem _ hOther, hEffect⟩

end Resolves

/-- The shots of a tick that take effect. -/
def shotsOfTick (s : CombatSimulation F) (tick : Nat) (tickInterval : Int) : List Shot :=
  let (out, landed) := s.resolveProjectiles tick {}
  let (fires, drained) := landed.drainFireCommands
  shots tick tickInterval (out, drained) fires

/-- The hits that land leave the queued shots and the deadlines alone. -/
theorem resolveProjectiles_frame (s : CombatSimulation F) (tick : Nat) :
    (s.resolveProjectiles tick {}).2.drainFireCommands.1 = s.drainFireCommands.1 ∧
      (s.resolveProjectiles tick {}).2.deadline = s.deadline ∧
        (s.resolveProjectiles tick {}).2.pendingProjectiles = s.remaining tick := by
  have hFrame : ∀ (hits : List PendingProjectileHit) (acc : CombatTickResult × CombatSimulation F),
      let after := (hits.foldl (fun acc hit => acc.2.applyDamage tick hit acc.1) acc).2
      after.drainFireCommands.1 = acc.2.drainFireCommands.1 ∧ after.deadline = acc.2.deadline ∧
        after.pendingProjectiles = acc.2.pendingProjectiles := by
    intro hits
    induction hits with
    | nil => exact fun acc => ⟨rfl, rfl, rfl⟩
    | cons hit rest ih =>
        intro acc
        obtain ⟨hQueue, hDeadline, hPending⟩ := ih (acc.2.applyDamage tick hit acc.1)
        rw [applyDamage_eq] at hQueue hDeadline hPending
        rw [List.foldl_cons, applyDamage_eq]
        refine ⟨hQueue.trans ?_, hDeadline.trans ?_, hPending.trans ?_⟩
        · cases acc.2.damageOf tick hit <;> rfl
        · unfold deadline
          rw [nextFireTick_suffer]
        · exact pendingProjectiles_suffer _ _
  exact hFrame (s.due tick) ({}, { s with pendingProjectiles := s.remaining tick })

/-- How a tick comes about: the hits that are due land, and then the queued shots are resolved one
after the other. -/
structure TickAccount (s : CombatSimulation F) (tick : Nat) (tickInterval : Int) : Prop where
  landed : (s.resolveProjectiles tick {}).1.damageEvents = damageIn (s.landings tick)
  resolved : Resolves tick tickInterval
    ((s.resolveProjectiles tick {}).1, (s.resolveProjectiles tick {}).2.drainFireCommands.2)
    s.drainFireCommands.1 (s.shotsOfTick tick tickInterval) (s.resolveTick tick tickInterval)
  damage : (s.resolveTick tick tickInterval).1.damageEvents =
    damageIn (s.landings tick) ++ (s.shotsOfTick tick tickInterval).filterMap Shot.struck
  pending : (s.resolveTick tick tickInterval).2.pendingProjectiles =
    s.remaining tick ++
      (s.shotsOfTick tick tickInterval).filterMap fun shot => shot.launched.map Prod.fst

/-- The account of a tick: its damage and its pending projectiles, from what lands and what is
fired. -/
theorem tickAccount (s : CombatSimulation F) (tick : Nat) (tickInterval : Int) :
    s.TickAccount tick tickInterval := by
  obtain ⟨hQueue, -, hPending⟩ := s.resolveProjectiles_frame tick
  have hLanded : (s.resolveProjectiles tick {}).1.damageEvents = damageIn (s.landings tick) := by
    have hReport : (s.resolveProjectiles tick {}).1 =
        CombatTickResult.report {} (damageIn (s.landings tick)) :=
      applyDamages_out tick (s.due tick) {} _
    rw [hReport]
    rfl
  have hResolved : Resolves tick tickInterval
      ((s.resolveProjectiles tick {}).1, (s.resolveProjectiles tick {}).2.drainFireCommands.2)
      (s.resolveProjectiles tick {}).2.drainFireCommands.1 (s.shotsOfTick tick tickInterval)
      (s.resolveTick tick tickInterval) :=
    resolves_shots tick tickInterval _ _
  refine ⟨hLanded, hQueue ▸ hResolved, ?_, ?_⟩
  · exact hResolved.damage.trans (congrArg (· ++ _) hLanded)
  · exact hResolved.pending.trans (congrArg (· ++ _) hPending)

end CombatSimulation

end DevyFps.Server
