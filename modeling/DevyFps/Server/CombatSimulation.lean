import DevyFps.Server.MovementSimulation
import DevyFps.Shared.Game.Weapons

/-! Combat: queued shots are traced once a tick, damage is applied at once or when
a projectile arrives, and a player whose health reaches zero dies. -/

namespace DevyFps.Server

open Foundations FloatFormat Game

structure CombatConfig (F : Type) [SingleFloat F] where
  startingHealth : Int := 100
  defaultHitscanRangeUnits : F := ofRat 128
  defaultProjectileRangeUnits : F := ofRat 96
  defaultProjectileSpeedUnitsPerSecond : F := ofRat 40
  hitRadiusUnits : F := ofRat 0.75

structure FireCommand (F : Type) [SingleFloat F] where
  attackerId : Nat := 0
  shotSeq : Nat := 0
  weaponId : Bytes := []
  originX : F := ofRat 0
  originY : F := ofRat 0
  directionX : F := ofRat 0
  directionY : F := ofRat 0
  receivedAt : TimePoint := 0

inductive FireEnqueueStatus where
  | accepted
  | unknownWeapon
  | outOfOrder
  deriving DecidableEq, Repr

structure DamageResolution where
  tick : Nat := 0
  attackerId : Nat := 0
  victimId : Nat := 0
  shotSeq : Nat := 0
  weaponId : Bytes := []
  damage : Int := 0
  victimHealth : Int := 0
  lethal : Bool := false
  deriving DecidableEq, Repr

structure DeathResolution where
  tick : Nat := 0
  victimId : Nat := 0
  killerId : Nat := 0
  shotSeq : Nat := 0
  weaponId : Bytes := []
  deriving DecidableEq, Repr

/-- The order in which the other simulations act on the deaths of a tick. -/
def deathLess (lhs rhs : DeathResolution) : Bool :=
  if lhs.victimId ≠ rhs.victimId then lhs.victimId < rhs.victimId
  else if lhs.killerId ≠ rhs.killerId then lhs.killerId < rhs.killerId
  else lhs.shotSeq < rhs.shotSeq

structure CombatTickResult where
  damageEvents : List DamageResolution := []
  deathEvents : List DeathResolution := []
  deriving DecidableEq, Repr

structure PlayerCombatState where
  playerId : Nat := 0
  health : Int := 100
  alive : Bool := true
  lastShotSeq : Nat := 0
  deriving DecidableEq, Repr

inductive WeaponClass where
  | hitscan
  | projectile
  deriving DecidableEq, Repr

structure WeaponRuntime (F : Type) [SingleFloat F] where
  id : Bytes := []
  weaponClass : WeaponClass := .hitscan
  damage : Int := 0
  rateOfFire : F := ofRat 1
  rangeUnits : F := ofRat 0
  projectileSpeedUnitsPerSecond : F := ofRat 0

structure QueuedFire (F : Type) [SingleFloat F] where
  command : FireCommand F
  weapon : Option (WeaponRuntime F)

structure PendingProjectileHit where
  resolveTick : Nat := 0
  attackerId : Nat := 0
  victimId : Nat := 0
  shotSeq : Nat := 0
  weaponId : Bytes := []
  damage : Int := 0
  deriving DecidableEq, Repr

structure RaycastHit (F : Type) [SingleFloat F] where
  victimId : Nat := 0
  distanceAlongRay : F := ofRat 0

structure CombatSimulation (F : Type) [SingleFloat F] where
  config : CombatConfig F
  weaponsById : UnorderedMap Bytes (WeaponRuntime F)
  playersById : UnorderedMap Nat PlayerCombatState
  positionsByPlayer : UnorderedMap Nat (F × F)
  fireQueueByPlayer : CommandQueues (FireCommand F)
  lastShotSeqByPlayer : UnorderedMap Nat Nat
  nextFireTickByPlayer : UnorderedMap Nat Nat
  pendingProjectiles : List PendingProjectileHit

namespace CombatSimulation

variable {F : Type} [SingleFloat F]

def kDirectionEpsilon : F := ofRat 0.000001

def sanitizeConfig (config : CombatConfig F) : CombatConfig F where
  startingHealth := if config.startingHealth ≤ 0 then 100 else config.startingHealth
  defaultHitscanRangeUnits := sanitizePositive config.defaultHitscanRangeUnits (ofRat 128)
  defaultProjectileRangeUnits := sanitizePositive config.defaultProjectileRangeUnits (ofRat 96)
  defaultProjectileSpeedUnitsPerSecond :=
    sanitizePositive config.defaultProjectileSpeedUnitsPerSecond (ofRat 40)
  hitRadiusUnits := sanitizePositive config.hitRadiusUnits (ofRat 0.75)

def classifyWeapon (weapon : WeaponDefinition F) : WeaponClass :=
  if isProjectileType weapon then .projectile else .hitscan

/-- The runtime record of a definition: the body of the loop in the constructor.
A definition without an id or without damage is skipped. The conversion of the
rounded damage to `int` keeps its low 32 bits. -/
def weaponRuntime (config : CombatConfig F) (weapon : WeaponDefinition F) :
    Option (WeaponRuntime F) :=
  let damage := max 0 (Int.bmod (lround (weaponDamagePerShot weapon)) (2 ^ 32))
  if weapon.id.isEmpty || damage ≤ 0 then none
  else
    let rateOfFire :=
      if isFinite weapon.rateOfFire && lt (ofRat 0) weapon.rateOfFire then weapon.rateOfFire
      else ofRat 1
    let orDefault (value fallback : F) : F :=
      if isFinite value && lt (ofRat 0) value then value else fallback
    match classifyWeapon weapon with
    | .hitscan =>
        some { id := Bytes.lowercase weapon.id, weaponClass := .hitscan, damage, rateOfFire
               rangeUnits := orDefault weapon.rangeUnits config.defaultHitscanRangeUnits
               projectileSpeedUnitsPerSecond := ofRat 0 }
    | .projectile =>
        some { id := Bytes.lowercase weapon.id, weaponClass := .projectile, damage, rateOfFire
               rangeUnits := orDefault weapon.rangeUnits config.defaultProjectileRangeUnits
               projectileSpeedUnitsPerSecond := orDefault weapon.projectileSpeedUnitsPerSecond
                 config.defaultProjectileSpeedUnitsPerSecond }

/-- The constructor. A later definition with the same id replaces an earlier one. -/
def create (weaponDefinitions : List (WeaponDefinition F)) (config : CombatConfig F) :
    CombatSimulation F where
  config := sanitizeConfig config
  weaponsById := (weaponDefinitions.filterMap (weaponRuntime (sanitizeConfig config))).foldl
    (fun weapons runtime => weapons.set runtime.id runtime) ∅
  playersById := ∅
  positionsByPlayer := ∅
  fireQueueByPlayer := ∅
  lastShotSeqByPlayer := ∅
  nextFireTickByPlayer := ∅
  pendingProjectiles := []

/-- The configuration and the weapons stay. -/
def reset (s : CombatSimulation F) : CombatSimulation F :=
  { s with
    playersById := ∅
    positionsByPlayer := ∅
    fireQueueByPlayer := ∅
    lastShotSeqByPlayer := ∅
    nextFireTickByPlayer := ∅
    pendingProjectiles := [] }

def newPlayer (s : CombatSimulation F) (playerId : Nat) : PlayerCombatState where
  playerId := playerId
  health := s.config.startingHealth
  alive := true
  lastShotSeq := 0

def ensurePlayer (s : CombatSimulation F) (playerId : Nat) : CombatSimulation F :=
  { s with playersById := s.playersById.tryEmplace playerId (s.newPlayer playerId) }

def removePlayer (s : CombatSimulation F) (playerId : Nat) : CombatSimulation F :=
  { s with
    playersById := s.playersById.erase playerId
    positionsByPlayer := s.positionsByPlayer.erase playerId
    fireQueueByPlayer := s.fireQueueByPlayer.erase playerId
    lastShotSeqByPlayer := s.lastShotSeqByPlayer.erase playerId
    nextFireTickByPlayer := s.nextFireTickByPlayer.erase playerId
    pendingProjectiles := s.pendingProjectiles.filter fun hit =>
      !(hit.attackerId == playerId || hit.victimId == playerId) }

def respawnPlayer (s : CombatSimulation F) (playerId : Nat) : CombatSimulation F :=
  let ensured := s.ensurePlayer playerId
  { ensured with
    playersById := ensured.playersById.modify playerId fun state =>
      { state with health := s.config.startingHealth, alive := true }
    pendingProjectiles := s.pendingProjectiles.filter fun hit => !(hit.victimId == playerId) }

def setPlayerPosition (s : CombatSimulation F) (playerId : Nat) (x y : F) : CombatSimulation F :=
  let ensured := s.ensurePlayer playerId
  if !isFinite x || !isFinite y then ensured
  else { ensured with positionsByPlayer := ensured.positionsByPlayer.set playerId (x, y) }

def setPlayerPositions (s : CombatSimulation F) (states : List (PlayerMotionState F)) :
    CombatSimulation F :=
  states.foldl (fun t state => t.setPlayerPosition state.playerId state.positionX state.positionY) s

/-- Whether a sequence number fails to pass the last shot waiting in a queue. -/
def behindQueue (queue : Option (List (FireCommand F))) (shotSeq : Nat) : Bool :=
  match queue.bind List.getLast? with
  | some back => shotSeq ≤ back.shotSeq
  | none => false

def enqueueFire (s : CombatSimulation F) (fire : FireCommand F) :
    FireEnqueueStatus × CombatSimulation F :=
  let weaponId := Bytes.lowercase fire.weaponId
  if (s.weaponsById.find weaponId).isNone then (.unknownWeapon, s)
  else if (s.lastShotSeqByPlayer.find fire.attackerId).any (fire.shotSeq ≤ ·) then (.outOfOrder, s)
  else if behindQueue (s.fireQueueByPlayer.find fire.attackerId) fire.shotSeq then (.outOfOrder, s)
  else
    let queued :=
      { s with
        fireQueueByPlayer := s.fireQueueByPlayer.push fire.attackerId { fire with weaponId }
        lastShotSeqByPlayer := s.lastShotSeqByPlayer.set fire.attackerId fire.shotSeq }
    (.accepted, queued.ensurePlayer fire.attackerId)

/-- A number of ticks, at least one and at most the largest `uint64_t`. -/
def ticksFor (seconds tickSeconds : SingleFloat.Double F) : Nat :=
  if le tickSeconds (ofRat 0) then 1
  else
    let ticks := ceil (seconds / tickSeconds)
    if lt ticks (ofRat 1) then 1
    else if lt (ofInt (2 ^ 64 - 1)) ticks then 2 ^ 64 - 1
    else (truncate ticks).toNat

def cooldownTicks (rateOfFirePerSecond : F) (tickInterval : Int) : Nat :=
  if !isFinite rateOfFirePerSecond || le rateOfFirePerSecond (ofRat 0) || tickInterval ≤ 0 then 1
  else
    ticksFor (F := F) (ofRat 1 / SingleFloat.widen rateOfFirePerSecond)
      (MovementSimulation.tickSeconds (F := F) tickInterval)

def travelDelayTicks (distanceUnits speedUnitsPerSecond : F) (tickInterval : Int) : Nat :=
  if !isFinite distanceUnits || lt distanceUnits (ofRat 0) || !isFinite speedUnitsPerSecond ||
      le speedUnitsPerSecond (ofRat 0) || tickInterval ≤ 0 then 1
  else
    ticksFor (F := F) (SingleFloat.widen distanceUnits / SingleFloat.widen speedUnitsPerSecond)
      (MovementSimulation.tickSeconds (F := F) tickInterval)

/-- `drain_fire_commands_deterministic`. -/
def drainFireCommands (s : CombatSimulation F) : List (QueuedFire F) × CombatSimulation F :=
  let (drained, left) := s.fireQueueByPlayer.drain
  (drained.map fun fire => { command := fire, weapon := s.weaponsById.find fire.weaponId },
    { s with fireQueueByPlayer := left })

/-- One candidate of the ray: the distance along the ray at which it is hit. -/
def rayDistance (s : CombatSimulation F) (fire : FireCommand F) (dirX dirY rangeUnits : F)
    (victimId : Nat) (victim : PlayerCombatState) : Option F :=
  if victimId = fire.attackerId || !victim.alive then none
  else
    match s.positionsByPlayer.find victimId with
    | none => none
    | some (x, y) =>
        let alongRay := (x - fire.originX) * dirX + (y - fire.originY) * dirY
        if !isFinite alongRay || lt alongRay (ofRat 0) || lt rangeUnits alongRay then none
        else
          let deltaX := x - (fire.originX + dirX * alongRay)
          let deltaY := y - (fire.originY + dirY * alongRay)
          let distanceSq := deltaX * deltaX + deltaY * deltaY
          let hitRadiusSq := s.config.hitRadiusUnits * s.config.hitRadiusUnits
          if !isFinite distanceSq || lt hitRadiusSq distanceSq then none else some alongRay

/-- Whether a new hit replaces the best one so far: it is nearer, or as near and
the victim has the smaller id. -/
def betterHit (best : Option (RaycastHit F)) (victimId : Nat) (alongRay : F) : Bool :=
  match best with
  | none => true
  | some best =>
      lt alongRay best.distanceAlongRay ||
        (le (abs (alongRay - best.distanceAlongRay)) (ofRat 0.000001) && victimId < best.victimId)

def raycastVictim (s : CombatSimulation F) (fire : QueuedFire F) : Option (RaycastHit F) :=
  match fire.weapon with
  | none => none
  | some weapon =>
      let command := fire.command
      let dirLengthSq :=
        command.directionX * command.directionX + command.directionY * command.directionY
      if !isFinite dirLengthSq || lt dirLengthSq kDirectionEpsilon then none
      else
        let dirLength := sqrt dirLengthSq
        let dirX := command.directionX / dirLength
        let dirY := command.directionY / dirLength
        s.playersById.items.foldl (fun best item =>
          match s.rayDistance command dirX dirY weapon.rangeUnits item.1 item.2 with
          | some alongRay =>
              if betterHit best item.1 alongRay then some ⟨item.1, alongRay⟩ else best
          | none => best) none

def applyDamage (s : CombatSimulation F) (tick : Nat) (hit : PendingProjectileHit)
    (out : CombatTickResult) : CombatTickResult × CombatSimulation F :=
  match s.playersById.find hit.victimId with
  | none => (out, s)
  | some victim =>
      if !victim.alive || max 0 hit.damage ≤ 0 then (out, s)
      else
        let damage := max 0 hit.damage
        let health := max 0 (victim.health - damage)
        let lethal := health == 0
        let damaged := { victim with health := health, alive := !lethal }
        let event : DamageResolution :=
          { tick, attackerId := hit.attackerId, victimId := hit.victimId, shotSeq := hit.shotSeq,
            weaponId := hit.weaponId, damage, victimHealth := health, lethal }
        let deaths : List DeathResolution :=
          if lethal then
            [{ tick, victimId := hit.victimId, killerId := hit.attackerId, shotSeq := hit.shotSeq,
               weaponId := hit.weaponId }]
          else []
        ({ damageEvents := out.damageEvents ++ [event], deathEvents := out.deathEvents ++ deaths },
          { s with playersById := s.playersById.set hit.victimId damaged })

def projectileLess (lhs rhs : PendingProjectileHit) : Bool :=
  if lhs.resolveTick ≠ rhs.resolveTick then lhs.resolveTick < rhs.resolveTick
  else if lhs.attackerId ≠ rhs.attackerId then lhs.attackerId < rhs.attackerId
  else if lhs.shotSeq ≠ rhs.shotSeq then lhs.shotSeq < rhs.shotSeq
  else lhs.victimId < rhs.victimId

def resolveProjectiles (s : CombatSimulation F) (tick : Nat) (out : CombatTickResult) :
    CombatTickResult × CombatSimulation F :=
  let due := s.pendingProjectiles.filter fun pending => pending.resolveTick ≤ tick
  let remaining := s.pendingProjectiles.filter fun pending => !(pending.resolveTick ≤ tick)
  (sortBy projectileLess due).foldl (fun acc hit => acc.2.applyDamage tick hit acc.1)
    (out, { s with pendingProjectiles := remaining })

/-- The shooter's cooldown starts and its last shot is recorded. -/
def recordShot (s : CombatSimulation F) (tick : Nat) (tickInterval : Int)
    (command : FireCommand F) (weapon : WeaponRuntime F) : CombatSimulation F :=
  { s with
    nextFireTickByPlayer := s.nextFireTickByPlayer.set command.attackerId
      ((tick + cooldownTicks weapon.rateOfFire tickInterval) % 2 ^ 64)
    playersById := s.playersById.modify command.attackerId fun attacker =>
      { attacker with lastShotSeq := max attacker.lastShotSeq command.shotSeq } }

/-- The body of the loop over the drained shots in `resolve_tick`. -/
def resolveFire (tick : Nat) (tickInterval : Int) (acc : CombatTickResult × CombatSimulation F)
    (fire : QueuedFire F) : CombatTickResult × CombatSimulation F :=
  let (out, s) := acc
  let command := fire.command
  if !(s.playersById.find command.attackerId).any (·.alive) then (out, s)
  else
    match fire.weapon with
    | none => (out, s)
    | some weapon =>
        if tick < (s.nextFireTickByPlayer.find command.attackerId).getD 0 then (out, s)
        else
          let fired := s.recordShot tick tickInterval command weapon
          match fired.raycastVictim fire with
          | none => (out, fired)
          | some hit =>
              match weapon.weaponClass with
              | .hitscan =>
                  fired.applyDamage tick
                    { resolveTick := tick, attackerId := command.attackerId,
                      victimId := hit.victimId, shotSeq := command.shotSeq, weaponId := weapon.id,
                      damage := weapon.damage } out
              | .projectile =>
                  let delay := travelDelayTicks hit.distanceAlongRay
                    weapon.projectileSpeedUnitsPerSecond tickInterval
                  (out, { fired with
                    pendingProjectiles := fired.pendingProjectiles ++
                      [{ resolveTick := (tick + delay) % 2 ^ 64, attackerId := command.attackerId,
                         victimId := hit.victimId, shotSeq := command.shotSeq,
                         weaponId := weapon.id, damage := weapon.damage }] })

def resolveTick (s : CombatSimulation F) (tick : Nat) (tickInterval : Int) :
    CombatTickResult × CombatSimulation F :=
  let (out, landed) := s.resolveProjectiles tick {}
  let (fires, drained) := landed.drainFireCommands
  fires.foldl (resolveFire tick tickInterval) (out, drained)

def stateFor (s : CombatSimulation F) (playerId : Nat) : Option PlayerCombatState :=
  s.playersById.find playerId

/-- `snapshot`: the states ordered by player id. -/
def snapshot (s : CombatSimulation F) : List PlayerCombatState :=
  sortBy (fun lhs rhs => decide (lhs.playerId < rhs.playerId)) s.playersById.values

end CombatSimulation

end DevyFps.Server
