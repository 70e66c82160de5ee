import DevyFps.Server.CombatEvents
import DevyFps.Server.SnapshotAssembly
import DevyFps.Shared.Net.Protocol

/-! The client's side of a shot: it is checked, numbered and put into a packet. -/

namespace DevyFps.Client

open Foundations FloatFormat Net
open Server (ofFloat ofUnsigned)

variable {F : Type} [SingleFloat F]

inductive WeaponFireEmitStatus where
  | accepted
  | invalidPlayerId
  | invalidWeaponId
  | invalidOrigin
  | invalidDirection
  deriving DecidableEq

structure WeaponFireEmitResult (F : Type) [SingleFloat F] where
  status : WeaponFireEmitStatus := .invalidPlayerId
  packet : Packet (SingleFloat.Double F) := {}
  shotSeq : Nat := 0

def WeaponFireEmitResult.accepted (result : WeaponFireEmitResult F) : Bool :=
  result.status = .accepted

/-- The counter is a `uint32_t`. -/
structure WeaponFireEmitter where
  nextShotSeq : Nat := 1

/-- What a shot is made of; the time is in milliseconds. -/
structure FireRequest (F : Type) [SingleFloat F] where
  playerId : Nat
  weaponId : String
  originX : F
  originY : F
  directionX : F
  directionY : F
  clientFireTimeMs : Option Nat := none

namespace FireRequest

def kDirectionEpsilon : F := ofRat 0.000001

def directionLengthSq (request : FireRequest F) : F :=
  request.directionX * request.directionX + request.directionY * request.directionY

/-- The first check that fails, or that none does. -/
def check (request : FireRequest F) : WeaponFireEmitStatus :=
  if request.playerId = 0 then .invalidPlayerId
  else if request.weaponId = "" then .invalidWeaponId
  else if !isFinite request.originX || !isFinite request.originY then .invalidOrigin
  else if !isFinite request.directionX || !isFinite request.directionY then .invalidDirection
  else if lt request.directionLengthSq kDirectionEpsilon then .invalidDirection
  else .accepted

/-- The members are sorted by their keys; the time is there if it is given. -/
def payload (request : FireRequest F) (shotSeq : Nat) : Document F :=
  let directionLength := sqrt request.directionLengthSq
  .object <|
    (request.clientFireTimeMs.map fun time =>
      ("client_fire_time_ms", ofUnsigned time)).toList ++
    [("direction", .object
        [("x", ofFloat (request.directionX / directionLength)),
          ("y", ofFloat (request.directionY / directionLength))]),
      ("origin", .object [("x", ofFloat request.originX), ("y", ofFloat request.originY)]),
      ("player_id", ofUnsigned request.playerId), ("shot_seq", ofUnsigned shotSeq),
      ("weapon_id", .string request.weaponId)]

end FireRequest

namespace WeaponFireEmitter

def reset (_ : WeaponFireEmitter) (nextShotSeq : Nat := 1) : WeaponFireEmitter where
  nextShotSeq := max 1 nextShotSeq

/-- Only an accepted shot takes a number. -/
def emit (s : WeaponFireEmitter) (request : FireRequest F) :
    WeaponFireEmitResult F × WeaponFireEmitter :=
  if request.check = .accepted then
    ({ status := .accepted
       packet := { type := .weaponFire, payload := request.payload s.nextShotSeq }
       shotSeq := s.nextShotSeq },
      { nextShotSeq := (s.nextShotSeq + 1) % 2 ^ 32 })
  else ({ status := request.check }, s)

end WeaponFireEmitter

end DevyFps.Client
