import DevyFps.Foundations.Floating

/-! Character movement: the kinematics that the server and the predicting client
share. -/

namespace DevyFps.Game

open Foundations FloatFormat

inductive MoveState where
  | idle
  | walk
  | sprint
  | crouch
  | air
  deriving DecidableEq, Repr

variable {F : Type} [SingleFloat F]

structure MovementTuning (F : Type) [SingleFloat F] where
  accelGroundUnitsPerSecond2 : F := ofRat 48
  accelAirUnitsPerSecond2 : F := ofRat 16
  frictionGroundUnitsPerSecond2 : F := ofRat 20
  maxSpeedWalkUnitsPerSecond : F := ofRat 6
  sprintSpeedMultiplier : F := ofRat 1.5
  crouchSpeedMultiplier : F := ofRat 0.55
  jumpVelocityUnitsPerSecond : F := ofRat 7.5
  gravityUnitsPerSecond2 : F := ofRat 22

structure MovementInputIntent (F : Type) [SingleFloat F] where
  moveX : F := ofRat 0
  moveY : F := ofRat 0
  jump : Bool := false
  sprint : Bool := false
  crouch : Bool := false

structure MovementKinematicState (F : Type) [SingleFloat F] where
  positionX : F := ofRat 0
  positionY : F := ofRat 0
  velocityX : F := ofRat 0
  velocityY : F := ofRat 0
  verticalPosition : F := ofRat 0
  verticalVelocity : F := ofRat 0
  grounded : Bool := true
  moveState : MoveState := .idle

def kInputMagnitudeEpsilon : F := ofRat 0.000001

def kSpeedEpsilon : F := ofRat 0.0001

/-- `std::numeric_limits<float>::epsilon()`. -/
def floatEpsilon : F := ofRat (1 / 2 ^ 23)

def sanitizePositive (value fallback : F) : F :=
  if !isFinite value || le value (ofRat 0) then fallback else value

def sanitizeNonNegative (value fallback : F) : F :=
  if !isFinite value || lt value (ofRat 0) then fallback else value

def sanitizeAxis (axis : F) : F :=
  if !isFinite axis then ofRat 0 else clamp axis (ofRat (-1)) (ofRat 1)

/-- The length of a horizontal vector, computed in double precision. -/
def magnitudeSq (x y : F) : SingleFloat.Double F :=
  SingleFloat.widen x * SingleFloat.widen x + SingleFloat.widen y * SingleFloat.widen y

def normalizeOrZero (x y : F) : F × F :=
  let magSq := magnitudeSq x y
  if le magSq (SingleFloat.widen (kInputMagnitudeEpsilon : F)) then (ofRat 0, ofRat 0)
  else
    let mag : F := SingleFloat.narrow (sqrt magSq)
    if lt (ofRat 1) mag then (x / mag, y / mag) else (x, y)

def sanitizeMovementTuning (tuning : MovementTuning F) : MovementTuning F where
  accelGroundUnitsPerSecond2 := sanitizePositive tuning.accelGroundUnitsPerSecond2 (ofRat 48)
  accelAirUnitsPerSecond2 := sanitizePositive tuning.accelAirUnitsPerSecond2 (ofRat 16)
  frictionGroundUnitsPerSecond2 :=
    sanitizeNonNegative tuning.frictionGroundUnitsPerSecond2 (ofRat 20)
  maxSpeedWalkUnitsPerSecond := sanitizePositive tuning.maxSpeedWalkUnitsPerSecond (ofRat 6)
  sprintSpeedMultiplier := sanitizePositive tuning.sprintSpeedMultiplier (ofRat 1.5)
  crouchSpeedMultiplier := sanitizePositive tuning.crouchSpeedMultiplier (ofRat 0.55)
  jumpVelocityUnitsPerSecond := sanitizePositive tuning.jumpVelocityUnitsPerSecond (ofRat 7.5)
  gravityUnitsPerSecond2 := sanitizePositive tuning.gravityUnitsPerSecond2 (ofRat 22)

def sanitizeMovementInput (input : MovementInputIntent F) : MovementInputIntent F :=
  let (moveX, moveY) := normalizeOrZero (sanitizeAxis input.moveX) (sanitizeAxis input.moveY)
  { input with moveX := moveX, moveY := moveY }

def horizontalSpeed (state : MovementKinematicState F) : F :=
  SingleFloat.narrow (sqrt (magnitudeSq state.velocityX state.velocityY))

/-- The label of a movement state, chosen the same way with and without elapsed time. -/
def classifyMove (state : MovementKinematicState F) (input : MovementInputIntent F) : MoveState :=
  if !state.grounded then .air
  else if le (horizontalSpeed state) kSpeedEpsilon then .idle
  else if input.crouch then .crouch
  else if input.sprint then .sprint
  else .walk

/-- Accelerate towards the velocity that the input asks for. -/
def accelerate (state : MovementKinematicState F) (input : MovementInputIntent F)
    (dtSeconds : F) (tuning : MovementTuning F) : MovementKinematicState F :=
  let speedMultiplier :=
    if input.crouch then tuning.crouchSpeedMultiplier
    else if input.sprint then tuning.sprintSpeedMultiplier
    else ofRat 1
  let targetSpeed := tuning.maxSpeedWalkUnitsPerSecond * speedMultiplier
  let accel :=
    if state.grounded then tuning.accelGroundUnitsPerSecond2 else tuning.accelAirUnitsPerSecond2
  let maxVelocityDelta := accel * dtSeconds
  let deltaX := input.moveX * targetSpeed - state.velocityX
  let deltaY := input.moveY * targetSpeed - state.velocityY
  let deltaMag := sqrt (deltaX * deltaX + deltaY * deltaY)
  if lt floatEpsilon deltaMag then
    let scale := FloatFormat.min (ofRat 1) (maxVelocityDelta / deltaMag)
    { state with
      velocityX := state.velocityX + deltaX * scale
      velocityY := state.velocityY + deltaY * scale }
  else state

/-- Ground friction, applied when the input asks for no movement. -/
def applyFriction (state : MovementKinematicState F) (input : MovementInputIntent F)
    (dtSeconds : F) (tuning : MovementTuning F) : MovementKinematicState F :=
  let hasMovementInput :=
    lt kInputMagnitudeEpsilon (abs input.moveX) || lt kInputMagnitudeEpsilon (abs input.moveY)
  if !hasMovementInput && state.grounded && lt (ofRat 0) tuning.frictionGroundUnitsPerSecond2 then
    let speed := horizontalSpeed state
    if lt kSpeedEpsilon speed then
      let reduced :=
        FloatFormat.max (ofRat 0) (speed - tuning.frictionGroundUnitsPerSecond2 * dtSeconds)
      let scale := if lt floatEpsilon speed then reduced / speed else ofRat 0
      { state with velocityX := state.velocityX * scale, velocityY := state.velocityY * scale }
    else { state with velocityX := ofRat 0, velocityY := ofRat 0 }
  else state

def startJump (state : MovementKinematicState F) (input : MovementInputIntent F)
    (tuning : MovementTuning F) : MovementKinematicState F :=
  if input.jump && state.grounded then
    { state with verticalVelocity := tuning.jumpVelocityUnitsPerSecond, grounded := false }
  else state

/-- Vertical motion: fall until the ground at height zero. -/
def integrateVertical (state : MovementKinematicState F) (dtSeconds : F)
    (tuning : MovementTuning F) : MovementKinematicState F :=
  if !state.grounded then
    let verticalVelocity := state.verticalVelocity - tuning.gravityUnitsPerSecond2 * dtSeconds
    let verticalPosition := state.verticalPosition + verticalVelocity * dtSeconds
    if le verticalPosition (ofRat 0) then
      { state with verticalPosition := ofRat 0, verticalVelocity := ofRat 0, grounded := true }
    else { state with verticalPosition := verticalPosition, verticalVelocity := verticalVelocity }
  else
    { state with
      verticalPosition := ofRat 0
      verticalVelocity := if lt state.verticalVelocity (ofRat 0) then ofRat 0 else state.verticalVelocity }

def stepMovement (previous : MovementKinematicState F) (rawInput : MovementInputIntent F)
    (dtSeconds : F) (rawTuning : MovementTuning F) : MovementKinematicState F :=
  let input := sanitizeMovementInput rawInput
  let tuning := sanitizeMovementTuning rawTuning
  if !isFinite dtSeconds || le dtSeconds (ofRat 0) then
    { previous with moveState := classifyMove previous input }
  else
    let pushed := applyFriction (accelerate previous input dtSeconds tuning) input dtSeconds tuning
    let lifted := integrateVertical (startJump pushed input tuning) dtSeconds tuning
    let moved :=
      { lifted with
        positionX := lifted.positionX + lifted.velocityX * dtSeconds
        positionY := lifted.positionY + lifted.velocityY * dtSeconds }
    { moved with moveState := classifyMove moved input }

/-- The type of `stepMovement`, for what holds whatever the kinematics are. -/
abbrev StepMovement (F : Type) [SingleFloat F] :=
  MovementKinematicState F → MovementInputIntent F → F → MovementTuning F →
    MovementKinematicState F

end DevyFps.Game
