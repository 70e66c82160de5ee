import DevyFps.Shared.Game.Movement
import DevyFps.Shared.Net.JsonNumbers

/-! The client's guess at its own movement: inputs are applied at once, and the server's
answer is taken over with the inputs that it has not seen yet applied again. The step of the
kinematics is an argument; a snapshot is consumed with `stepMovement`. -/

namespace DevyFps.Client

open Foundations FloatFormat Game Net

variable {F : Type} [SingleFloat F]

structure PredictionConfig (F : Type) [SingleFloat F] where
  movementTuning : MovementTuning F := {}
  maxPendingInputs : Nat := 256

structure PredictedMotionState (F : Type) [SingleFloat F] where
  positionX : F := ofRat 0
  positionY : F := ofRat 0
  velocityX : F := ofRat 0
  velocityY : F := ofRat 0
  speed : F := ofRat 0
  grounded : Bool := true
  moveState : MoveState := .idle
  verticalPosition : F := ofRat 0
  verticalVelocity : F := ofRat 0
  lastInputSeq : Nat := 0

structure SnapshotMotionState (F : Type) [SingleFloat F] where
  playerId : Nat := 0
  positionX : F := ofRat 0
  positionY : F := ofRat 0
  velocityX : F := ofRat 0
  velocityY : F := ofRat 0
  speed : F := ofRat 0
  grounded : Bool := true
  moveState : MoveState := .idle
  verticalPosition : F := ofRat 0
  verticalVelocity : F := ofRat 0
  lastProcessedInputSeq : Nat := 0

structure ReconciliationResult (F : Type) [SingleFloat F] where
  applied : Bool := false
  ackedInputSeq : Nat := 0
  replayedInputs : Nat := 0
  correctionDistance : F := ofRat 0

/-- `dt` is a number of nanoseconds. -/
structure PendingInput (F : Type) [SingleFloat F] where
  inputSeq : Nat := 0
  moveX : F := ofRat 0
  moveY : F := ofRat 0
  jump : Bool := false
  fire : Bool := false
  sprint : Bool := false
  crouch : Bool := false
  dt : Int := 0

structure PredictionReconciler (F : Type) [SingleFloat F] where
  config : PredictionConfig F
  nextInputSeq : Nat := 1
  state : PredictedMotionState F := {}
  pendingInputs : List (PendingInput F) := []

def kDefaultMaxPendingInputs : Nat := 256

def parseMoveState (player : Document F) : Except JsonError MoveState := do
  if !player.contains "move_state" then return .idle
  let value ← player.index "move_state"
  if !value.isString then return .idle
  let moveState ← value.getString
  if moveState = "walk" then return .walk
  if moveState = "sprint" then return .sprint
  if moveState = "crouch" then return .crouch
  if moveState = "air" then return .air
  return .idle

namespace PredictionReconciler

def sanitizeConfig (config : PredictionConfig F) : PredictionConfig F where
  movementTuning := sanitizeMovementTuning config.movementTuning
  maxPendingInputs :=
    if config.maxPendingInputs = 0 then kDefaultMaxPendingInputs else config.maxPendingInputs

def create (config : PredictionConfig F) : PredictionReconciler F where
  config := sanitizeConfig config

def reset (s : PredictionReconciler F) : PredictionReconciler F := { config := s.config }

def applyInput (step : StepMovement F) (tuning : MovementTuning F)
    (state : PredictedMotionState F) (input : PendingInput F) : PredictedMotionState F :=
  let dtSeconds : SingleFloat.Double F := ofInt input.dt / ofRat 1000000000
  let stepped := step
    { positionX := state.positionX, positionY := state.positionY, velocityX := state.velocityX,
      velocityY := state.velocityY, verticalPosition := state.verticalPosition,
      verticalVelocity := state.verticalVelocity, grounded := state.grounded,
      moveState := state.moveState }
    { moveX := input.moveX, moveY := input.moveY, jump := input.jump, sprint := input.sprint,
      crouch := input.crouch }
    (SingleFloat.narrow dtSeconds) tuning
  { positionX := stepped.positionX
    positionY := stepped.positionY
    velocityX := stepped.velocityX
    velocityY := stepped.velocityY
    speed := horizontalSpeed stepped
    grounded := stepped.grounded
    moveState := stepped.moveState
    verticalPosition := stepped.verticalPosition
    verticalVelocity := stepped.verticalVelocity
    lastInputSeq := max state.lastInputSeq input.inputSeq }

/-- The sequence number of the argument is overwritten; the counter is a `uint32_t`. -/
def queueLocalInput (step : StepMovement F) (s : PredictionReconciler F)
    (input : PendingInput F) : Nat × PredictionReconciler F :=
  let input := { input with inputSeq := s.nextInputSeq }
  let kept :=
    if s.config.maxPendingInputs ≤ s.pendingInputs.length then s.pendingInputs.tail
    else s.pendingInputs
  (input.inputSeq,
    { s with
      nextInputSeq := (s.nextInputSeq + 1) % 2 ^ 32
      pendingInputs := kept ++ [input]
      state := applyInput step s.config.movementTuning s.state input })

/-- The server's state, taken over as the predicted one. -/
def rolledBack (authoritative : SnapshotMotionState F) : PredictedMotionState F where
  positionX := authoritative.positionX
  positionY := authoritative.positionY
  velocityX := authoritative.velocityX
  velocityY := authoritative.velocityY
  speed := authoritative.speed
  grounded := authoritative.grounded
  moveState := authoritative.moveState
  verticalPosition := authoritative.verticalPosition
  verticalVelocity := authoritative.verticalVelocity
  lastInputSeq := authoritative.lastProcessedInputSeq

def reconcile (step : StepMovement F) (s : PredictionReconciler F)
    (authoritative : SnapshotMotionState F) : ReconciliationResult F × PredictionReconciler F :=
  let pendingInputs := s.pendingInputs.dropWhile fun input =>
    input.inputSeq ≤ authoritative.lastProcessedInputSeq
  let state :=
    pendingInputs.foldl (applyInput step s.config.movementTuning) (rolledBack authoritative)
  let dx := SingleFloat.widen (state.positionX - s.state.positionX)
  let dy := SingleFloat.widen (state.positionY - s.state.positionY)
  ({ applied := true
     ackedInputSeq := authoritative.lastProcessedInputSeq
     replayedInputs := pendingInputs.length
     correctionDistance := SingleFloat.narrow (sqrt (dx * dx + dy * dy)) },
    { s with pendingInputs, state })

/-- The state of the player that was found; `none` where a value is missing or out of range. -/
def readPlayer (player : Document F) (playerId : Nat) :
    Except JsonError (Option (SnapshotMotionState F)) := do
  let position ← player.index "position"
  let velocity ← player.index "velocity"
  if !position.isObject || !velocity.isObject then return none
  if !position.contains "x" || !position.contains "y" || !velocity.contains "x" ||
      !velocity.contains "y" then
    return none
  let positionX ← jsonToFloat (← position.index "x")
  let positionY ← jsonToFloat (← position.index "y")
  let velocityX ← jsonToFloat (← velocity.index "x")
  let velocityY ← jsonToFloat (← velocity.index "y")
  let lastProcessedInputSeq ← jsonToU32 (← player.index "last_processed_input_seq")
  let (some positionX, some positionY, some velocityX, some velocityY,
      some lastProcessedInputSeq) :=
      (positionX, positionY, velocityX, velocityY, lastProcessedInputSeq)
    | return none
  let speed ← jsonToFloat (← player.valueJson "speed")
  let grounded ← readGrounded player
  let moveState ← parseMoveState player
  let verticalPosition ← jsonToFloat (← player.valueJson "vertical_position")
  let verticalVelocity ← jsonToFloat (← player.valueJson "vertical_velocity")
  return some
    { playerId, positionX, positionY, velocityX, velocityY
      speed := speed.getD (sqrt (velocityX * velocityX + velocityY * velocityY))
      grounded, moveState
      verticalPosition := verticalPosition.getD (ofRat 0)
      verticalVelocity := verticalVelocity.getD (ofRat 0)
      lastProcessedInputSeq }
where
  readGrounded (player : Document F) : Except JsonError Bool := do
    if !player.contains "grounded" then return true
    let value ← player.index "grounded"
    if value.isBoolean then value.getBool else return true

/-- The loop over the players of a snapshot. -/
def findPlayer (playerId : Nat) :
    List (Document F) → Except JsonError (Option (SnapshotMotionState F))
  | [] => .ok none
  | player :: rest => do
      if !player.isObject then return ← findPlayer playerId rest
      if !player.contains "player_id" || !player.contains "position" ||
          !player.contains "velocity" || !player.contains "last_processed_input_seq" then
        return ← findPlayer playerId rest
      let parsedPlayerId ← jsonToU32 (← player.index "player_id")
      if parsedPlayerId ≠ some playerId then return ← findPlayer playerId rest
      readPlayer player playerId

def extractPlayerState (snapshotPayload : Document F) (playerId : Nat) :
    Except JsonError (Option (SnapshotMotionState F)) := do
  if !snapshotPayload.isObject || !snapshotPayload.contains "players" then return none
  let players ← snapshotPayload.index "players"
  if !players.isArray then return none
  findPlayer playerId players.elements

def consumeSnapshot (s : PredictionReconciler F) (snapshotPayload : Document F)
    (localPlayerId : Nat) :
    Except JsonError (Option (ReconciliationResult F) × PredictionReconciler F) := do
  let some playerState ← extractPlayerState snapshotPayload localPlayerId | return (none, s)
  let reconciled := s.reconcile stepMovement playerState
  return (some reconciled.1, reconciled.2)

end PredictionReconciler

end DevyFps.Client
