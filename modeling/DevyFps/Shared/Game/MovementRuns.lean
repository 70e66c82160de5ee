import DevyFps.Shared.Game.Movement

/-! Movement over many steps, and what the parts of a step leave alone. -/

namespace DevyFps.Game

open Foundations FloatFormat

variable {F : Type} [SingleFloat F]

/-- The state after one step for each input and the time that it lasts. -/
def runMovement (tuning : MovementTuning F) (start : MovementKinematicState F)
    (moves : List (MovementInputIntent F × F)) : MovementKinematicState F :=
  moves.foldl (fun state move => stepMovement state move.1 move.2 tuning) start

/-- What every step keeps holds after every run. -/
theorem runMovement_invariant {Holds : MovementKinematicState F → Prop}
    {tuning : MovementTuning F}
    (hStep : ∀ state input dt, Holds state → Holds (stepMovement state input dt tuning))
    {start : MovementKinematicState F} (hStart : Holds start)
    (moves : List (MovementInputIntent F × F)) : Holds (runMovement tuning start moves) := by
  induction moves generalizing start with
  | nil => exact hStart
  | cons move rest ih => exact ih (hStep start move.1 move.2 hStart)

/-- The same place, vertical velocity and contact with the ground: at most the velocity on the
plane differs. -/
structure SamePlace (s t : MovementKinematicState F) : Prop where
  positionX : t.positionX = s.positionX
  positionY : t.positionY = s.positionY
  verticalPosition : t.verticalPosition = s.verticalPosition
  verticalVelocity : t.verticalVelocity = s.verticalVelocity
  grounded : t.grounded = s.grounded

/-- The same place and velocity on the plane. -/
structure SameCourse (s t : MovementKinematicState F) : Prop where
  positionX : t.positionX = s.positionX
  positionY : t.positionY = s.positionY
  velocityX : t.velocityX = s.velocityX
  velocityY : t.velocityY = s.velocityY

variable (state : MovementKinematicState F) (input : MovementInputIntent F) (dtSeconds : F)
  (tuning : MovementTuning F)

theorem samePlace_accelerate : SamePlace state (accelerate state input dtSeconds tuning) := by
  unfold accelerate
  extract_lets _ _ _ _ _ _ deltaMag scale
  split
  · exact ⟨rfl, rfl, rfl, rfl, rfl⟩
  · exact ⟨rfl, rfl, rfl, rfl, rfl⟩

theorem samePlace_applyFriction : SamePlace state (applyFriction state input dtSeconds tuning) := by
  unfold applyFriction
  dsimp only
  split
  · split
    · exact ⟨rfl, rfl, rfl, rfl, rfl⟩
    · exact ⟨rfl, rfl, rfl, rfl, rfl⟩
  · exact ⟨rfl, rfl, rfl, rfl, rfl⟩

/-- The velocity that a step gives on the plane, before the body is moved. -/
def pushed (state : MovementKinematicState F) (input : MovementInputIntent F) (dtSeconds : F)
    (tuning : MovementTuning F) : MovementKinematicState F :=
  applyFriction (accelerate state input dtSeconds tuning) input dtSeconds tuning

theorem samePlace_pushed : SamePlace state (pushed state input dtSeconds tuning) :=
  let accelerated := samePlace_accelerate state input dtSeconds tuning
  let slowed := samePlace_applyFriction (accelerate state input dtSeconds tuning) input dtSeconds
    tuning
  { positionX := slowed.positionX.trans accelerated.positionX
    positionY := slowed.positionY.trans accelerated.positionY
    verticalPosition := slowed.verticalPosition.trans accelerated.verticalPosition
    verticalVelocity := slowed.verticalVelocity.trans accelerated.verticalVelocity
    grounded := slowed.grounded.trans accelerated.grounded }

theorem sameCourse_startJump : SameCourse state (startJump state input tuning) := by
  unfold startJump
  split
  · exact ⟨rfl, rfl, rfl, rfl⟩
  · exact ⟨rfl, rfl, rfl, rfl⟩

theorem sameCourse_integrateVertical :
    SameCourse state (integrateVertical state dtSeconds tuning) := by
  unfold integrateVertical
  dsimp only
  split
  · split
    · exact ⟨rfl, rfl, rfl, rfl⟩
    · exact ⟨rfl, rfl, rfl, rfl⟩
  · exact ⟨rfl, rfl, rfl, rfl⟩

/-- What a step of some length does on the plane and what it does to the height. -/
theorem stepMovement_running (hFinite : isFinite dtSeconds = true)
    (hTime : le dtSeconds (ofRat 0) = false) :
    let next := stepMovement state input dtSeconds tuning
    let velocity := pushed state (sanitizeMovementInput input) dtSeconds
      (sanitizeMovementTuning tuning)
    let lifted := integrateVertical
      (startJump velocity (sanitizeMovementInput input) (sanitizeMovementTuning tuning)) dtSeconds
      (sanitizeMovementTuning tuning)
    (next.velocityX = velocity.velocityX ∧ next.velocityY = velocity.velocityY ∧
      next.positionX = state.positionX + next.velocityX * dtSeconds ∧
      next.positionY = state.positionY + next.velocityY * dtSeconds) ∧
      next.verticalPosition = lifted.verticalPosition ∧
      next.verticalVelocity = lifted.verticalVelocity ∧ next.grounded = lifted.grounded := by
  intro next velocity lifted
  have hPlace := samePlace_pushed state (sanitizeMovementInput input) dtSeconds
    (sanitizeMovementTuning tuning)
  have hJump := sameCourse_startJump velocity (sanitizeMovementInput input)
    (sanitizeMovementTuning tuning)
  have hFall := sameCourse_integrateVertical
    (startJump velocity (sanitizeMovementInput input) (sanitizeMovementTuning tuning)) dtSeconds
    (sanitizeMovementTuning tuning)
  have hNext : next =
      { lifted with
        positionX := lifted.positionX + lifted.velocityX * dtSeconds
        positionY := lifted.positionY + lifted.velocityY * dtSeconds
        moveState := next.moveState } := by
    simp only [next, stepMovement, hFinite, hTime, Bool.not_true, Bool.or_self,
      Bool.false_eq_true, if_false]
    rfl
  have hX : lifted.positionX = state.positionX :=
    hFall.positionX.trans (hJump.positionX.trans hPlace.positionX)
  have hY : lifted.positionY = state.positionY :=
    hFall.positionY.trans (hJump.positionY.trans hPlace.positionY)
  rw [hNext]
  exact ⟨⟨hFall.velocityX.trans hJump.velocityX, hFall.velocityY.trans hJump.velocityY,
    by rw [hX], by rw [hY]⟩, rfl, rfl, rfl⟩

/-- A step of no length changes only the label. -/
theorem stepMovement_idle (hTime : le dtSeconds (ofRat 0) = true) :
    stepMovement state input dtSeconds tuning =
      { state with moveState := classifyMove state (sanitizeMovementInput input) } := by
  simp [stepMovement, hTime]

end DevyFps.Game
