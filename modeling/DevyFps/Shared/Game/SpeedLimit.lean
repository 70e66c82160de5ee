import DevyFps.Foundations.Kinematics
import DevyFps.Foundations.RealFormat
import DevyFps.Shared.Game.MovementRuns

/-! The greatest horizontal speed. Acceleration moves the velocity part of the way to one that
an input may ask for and friction shortens it, so it never leaves the disc of those. -/

namespace DevyFps.Game

open Foundations Kinematics

/-! What sanitizing leaves of a tuning and of an input. -/

/-- A sanitized value is positive if its fallback is. -/
theorem sanitizePositive_pos (value : ℝ) {fallback : ℝ} (h : 0 < fallback) :
    0 < sanitizePositive value fallback := by
  unfold sanitizePositive
  simp only [FloatFormat.isFinite_real, FloatFormat.le_real, FloatFormat.ofRat_real, Rat.cast_zero,
    Bool.not_true, Bool.false_or, decide_eq_true_eq]
  split_ifs with hValue
  · exact h
  · exact not_le.mp hValue

theorem sanitizeNonNegative_nonneg (value : ℝ) {fallback : ℝ} (h : 0 ≤ fallback) :
    0 ≤ sanitizeNonNegative value fallback := by
  unfold sanitizeNonNegative
  simp only [FloatFormat.isFinite_real, FloatFormat.lt_real, FloatFormat.ofRat_real, Rat.cast_zero,
    Bool.not_true, Bool.false_or, decide_eq_true_eq]
  split_ifs with hValue
  · exact h
  · exact not_lt.mp hValue

/-- A tuning whose values make sense. -/
structure MovementTuning.Sane (tuning : MovementTuning ℝ) : Prop where
  accelGround : 0 < tuning.accelGroundUnitsPerSecond2
  accelAir : 0 < tuning.accelAirUnitsPerSecond2
  friction : 0 ≤ tuning.frictionGroundUnitsPerSecond2
  walk : 0 < tuning.maxSpeedWalkUnitsPerSecond
  sprint : 0 < tuning.sprintSpeedMultiplier
  crouch : 0 < tuning.crouchSpeedMultiplier
  jump : 0 < tuning.jumpVelocityUnitsPerSecond
  gravity : 0 < tuning.gravityUnitsPerSecond2

/-- A sanitized tuning is sane. -/
theorem sane_sanitizeMovementTuning (tuning : MovementTuning ℝ) :
    (sanitizeMovementTuning tuning).Sane where
  accelGround := sanitizePositive_pos _ (by norm_num)
  accelAir := sanitizePositive_pos _ (by norm_num)
  friction := sanitizeNonNegative_nonneg _ (by norm_num)
  walk := sanitizePositive_pos _ (by norm_num)
  sprint := sanitizePositive_pos _ (by norm_num)
  crouch := sanitizePositive_pos _ (by norm_num)
  jump := sanitizePositive_pos _ (by norm_num)
  gravity := sanitizePositive_pos _ (by norm_num)

theorem lengthSq_div (x y length : ℝ) :
    lengthSq (x / length) (y / length) = lengthSq x y / (length * length) := by
  unfold lengthSq
  rw [div_mul_div_comm, div_mul_div_comm, ← add_div]

/-- A normalized direction is no longer than one. -/
theorem normalizeOrZero_length (x y : ℝ) :
    lengthSq (normalizeOrZero x y).1 (normalizeOrZero x y).2 ≤ 1 := by
  unfold normalizeOrZero
  extract_lets magSq mag
  have hMag : mag = Real.sqrt (lengthSq x y) := rfl
  have hSquare : mag * mag = lengthSq x y := by
    rw [hMag]
    exact Real.mul_self_sqrt (lengthSq_nonneg x y)
  split
  · simp [lengthSq]
  · split
    · rename_i hLong
      have hOne : (1 : ℝ) < mag := by simpa using hLong
      change lengthSq (x / mag) (y / mag) ≤ 1
      rw [lengthSq_div, hSquare, div_self]
      exact ne_of_gt (hSquare ▸ mul_pos (one_pos.trans hOne) (one_pos.trans hOne))
    · rename_i hShort
      have hOne : mag ≤ 1 := by simpa using hShort
      change lengthSq x y ≤ 1
      rw [← hSquare]
      exact mul_le_one₀ hOne (hMag ▸ Real.sqrt_nonneg _) hOne

/-- The speed that an input asks for when it moves at full length. -/
noncomputable def targetSpeed (input : MovementInputIntent ℝ) (tuning : MovementTuning ℝ) : ℝ :=
  tuning.maxSpeedWalkUnitsPerSecond *
    (if input.crouch then tuning.crouchSpeedMultiplier
    else if input.sprint then tuning.sprintSpeedMultiplier else 1)

/-- The greatest of the speeds that inputs ask for. -/
noncomputable def speedLimit (tuning : MovementTuning ℝ) : ℝ :=
  tuning.maxSpeedWalkUnitsPerSecond *
    max 1 (max tuning.sprintSpeedMultiplier tuning.crouchSpeedMultiplier)

variable {tuning : MovementTuning ℝ} {state : MovementKinematicState ℝ} {dtSeconds : ℝ}

/-- No input asks for more than the limit. -/
theorem targetSpeed_bounds (hSane : tuning.Sane) (input : MovementInputIntent ℝ) :
    0 ≤ targetSpeed input tuning ∧ targetSpeed input tuning ≤ speedLimit tuning := by
  have hWalk := hSane.walk.le
  unfold targetSpeed speedLimit
  split_ifs
  · exact ⟨mul_nonneg hWalk hSane.crouch.le,
      mul_le_mul_of_nonneg_left ((le_max_right _ _).trans (le_max_right _ _)) hWalk⟩
  · exact ⟨mul_nonneg hWalk hSane.sprint.le,
      mul_le_mul_of_nonneg_left ((le_max_left _ _).trans (le_max_right _ _)) hWalk⟩
  · exact ⟨mul_nonneg hWalk zero_le_one, mul_le_mul_of_nonneg_left (le_max_left _ _) hWalk⟩

/-- The velocity that a sanitized input asks for is within the limit. -/
theorem target_length (hSane : tuning.Sane) (rawInput : MovementInputIntent ℝ) :
    lengthSq ((sanitizeMovementInput rawInput).moveX * targetSpeed rawInput tuning)
      ((sanitizeMovementInput rawInput).moveY * targetSpeed rawInput tuning) ≤
        speedLimit tuning ^ 2 := by
  obtain ⟨hNonneg, hLimit⟩ := targetSpeed_bounds hSane rawInput
  have hInput : lengthSq (sanitizeMovementInput rawInput).moveX
      (sanitizeMovementInput rawInput).moveY ≤ 1 :=
    normalizeOrZero_length (sanitizeAxis rawInput.moveX) (sanitizeAxis rawInput.moveY)
  calc lengthSq ((sanitizeMovementInput rawInput).moveX * targetSpeed rawInput tuning)
        ((sanitizeMovementInput rawInput).moveY * targetSpeed rawInput tuning)
      = lengthSq (sanitizeMovementInput rawInput).moveX (sanitizeMovementInput rawInput).moveY *
          targetSpeed rawInput tuning ^ 2 := by
        unfold lengthSq
        ring
    _ ≤ 1 * targetSpeed rawInput tuning ^ 2 := mul_le_mul_of_nonneg_right hInput (sq_nonneg _)
    _ = targetSpeed rawInput tuning ^ 2 := one_mul _
    _ ≤ speedLimit tuning ^ 2 := pow_le_pow_left₀ hNonneg hLimit 2

/-! The parts of a step that change the velocity. -/

/-- Acceleration moves the velocity a share of the way to the target. -/
theorem accelerate_share (state : MovementKinematicState ℝ) (hSane : tuning.Sane)
    (hTime : 0 < dtSeconds) (input : MovementInputIntent ℝ) :
    ∃ share, 0 ≤ share ∧ share ≤ 1 ∧
      (accelerate state input dtSeconds tuning).velocityX = state.velocityX +
        (input.moveX * targetSpeed input tuning - state.velocityX) * share ∧
      (accelerate state input dtSeconds tuning).velocityY = state.velocityY +
        (input.moveY * targetSpeed input tuning - state.velocityY) * share := by
  have hTarget : tuning.maxSpeedWalkUnitsPerSecond *
      (if input.crouch then tuning.crouchSpeedMultiplier
      else if input.sprint then tuning.sprintSpeedMultiplier else FloatFormat.ofRat 1) =
        targetSpeed input tuning := by
    unfold targetSpeed
    rw [FloatFormat.ofRat_real, Rat.cast_one]
  unfold accelerate
  rw [← hTarget]
  extract_lets _ _ accel maxVelocityDelta deltaX deltaY deltaMag scale
  split
  · have hAccel : 0 < accel := by
      change 0 < if state.grounded then tuning.accelGroundUnitsPerSecond2 else
        tuning.accelAirUnitsPerSecond2
      split
      · exact hSane.accelGround
      · exact hSane.accelAir
    have hScale : scale = min 1 (accel * dtSeconds / deltaMag) := by
      change FloatFormat.min (FloatFormat.ofRat 1) (accel * dtSeconds / deltaMag) = _
      rw [FloatFormat.min_real, FloatFormat.ofRat_real, Rat.cast_one]
    refine ⟨scale, ?_, ?_, rfl, rfl⟩
    · rw [hScale]
      exact le_min zero_le_one (div_nonneg (mul_pos hAccel hTime).le (Real.sqrt_nonneg _))
    · rw [hScale]
      exact min_le_left _ _
  · refine ⟨0, le_rfl, zero_le_one, ?_, ?_⟩
    · rw [mul_zero, add_zero]
    · rw [mul_zero, add_zero]

/-- Friction shortens the velocity and keeps its direction. -/
theorem applyFriction_scale (state : MovementKinematicState ℝ) (hSane : tuning.Sane)
    (hTime : 0 < dtSeconds) (input : MovementInputIntent ℝ) :
    ∃ scale, 0 ≤ scale ∧ scale ≤ 1 ∧
      (applyFriction state input dtSeconds tuning).velocityX = state.velocityX * scale ∧
      (applyFriction state input dtSeconds tuning).velocityY = state.velocityY * scale := by
  unfold applyFriction
  extract_lets hasMovementInput speed reduced scale
  have hSpeed : 0 ≤ speed := Real.sqrt_nonneg _
  have hReduced : reduced = max 0 (speed - tuning.frictionGroundUnitsPerSecond2 * dtSeconds) := by
    change FloatFormat.max (FloatFormat.ofRat 0) _ = _
    rw [FloatFormat.max_real, FloatFormat.ofRat_real, Rat.cast_zero]
  have hReducedLe : reduced ≤ speed := by
    rw [hReduced]
    exact max_le hSpeed (sub_le_self _ (mul_nonneg hSane.friction hTime.le))
  have hScale : 0 ≤ scale ∧ scale ≤ 1 := by
    change 0 ≤ (if _ then reduced / speed else _) ∧ (if _ then reduced / speed else _) ≤ 1
    split
    · exact ⟨div_nonneg (hReduced ▸ le_max_left _ _) hSpeed, div_le_one_of_le₀ hReducedLe hSpeed⟩
    · simp
  split
  · split
    · exact ⟨scale, hScale.1, hScale.2, rfl, rfl⟩
    · exact ⟨0, le_rfl, zero_le_one, by simp, by simp⟩
  · exact ⟨1, zero_le_one, le_rfl, (mul_one _).symm, (mul_one _).symm⟩

/-- A step pushes nobody above the limit who was not above it. -/
theorem lengthSq_pushed (hSane : tuning.Sane) (hTime : 0 < dtSeconds)
    (rawInput : MovementInputIntent ℝ)
    (h : lengthSq state.velocityX state.velocityY ≤ speedLimit tuning ^ 2) :
    lengthSq (pushed state (sanitizeMovementInput rawInput) dtSeconds tuning).velocityX
      (pushed state (sanitizeMovementInput rawInput) dtSeconds tuning).velocityY ≤
        speedLimit tuning ^ 2 := by
  obtain ⟨share, hShare, hShareLe, hX, hY⟩ :=
    accelerate_share state hSane hTime (sanitizeMovementInput rawInput)
  obtain ⟨scale, hScale, hScaleLe, hX', hY'⟩ := applyFriction_scale
    (accelerate state (sanitizeMovementInput rawInput) dtSeconds tuning) hSane hTime
    (sanitizeMovementInput rawInput)
  unfold pushed
  rw [hX', hY', hX, hY]
  exact lengthSq_scaled_le hScale hScaleLe
    (lengthSq_between_le hShare hShareLe h (target_length hSane rawInput))

/-- No step leaves the disc of the speed limit, however long it is. -/
theorem lengthSq_stepMovement (rawTuning : MovementTuning ℝ) (state : MovementKinematicState ℝ)
    (input : MovementInputIntent ℝ) (dtSeconds : ℝ)
    (h : lengthSq state.velocityX state.velocityY ≤
      speedLimit (sanitizeMovementTuning rawTuning) ^ 2) :
    lengthSq (stepMovement state input dtSeconds rawTuning).velocityX
      (stepMovement state input dtSeconds rawTuning).velocityY ≤
        speedLimit (sanitizeMovementTuning rawTuning) ^ 2 := by
  rcases le_or_gt dtSeconds 0 with hIdle | hTime
  · rw [stepMovement_idle _ _ _ _ (by simp [hIdle])]
    exact h
  · obtain ⟨⟨hX, hY, -, -⟩, -⟩ := stepMovement_running state input dtSeconds rawTuning rfl
      (by simp [hTime])
    rw [hX, hY]
    exact lengthSq_pushed (sane_sanitizeMovementTuning rawTuning) hTime input h

theorem speedLimit_nonneg (hSane : tuning.Sane) : 0 ≤ speedLimit tuning :=
  mul_nonneg hSane.walk.le (zero_le_one.trans (le_max_left _ _))

/-- How far a step moves on the plane. -/
noncomputable def displacement (before after : MovementKinematicState ℝ) : ℝ :=
  Real.sqrt (lengthSq (after.positionX - before.positionX) (after.positionY - before.positionY))

/-- A step moves a player by its speed and time. -/
theorem displacement_le {limit : ℝ} (hLimit : 0 ≤ limit) (rawTuning : MovementTuning ℝ)
    (input : MovementInputIntent ℝ)
    (h : lengthSq (stepMovement state input dtSeconds rawTuning).velocityX
      (stepMovement state input dtSeconds rawTuning).velocityY ≤ limit ^ 2) :
    displacement state (stepMovement state input dtSeconds rawTuning) ≤
      limit * max dtSeconds 0 := by
  unfold displacement
  rcases le_or_gt dtSeconds 0 with hIdle | hTime
  · rw [stepMovement_idle _ _ _ _ (by simp [hIdle]), max_eq_right hIdle]
    simp [lengthSq]
  · obtain ⟨⟨-, -, hX, hY⟩, -⟩ := stepMovement_running state input dtSeconds rawTuning rfl
      (by simp [hTime])
    rw [hX, hY, max_eq_left hTime.le, add_sub_cancel_left, add_sub_cancel_left]
    apply Real.sqrt_le_iff.mpr
    refine ⟨mul_nonneg hLimit hTime.le, ?_⟩
    rw [mul_pow]
    refine le_of_eq_of_le ?_ (mul_le_mul_of_nonneg_right h (sq_nonneg dtSeconds))
    unfold lengthSq
    ring

/-- Whatever inputs and times are applied to a character at rest, its speed stays within the
limit, and so does the way of the next step for its length. -/
theorem speed_limited (tuning : MovementTuning ℝ) (start : MovementKinematicState ℝ)
    (hRest : start.velocityX = 0 ∧ start.velocityY = 0)
    (moves : List (MovementInputIntent ℝ × ℝ)) (input : MovementInputIntent ℝ) (dtSeconds : ℝ) :
    let limit := speedLimit (sanitizeMovementTuning tuning)
    let state := runMovement tuning start moves
    horizontalSpeed state ≤ limit ∧
      displacement state (stepMovement state input dtSeconds tuning) ≤ limit * max dtSeconds 0 := by
  intro limit state
  have hLimit : 0 ≤ limit := speedLimit_nonneg (sane_sanitizeMovementTuning tuning)
  have hStart : lengthSq start.velocityX start.velocityY ≤ limit ^ 2 := by
    rw [hRest.1, hRest.2]
    simpa [lengthSq] using sq_nonneg limit
  have hState : lengthSq state.velocityX state.velocityY ≤ limit ^ 2 :=
    runMovement_invariant (lengthSq_stepMovement tuning) hStart moves
  constructor
  · exact Real.sqrt_le_iff.mpr ⟨hLimit, hState⟩
  · exact displacement_le hLimit tuning input
      (lengthSq_stepMovement tuning state input dtSeconds hState)

/-- A sprint from the default state with the default tuning stays within 9 units a second. -/
theorem speed_limited_sprint :
    let input : MovementInputIntent ℝ := { moveX := 1, moveY := 1, sprint := true }
    let state := runMovement {} {} [(input, 1), (input, -1)]
    horizontalSpeed state ≤ 9 ∧
      displacement state (stepMovement state input 2 {}) ≤ 18 := by
  intro input state
  have hLimit : speedLimit (sanitizeMovementTuning ({} : MovementTuning ℝ)) = 9 := by
    norm_num [speedLimit, sanitizeMovementTuning, sanitizePositive]
  obtain ⟨hSpeed, hWay⟩ := speed_limited {} {} (by simp) [(input, 1), (input, -1)] input 2
  rw [hLimit] at hSpeed hWay
  exact ⟨hSpeed, hWay.trans_eq (by norm_num)⟩

end DevyFps.Game
