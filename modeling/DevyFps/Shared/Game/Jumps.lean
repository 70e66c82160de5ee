import DevyFps.Shared.Game.SpeedLimit

/-! Jumps. A character is on the ground at rest or above it with at most the energy that a jump
gives; each step in the air loses energy, so it ends on the ground. -/

namespace DevyFps.Game

open Foundations Kinematics

/-- On the ground, at height zero and without vertical velocity. -/
structure Standing (state : MovementKinematicState ℝ) : Prop where
  grounded : state.grounded = true
  position : state.verticalPosition = 0
  velocity : state.verticalVelocity = 0

/-- Above the ground with this height and vertical velocity. -/
structure Airborne (state : MovementKinematicState ℝ) (body : ℝ × ℝ) : Prop where
  grounded : state.grounded = false
  body_eq : (state.verticalPosition, state.verticalVelocity) = body
  above : 0 < body.1

/-- The outcome of one step of a fall: on the ground unless the body is still above it. -/
def Fell (tuning : MovementTuning ℝ) (dtSeconds : ℝ) (body : ℝ × ℝ)
    (state : MovementKinematicState ℝ) : Prop :=
  (fall tuning.gravityUnitsPerSecond2 dtSeconds body).1 ≤ 0 ∧ Standing state ∨
    Airborne state (fall tuning.gravityUnitsPerSecond2 dtSeconds body)

variable {tuning : MovementTuning ℝ} {state : MovementKinematicState ℝ} {dtSeconds : ℝ}

/-- A player in the air falls. -/
theorem integrateVertical_airborne (h : state.grounded = false) :
    Fell tuning dtSeconds (state.verticalPosition, state.verticalVelocity)
      (integrateVertical state dtSeconds tuning) := by
  unfold integrateVertical
  rw [h, Bool.not_false, if_pos rfl]
  extract_lets verticalVelocity verticalPosition
  simp only [FloatFormat.le_real, FloatFormat.ofRat_real, Rat.cast_zero, decide_eq_true_eq]
  split
  · rename_i hBelow
    exact Or.inl ⟨hBelow, rfl, rfl, rfl⟩
  · rename_i hAbove
    exact Or.inr ⟨rfl, rfl, not_le.mp hAbove⟩

/-- A player on the ground stays there. -/
theorem integrateVertical_standing (h : Standing state) :
    Standing (integrateVertical state dtSeconds tuning) := by
  unfold integrateVertical
  rw [h.grounded, Bool.not_true, if_neg Bool.false_ne_true]
  exact ⟨rfl, by simp, by simp [h.velocity]⟩

/-- A jump from the ground is a fall that begins with the speed of the jump. -/
theorem jump_standing {input : MovementInputIntent ℝ} (h : Standing state)
    (hJump : input.jump = true) :
    Fell tuning dtSeconds (0, tuning.jumpVelocityUnitsPerSecond)
      (integrateVertical (startJump state input tuning) dtSeconds tuning) := by
  have hUp : (startJump state input tuning).grounded = false ∧
      ((startJump state input tuning).verticalPosition,
        (startJump state input tuning).verticalVelocity) =
          (0, tuning.jumpVelocityUnitsPerSecond) := by
    unfold startJump
    rw [hJump, h.grounded, Bool.and_self, if_pos rfl]
    exact ⟨rfl, Prod.ext h.position rfl⟩
  rw [← hUp.2]
  exact integrateVertical_airborne hUp.1

theorem Standing.congr {s t : MovementKinematicState ℝ} (h : Standing s)
    (hPosition : t.verticalPosition = s.verticalPosition)
    (hVelocity : t.verticalVelocity = s.verticalVelocity) (hGround : t.grounded = s.grounded) :
    Standing t :=
  ⟨hGround.trans h.grounded, hPosition.trans h.position, hVelocity.trans h.velocity⟩

theorem Fell.congr {s t : MovementKinematicState ℝ} {body : ℝ × ℝ}
    (h : Fell tuning dtSeconds body s) (hPosition : t.verticalPosition = s.verticalPosition)
    (hVelocity : t.verticalVelocity = s.verticalVelocity) (hGround : t.grounded = s.grounded) :
    Fell tuning dtSeconds body t := by
  rcases h with ⟨hBelow, hStanding⟩ | hAirborne
  · exact Or.inl ⟨hBelow, hStanding.congr hPosition hVelocity hGround⟩
  · refine Or.inr ⟨hGround.trans hAirborne.grounded, ?_, hAirborne.above⟩
    rw [hPosition, hVelocity]
    exact hAirborne.body_eq

/-- A step of some length leaves a character on the ground there, or it jumps and falls. -/
theorem stepMovement_standing (hTime : 0 < dtSeconds) (h : Standing state)
    (input : MovementInputIntent ℝ) (rawTuning : MovementTuning ℝ) :
    Standing (stepMovement state input dtSeconds rawTuning) ∨
      Fell (sanitizeMovementTuning rawTuning) dtSeconds
        (0, (sanitizeMovementTuning rawTuning).jumpVelocityUnitsPerSecond)
        (stepMovement state input dtSeconds rawTuning) := by
  obtain ⟨-, hPosition, hVelocity, hGround⟩ :=
    stepMovement_running state input dtSeconds rawTuning rfl (by simp [hTime])
  have hPlace := samePlace_pushed state (sanitizeMovementInput input) dtSeconds
    (sanitizeMovementTuning rawTuning)
  have hPushed := h.congr hPlace.verticalPosition hPlace.verticalVelocity hPlace.grounded
  cases hJump : (sanitizeMovementInput input).jump with
  | false =>
      refine Or.inl (Standing.congr ?_ hPosition hVelocity hGround)
      apply integrateVertical_standing
      unfold startJump
      rw [hJump, Bool.false_and, if_neg Bool.false_ne_true]
      exact hPushed
  | true =>
      refine Or.inr (Fell.congr ?_ hPosition hVelocity hGround)
      exact jump_standing hPushed hJump

/-- A step of some length lets a character in the air fall, whatever the input. -/
theorem stepMovement_airborne (hTime : 0 < dtSeconds) (h : state.grounded = false)
    (input : MovementInputIntent ℝ) (rawTuning : MovementTuning ℝ) :
    Fell (sanitizeMovementTuning rawTuning) dtSeconds
      (state.verticalPosition, state.verticalVelocity)
      (stepMovement state input dtSeconds rawTuning) := by
  obtain ⟨-, hPosition, hVelocity, hGround⟩ :=
    stepMovement_running state input dtSeconds rawTuning rfl (by simp [hTime])
  have hPlace := samePlace_pushed state (sanitizeMovementInput input) dtSeconds
    (sanitizeMovementTuning rawTuning)
  have hPushed := hPlace.grounded.trans h
  have hStay : startJump (pushed state (sanitizeMovementInput input) dtSeconds
      (sanitizeMovementTuning rawTuning)) (sanitizeMovementInput input)
      (sanitizeMovementTuning rawTuning) = pushed state (sanitizeMovementInput input) dtSeconds
        (sanitizeMovementTuning rawTuning) := by
    unfold startJump
    rw [hPushed, Bool.and_false, if_neg Bool.false_ne_true]
  refine Fell.congr ?_ hPosition hVelocity hGround
  rw [hStay, ← hPlace.verticalPosition, ← hPlace.verticalVelocity]
  exact integrateVertical_airborne hPushed

/-! Every run. -/

/-- Standing, or in the air with at most the energy of a jump. -/
def Jumping (tuning : MovementTuning ℝ) (state : MovementKinematicState ℝ) : Prop :=
  Standing state ∨ ∃ body, Airborne state body ∧
    energy tuning.gravityUnitsPerSecond2 body ≤
      energy tuning.gravityUnitsPerSecond2 (0, tuning.jumpVelocityUnitsPerSecond)

/-- A fall that begins with no more energy than a jump stays within one. -/
theorem Fell.jumping {body : ℝ × ℝ} (h : Fell tuning dtSeconds body state)
    (hEnergy : energy tuning.gravityUnitsPerSecond2 body ≤
      energy tuning.gravityUnitsPerSecond2 (0, tuning.jumpVelocityUnitsPerSecond)) :
    Jumping tuning state := by
  rcases h with ⟨-, hStanding⟩ | hAirborne
  · exact Or.inl hStanding
  · exact Or.inr ⟨_, hAirborne, (energy_fall_le _ _ body).trans hEnergy⟩

/-- Every step keeps a player within a jump. -/
theorem jumping_stepMovement (rawTuning : MovementTuning ℝ) (state : MovementKinematicState ℝ)
    (input : MovementInputIntent ℝ) (dtSeconds : ℝ)
    (h : Jumping (sanitizeMovementTuning rawTuning) state) :
    Jumping (sanitizeMovementTuning rawTuning) (stepMovement state input dtSeconds rawTuning) := by
  rcases le_or_gt dtSeconds 0 with hIdle | hTime
  · rw [stepMovement_idle _ _ _ _ (by simp [hIdle])]
    rcases h with hStanding | ⟨body, hAirborne, hEnergy⟩
    · exact Or.inl ⟨hStanding.grounded, hStanding.position, hStanding.velocity⟩
    · exact Or.inr ⟨body, ⟨hAirborne.grounded, hAirborne.body_eq, hAirborne.above⟩, hEnergy⟩
  · rcases h with hStanding | ⟨body, hAirborne, hEnergy⟩
    · rcases stepMovement_standing hTime hStanding input rawTuning with hStays | hFell
      · exact Or.inl hStays
      · exact hFell.jumping le_rfl
    · have hFell := stepMovement_airborne hTime hAirborne.grounded input rawTuning
      rw [hAirborne.body_eq] at hFell
      exact hFell.jumping hEnergy

/-- The height of a jump, from its energy. -/
theorem Jumping.height_le (hSane : tuning.Sane) (h : Jumping tuning state) :
    state.verticalPosition ≤
      tuning.jumpVelocityUnitsPerSecond ^ 2 / (2 * tuning.gravityUnitsPerSecond2) := by
  have hGravity := hSane.gravity
  rcases h with hStanding | ⟨body, hAirborne, hEnergy⟩
  · rw [hStanding.position]
    positivity
  · have hBody : state.verticalPosition = body.1 := congrArg Prod.fst hAirborne.body_eq
    rw [hBody]
    refine (height_le_of_energy hGravity hEnergy).trans_eq ?_
    unfold energy
    field_simp
    ring

/-! Landing. -/

/-- One step of the same length for each input. -/
def evenly (dtSeconds : ℝ) (inputs : List (MovementInputIntent ℝ)) :
    List (MovementInputIntent ℝ × ℝ) :=
  inputs.map fun input => (input, dtSeconds)

/-- A character that has not landed yet has fallen all the time, whatever the inputs. -/
theorem landed_or_fallen (hTime : 0 < dtSeconds) (rawTuning : MovementTuning ℝ)
    (h : state.grounded = false) (inputs : List (MovementInputIntent ℝ)) :
    (∃ steps ≤ inputs.length,
      (runMovement rawTuning state (evenly dtSeconds (inputs.take steps))).grounded = true) ∨
      (inputs ≠ [] → 0 < ((fall (sanitizeMovementTuning rawTuning).gravityUnitsPerSecond2
        dtSeconds)^[inputs.length] (state.verticalPosition, state.verticalVelocity)).1) := by
  induction inputs generalizing state with
  | nil => exact Or.inr fun hSome => absurd rfl hSome
  | cons input rest ih =>
      rcases stepMovement_airborne hTime h input rawTuning with ⟨-, hStanding⟩ | hAirborne
      · exact Or.inl ⟨1, Nat.le_add_left 1 rest.length, hStanding.grounded⟩
      · rcases ih hAirborne.grounded with ⟨steps, hSteps, hLanded⟩ | hAbove
        · exact Or.inl ⟨steps + 1, Nat.add_le_add_right hSteps 1, hLanded⟩
        · refine Or.inr fun _ => ?_
          rw [hAirborne.body_eq] at hAbove
          rw [List.length_cons, Function.iterate_succ_apply]
          rcases List.eq_nil_or_concat rest with rfl | ⟨front, last, rfl⟩
          · exact hAirborne.above
          · exact hAbove (by simp)

/-- Steps of one length bring a character down from anywhere in the air. -/
theorem lands (hTime : 0 < dtSeconds) (rawTuning : MovementTuning ℝ)
    (h : state.grounded = false) :
    ∃ count, ∀ inputs : List (MovementInputIntent ℝ), inputs.length = count →
      ∃ steps ≤ count,
        (runMovement rawTuning state (evenly dtSeconds (inputs.take steps))).grounded = true := by
  obtain ⟨steps, hBelow⟩ := exists_iterate_fall_le
    (sane_sanitizeMovementTuning rawTuning).gravity hTime
    (state.verticalPosition, state.verticalVelocity)
  refine ⟨steps + 1, fun inputs hLength => ?_⟩
  rcases landed_or_fallen hTime rawTuning h inputs with hLanded | hAbove
  · exact hLength ▸ hLanded
  · rw [hLength] at hAbove
    exact absurd hBelow (not_le.mpr (hAbove (List.ne_nil_of_length_eq_add_one hLength)))

/-- What the height says in the course of jumps. -/
structure Grounding (tuning : MovementTuning ℝ) (state : MovementKinematicState ℝ) : Prop where
  nonneg : 0 ≤ state.verticalPosition
  grounded : state.grounded = true → state.verticalPosition = 0 ∧ state.verticalVelocity = 0
  airborne : state.grounded = false → 0 < state.verticalPosition
  height : state.verticalPosition ≤
    tuning.jumpVelocityUnitsPerSecond ^ 2 / (2 * tuning.gravityUnitsPerSecond2)

/-- Whoever is within a jump comes down. -/
theorem Jumping.grounding (hSane : tuning.Sane) (h : Jumping tuning state) :
    Grounding tuning state := by
  have hHeight := h.height_le hSane
  rcases h with hStanding | ⟨body, hAirborne, -⟩
  · refine ⟨hStanding.position.ge, fun _ => ⟨hStanding.position, hStanding.velocity⟩, ?_, hHeight⟩
    intro hAir
    rw [hStanding.grounded] at hAir
    cases hAir
  · have hBody : state.verticalPosition = body.1 := congrArg Prod.fst hAirborne.body_eq
    have hAbove := hBody ▸ hAirborne.above
    refine ⟨hAbove.le, ?_, fun _ => hAbove, hHeight⟩
    intro hGround
    rw [hAirborne.grounded] at hGround
    cases hGround

/-- From the default state every run keeps to the ground or above it, at most as high as one
jump; and from any state in the air steps of one length lead back to the ground. -/
theorem jumps_grounded (tuning : MovementTuning ℝ) :
    (∀ moves, Grounding (sanitizeMovementTuning tuning) (runMovement tuning {} moves)) ∧
      ∀ (state : MovementKinematicState ℝ) (dtSeconds : ℝ), state.grounded = false →
        0 < dtSeconds → ∃ count, ∀ inputs : List (MovementInputIntent ℝ),
          inputs.length = count → ∃ steps ≤ count,
            (runMovement tuning state (evenly dtSeconds (inputs.take steps))).grounded = true := by
  constructor
  · intro moves
    have hStart : Jumping (sanitizeMovementTuning tuning) {} := Or.inl ⟨rfl, by simp, by simp⟩
    exact (runMovement_invariant (jumping_stepMovement tuning) hStart moves).grounding
      (sane_sanitizeMovementTuning tuning)
  · intro state dtSeconds hAir hTime
    exact lands hTime tuning hAir

/-- A fall from a height of one with the default tuning, a second a step. -/
theorem jumps_grounded_fall :
    ∃ count, ∀ inputs : List (MovementInputIntent ℝ), inputs.length = count →
      ∃ steps ≤ count, (runMovement (F := ℝ) {} { verticalPosition := 1, grounded := false }
        (evenly 1 (inputs.take steps))).grounded = true :=
  (jumps_grounded {}).2 { verticalPosition := 1, grounded := false } 1 rfl one_pos

end DevyFps.Game
