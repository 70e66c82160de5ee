import Mathlib.Algebra.Order.Archimedean.Basic
import Mathlib.Algebra.Order.Field.Basic
import Mathlib.Tactic.Linarith
import Mathlib.Tactic.Ring

/-! Velocities that are moved part of the way to a target, and bodies that fall with the
velocity of the end of each step. -/

namespace Foundations.Kinematics

variable {K : Type*} [Field K] [LinearOrder K] [IsStrictOrderedRing K]

/-- The square of the length of a vector in the plane. -/
def lengthSq (x y : K) : K := x * x + y * y

theorem lengthSq_nonneg (x y : K) : 0 ≤ lengthSq x y :=
  add_nonneg (mul_self_nonneg x) (mul_self_nonneg y)

/-- What lies between two vectors of a disc around zero lies in the disc. -/
theorem lengthSq_between_le {x y targetX targetY share bound : K} (hShare : 0 ≤ share)
    (hShareLe : share ≤ 1) (hFrom : lengthSq x y ≤ bound)
    (hTarget : lengthSq targetX targetY ≤ bound) :
    lengthSq (x + (targetX - x) * share) (y + (targetY - y) * share) ≤ bound := by
  have hRest : 0 ≤ 1 - share := sub_nonneg.mpr hShareLe
  have hChord : 0 ≤ share * (1 - share) * lengthSq (targetX - x) (targetY - y) :=
    mul_nonneg (mul_nonneg hShare hRest) (lengthSq_nonneg _ _)
  calc lengthSq (x + (targetX - x) * share) (y + (targetY - y) * share)
      = (1 - share) * lengthSq x y + share * lengthSq targetX targetY -
          share * (1 - share) * lengthSq (targetX - x) (targetY - y) := by
        unfold lengthSq
        ring
    _ ≤ (1 - share) * lengthSq x y + share * lengthSq targetX targetY := by linarith only [hChord]
    _ ≤ (1 - share) * bound + share * bound :=
        add_le_add (mul_le_mul_of_nonneg_left hFrom hRest)
          (mul_le_mul_of_nonneg_left hTarget hShare)
    _ = bound := by ring

theorem lengthSq_scaled_le {x y share bound : K} (hShare : 0 ≤ share) (hShareLe : share ≤ 1)
    (h : lengthSq x y ≤ bound) : lengthSq (x * share) (y * share) ≤ bound := by
  have hZero : lengthSq (0 : K) 0 ≤ bound := by
    have hNonneg := (lengthSq_nonneg x y).trans h
    unfold lengthSq
    linarith only [hNonneg]
  have hBetween := lengthSq_between_le (sub_nonneg.mpr hShareLe) (by linarith only [hShare]) h hZero
  convert hBetween using 2 <;> ring

/-- One step of a fall from a height with an upward velocity: the velocity changes first, and
the body moves with the new one. -/
def fall (gravity dt : K) (body : K × K) : K × K :=
  (body.1 + (body.2 - gravity * dt) * dt, body.2 - gravity * dt)

/-- The energy of a unit mass. -/
def energy (gravity : K) (body : K × K) : K := body.2 * body.2 / 2 + gravity * body.1

/-- A step loses the same energy wherever the body is and however fast it moves. -/
theorem energy_fall (gravity dt : K) (body : K × K) :
    energy gravity (fall gravity dt body) = energy gravity body - (gravity * dt) ^ 2 / 2 := by
  unfold energy fall
  ring

theorem energy_fall_le (gravity dt : K) (body : K × K) :
    energy gravity (fall gravity dt body) ≤ energy gravity body := by
  rw [energy_fall]
  linarith only [sq_nonneg (gravity * dt)]

theorem energy_iterate_fall (gravity dt : K) (steps : Nat) (body : K × K) :
    energy gravity ((fall gravity dt)^[steps] body) =
      energy gravity body - steps * ((gravity * dt) ^ 2 / 2) := by
  induction steps with
  | zero => simp
  | succ steps ih =>
      rw [Function.iterate_succ_apply', energy_fall, ih]
      push_cast
      ring

/-- A body is nowhere above the height that all of its energy lifts it to. -/
theorem height_le_of_energy {gravity bound : K} {body : K × K} (hGravity : 0 < gravity)
    (h : energy gravity body ≤ bound) : body.1 ≤ bound / gravity := by
  rw [le_div_iff₀ hGravity]
  unfold energy at h
  linarith only [h, mul_self_nonneg body.2, mul_comm gravity body.1]

/-- A fall reaches every level that is not above the ground. -/
theorem exists_iterate_fall_le [Archimedean K] {gravity dt : K} (hGravity : 0 < gravity)
    (hTime : 0 < dt) (body : K × K) :
    ∃ steps, ((fall gravity dt)^[steps + 1] body).1 ≤ 0 := by
  have hLoss : 0 < (gravity * dt) ^ 2 / 2 := by positivity
  obtain ⟨steps, hSteps⟩ := Archimedean.arch (energy gravity body) hLoss
  refine ⟨steps, ?_⟩
  have hEnergy : energy gravity ((fall gravity dt)^[steps + 1] body) ≤ 0 := by
    rw [energy_iterate_fall]
    rw [nsmul_eq_mul] at hSteps
    push_cast
    linarith only [hSteps, hLoss]
  simpa using height_le_of_energy hGravity hEnergy

end Foundations.Kinematics
