import Mathlib.Data.Int.Init
import DevyFps.Foundations.Loops

/-! Chunks: the cubes of blocks that a world is made of. -/

namespace DevyFps.Voxel

def kChunkSize : Int := 32

def kChunkVolume : Nat := 32 * 32 * 32

abbrev BlockId := UInt8

structure Chunk where
  blocks : Vector BlockId kChunkVolume := Vector.replicate kChunkVolume 0

namespace Chunk

def index (x y z : Int) : Nat :=
  (x + y * kChunkSize + z * kChunkSize * kChunkSize).toNat

def isInside (x y z : Int) : Bool :=
  decide (0 ≤ x ∧ x < kChunkSize ∧ 0 ≤ y ∧ y < kChunkSize ∧ 0 ≤ z ∧ z < kChunkSize)

def get (chunk : Chunk) (x y z : Int) : BlockId :=
  if !isInside x y z then 0 else chunk.blocks.getD (index x y z) 0

def set (chunk : Chunk) (x y z : Int) (id : BlockId) : Chunk :=
  if !isInside x y z then chunk
  else { chunk with blocks := chunk.blocks.setIfInBounds (index x y z) id }

theorem isInside_iff {x y z : Int} :
    isInside x y z = true ↔ (0 ≤ x ∧ x < 32) ∧ (0 ≤ y ∧ y < 32) ∧ 0 ≤ z ∧ z < 32 := by
  unfold isInside
  rw [decide_eq_true_iff]
  simp only [kChunkSize, and_assoc]

theorem index_lt {x y z : Int} (h : isInside x y z = true) : index x y z < kChunkVolume := by
  have hRange := isInside_iff.mp h
  simp only [index, kChunkSize, kChunkVolume]
  omega

theorem index_injective {x y z x' y' z' : Int} (h : isInside x y z = true)
    (h' : isInside x' y' z' = true) (hIndex : index x y z = index x' y' z') :
    x = x' ∧ y = y' ∧ z = z' := by
  have hRange := isInside_iff.mp h
  have hRange' := isInside_iff.mp h'
  simp only [index, kChunkSize] at hIndex
  omega

/-- Reading after writing: the written position changes, if it is inside, and no other. -/
theorem get_set (chunk : Chunk) (x y z : Int) (id : BlockId) (x' y' z' : Int) :
    (chunk.set x y z id).get x' y' z' =
      if isInside x y z = true ∧ x' = x ∧ y' = y ∧ z' = z then id else chunk.get x' y' z' := by
  unfold set
  cases hInside : isInside x y z with
  | false => simp
  | true =>
      unfold get
      cases hInside' : isInside x' y' z' with
      | false =>
          have hOther : ¬ (x' = x ∧ y' = y ∧ z' = z) := by
            intro hSame
            rw [hSame.1, hSame.2.1, hSame.2.2, hInside] at hInside'
            cases hInside'
          simp [hOther]
      | true =>
          simp only [Bool.not_true, Bool.false_eq_true, if_false, true_and]
          by_cases hSame : x' = x ∧ y' = y ∧ z' = z
          · rw [if_pos hSame, hSame.1, hSame.2.1, hSame.2.2]
            simp [Vector.getD, index_lt hInside]
          · rw [if_neg hSame]
            have hIndex : index x y z ≠ index x' y' z' := by
              intro hEq
              obtain ⟨hx, hy, hz⟩ := index_injective hInside hInside' hEq
              exact hSame ⟨hx.symm, hy.symm, hz.symm⟩
            simp [Vector.getD, index_lt hInside', hIndex]

/-- Stated for any size, so that no proof looks at the many blocks of a chunk. -/
theorem getD_replicate (size position : Nat) :
    (Vector.replicate size (0 : BlockId)).getD position 0 = 0 := by
  simp [Vector.getD, Array.getD]

@[simp] theorem get_new (x y z : Int) : ({} : Chunk).get x y z = 0 := by
  unfold get
  cases isInside x y z with
  | false => rfl
  | true => exact getD_replicate kChunkVolume (index x y z)

end Chunk

end DevyFps.Voxel
