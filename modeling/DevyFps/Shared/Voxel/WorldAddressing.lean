import DevyFps.Shared.Voxel.World
import Mathlib.Data.Set.Function

/-! Where the blocks of the world are kept: the positions that have a chunk and a place in
it are a one-to-one copy of the places, so that a write reaches one block only. -/

namespace DevyFps.Voxel

open Foundations

variable {F : Type} [SingleFloat F]

/-- The positions inside a chunk. -/
def localPositions : Set BlockPos := {pos | Chunk.isInside pos.x pos.y pos.z = true}

/-- The positions of the world that belong to a chunk. -/
def worldPositions : Set BlockPos := {pos | 0 ≤ pos.x ∧ 0 ≤ pos.y ∧ 0 ≤ pos.z}

/-- The chunks that positions belong to, with the positions inside them. -/
def chunkPlaces : Set (ChunkCoord × BlockPos) :=
  {place | (0 ≤ place.1.x ∧ 0 ≤ place.1.y ∧ 0 ≤ place.1.z) ∧ place.2 ∈ localPositions}

/-- Those below a limit in every coordinate, such as the positions of an `int`. -/
def worldPositionsBelow (limit : Int) : Set BlockPos :=
  {pos ∈ worldPositions | pos.x < limit ∧ pos.y < limit ∧ pos.z < limit}

def chunkPlacesBelow (limit : Int) : Set (ChunkCoord × BlockPos) :=
  {place ∈ chunkPlaces | place.1.x < limit ∧ place.1.y < limit ∧ place.1.z < limit}

/-- The chunk of a position, by division, and the place in it, by remainder. -/
def placeOf (pos : BlockPos) : ChunkCoord × BlockPos :=
  (⟨pos.x / kChunkSize, pos.y / kChunkSize, pos.z / kChunkSize⟩,
    ⟨pos.x % kChunkSize, pos.y % kChunkSize, pos.z % kChunkSize⟩)

/-- The position that a place in a chunk is kept for. -/
def positionOf (place : ChunkCoord × BlockPos) : BlockPos :=
  worldPos place.1 place.2.x place.2.y place.2.z

/-- Within a chunk each position has an index of its own. -/
theorem Chunk.injOn_index :
    Set.InjOn (fun pos : BlockPos => Chunk.index pos.x pos.y pos.z) localPositions := by
  rintro ⟨x, y, z⟩ hInside ⟨x', y', z'⟩ hInside' hIndex
  obtain ⟨rfl, rfl, rfl⟩ := Chunk.index_injective hInside hInside' hIndex
  rfl

/-- Chunk and local position determine the world position. -/
theorem positionOf_placeOf (pos : BlockPos) : positionOf (placeOf pos) = pos := by
  obtain ⟨x, y, z⟩ := pos
  simp only [positionOf, placeOf, worldPos, Int.mul_comm _ kChunkSize, Int.mul_ediv_add_emod]

/-- And the world position determines them. -/
theorem placeOf_positionOf {place : ChunkCoord × BlockPos} (h : place ∈ chunkPlaces) :
    placeOf (positionOf place) = place := by
  obtain ⟨⟨cx, cy, cz⟩, ⟨x, y, z⟩⟩ := place
  have hRange := Chunk.isInside_iff.mp h.2
  simp only [positionOf, placeOf, worldPos, kChunkSize, Prod.mk.injEq, ChunkCoord.mk.injEq,
    BlockPos.mk.injEq] at hRange ⊢
  omega

/-- The place of a world position is within its chunk. -/
theorem placeOf_mem {pos : BlockPos} (h : pos ∈ worldPositions) : placeOf pos ∈ chunkPlaces := by
  obtain ⟨hX, hY, hZ⟩ := h
  refine ⟨?_, Chunk.isInside_iff.mpr ?_⟩
  · simp only [placeOf, kChunkSize]
    omega
  · simp only [placeOf, kChunkSize]
    omega

theorem positionOf_mem {place : ChunkCoord × BlockPos} (h : place ∈ chunkPlaces) :
    positionOf place ∈ worldPositions := by
  have hRange := Chunk.isInside_iff.mp h.2
  obtain ⟨⟨hX, hY, hZ⟩, -⟩ := h
  show 0 ≤ place.1.x * 32 + place.2.x ∧ 0 ≤ place.1.y * 32 + place.2.y ∧
    0 ≤ place.1.z * 32 + place.2.z
  omega

theorem placeOf_mem_below {limit : Int} {pos : BlockPos}
    (h : pos ∈ worldPositionsBelow (limit * kChunkSize)) : placeOf pos ∈ chunkPlacesBelow limit := by
  refine ⟨placeOf_mem h.1, ?_⟩
  obtain ⟨-, hX, hY, hZ⟩ := h
  simp only [placeOf, kChunkSize] at hX hY hZ ⊢
  omega

theorem positionOf_mem_below {limit : Int} {place : ChunkCoord × BlockPos}
    (h : place ∈ chunkPlacesBelow limit) :
    positionOf place ∈ worldPositionsBelow (limit * kChunkSize) := by
  refine ⟨positionOf_mem h.1, ?_⟩
  have hRange := Chunk.isInside_iff.mp h.1.2
  obtain ⟨-, hX, hY, hZ⟩ := h
  simp only [positionOf, worldPos, kChunkSize]
  omega

/-- World positions and places correspond. -/
theorem invOn_placeOf : Set.InvOn positionOf placeOf worldPositions chunkPlaces :=
  ⟨fun pos _ => positionOf_placeOf pos, fun _ hPlace => placeOf_positionOf hPlace⟩

theorem bijOn_placeOf : Set.BijOn placeOf worldPositions chunkPlaces :=
  invOn_placeOf.bijOn (fun _ => placeOf_mem) fun _ => positionOf_mem

/-- So they do below the limits of a finite world. -/
theorem bijOn_placeOf_below (limit : Int) :
    Set.BijOn placeOf (worldPositionsBelow (limit * kChunkSize)) (chunkPlacesBelow limit) :=
  (invOn_placeOf.mono (fun _ hPos => hPos.1) fun _ hPlace => hPlace.1).bijOn
    (fun _ => placeOf_mem_below) fun _ => positionOf_mem_below

namespace World

/-- The positions with a place are those of the world. -/
theorem locate_of_mem {pos : BlockPos} (h : pos ∈ worldPositions) :
    locate pos.x pos.y pos.z = some (placeOf pos) := by
  have hNonneg : 0 ≤ pos.x ∧ 0 ≤ pos.y ∧ 0 ≤ pos.z := h
  rw [locate_eq, if_pos hNonneg]
  rfl

/-- A one-to-one copy by `placeOf` is one by `locate`. -/
theorem bijOn_locate {positions : Set BlockPos} {places : Set (ChunkCoord × BlockPos)}
    (hPositions : positions ⊆ worldPositions) (h : Set.BijOn placeOf positions places) :
    Set.BijOn (fun pos => locate pos.x pos.y pos.z) positions (some '' places) := by
  have hPlaced : Set.BijOn (some ∘ placeOf) positions (some '' places) :=
    ((Option.some_injective _).injOn.bijOn_image).comp h
  exact hPlaced.congr fun pos hPos => (locate_of_mem (hPositions hPos)).symm

/-- A block is there exactly if its chunk is, at positions that are not negative. -/
theorem isSome_blockAt_iff {world : World F} {worldX worldY worldZ : Int} :
    (world.blockAt worldX worldY worldZ).isSome = true ↔
      (0 ≤ worldX ∧ 0 ≤ worldY ∧ 0 ≤ worldZ) ∧
        (world.getChunk ⟨worldX / kChunkSize, worldY / kChunkSize, worldZ / kChunkSize⟩).isSome =
          true := by
  unfold blockAt
  rw [locate_eq]
  by_cases hNonneg : 0 ≤ worldX ∧ 0 ≤ worldY ∧ 0 ≤ worldZ
  · rw [if_pos hNonneg, and_iff_right hNonneg]
    dsimp only
    rw [Option.isSome_map]
  · simp [hNonneg]

/-- A block can be written where one can be read. -/
theorem fst_setBlock (world : World F) (worldX worldY worldZ : Int) (id : BlockId) :
    (world.setBlock worldX worldY worldZ id).1 = (world.blockAt worldX worldY worldZ).isSome := by
  unfold setBlock blockAt
  cases locate worldX worldY worldZ with
  | none => rfl
  | some found =>
      dsimp only
      cases world.getChunk found.1 <;> rfl

/-- A failed write changes nothing. -/
theorem snd_setBlock_of_failed {world : World F} {worldX worldY worldZ : Int} {id : BlockId}
    (h : (world.setBlock worldX worldY worldZ id).1 = false) :
    (world.setBlock worldX worldY worldZ id).2 = world := by
  unfold setBlock at h ⊢
  cases hLocate : locate worldX worldY worldZ with
  | none => rfl
  | some found =>
      rw [hLocate] at h
      dsimp only at h ⊢
      cases hChunk : world.getChunk found.1 with
      | none => rfl
      | some chunk =>
          rw [hChunk] at h
          cases h

/-- Blocks are written to one place each. -/
theorem addressing (world : World F) (worldX worldY worldZ : Int) (id : BlockId) :
    ((world.setBlock worldX worldY worldZ id).1 = true ↔
        (0 ≤ worldX ∧ 0 ≤ worldY ∧ 0 ≤ worldZ) ∧
          (world.getChunk ⟨worldX / 32, worldY / 32, worldZ / 32⟩).isSome = true) ∧
      ((world.setBlock worldX worldY worldZ id).1 = true →
        (world.setBlock worldX worldY worldZ id).2.blockAt worldX worldY worldZ = some id ∧
          (∀ x y z, ¬ (x = worldX ∧ y = worldY ∧ z = worldZ) →
            (world.setBlock worldX worldY worldZ id).2.blockAt x y z = world.blockAt x y z) ∧
          (∀ coord : ChunkCoord, coord ≠ ⟨worldX / 32, worldY / 32, worldZ / 32⟩ →
            (world.setBlock worldX worldY worldZ id).2.getChunk coord = world.getChunk coord) ∧
          (world.setBlock worldX worldY worldZ id).2.maxHeight = world.maxHeight ∧
          (world.setBlock worldX worldY worldZ id).2.generationProfile = world.generationProfile) ∧
      ((world.setBlock worldX worldY worldZ id).1 = false →
        (world.setBlock worldX worldY worldZ id).2 = world) ∧
      Set.InjOn (fun pos : BlockPos => Chunk.index pos.x pos.y pos.z) localPositions ∧
      (∀ pos ∈ localPositions, Chunk.index pos.x pos.y pos.z < kChunkVolume) ∧
      Set.BijOn (fun pos : BlockPos => locate pos.x pos.y pos.z) worldPositions
        (some '' chunkPlaces) ∧
      (∀ limit, Set.BijOn (fun pos : BlockPos => locate pos.x pos.y pos.z)
        (worldPositionsBelow (limit * 32)) (some '' chunkPlacesBelow limit)) := by
  refine ⟨?_, ?_, snd_setBlock_of_failed, Chunk.injOn_index, fun _ => Chunk.index_lt,
    bijOn_locate subset_rfl bijOn_placeOf,
    fun limit => bijOn_locate (fun _ hPos => hPos.1) (bijOn_placeOf_below limit)⟩
  · rw [fst_setBlock]
    exact isSome_blockAt_iff
  · intro hWritten
    rw [fst_setBlock] at hWritten
    obtain ⟨previous, hPrevious⟩ := Option.isSome_iff_exists.mp hWritten
    have hRead := blockAt_setBlock hPrevious id
    obtain ⟨-, chunk, -, hAfter⟩ := setBlock_of_blockAt hPrevious id
    refine ⟨?_, ?_, ?_, ?_⟩
    · rw [hRead, if_pos ⟨rfl, rfl, rfl⟩]
    · intro x y z hOther
      rw [hRead, if_neg hOther]
    · intro coord hOther
      rw [hAfter]
      exact (UnorderedMap.find_set _ _ _ _).trans (if_neg hOther)
    · rw [hAfter]
      exact ⟨rfl, rfl⟩

end World

end DevyFps.Voxel
