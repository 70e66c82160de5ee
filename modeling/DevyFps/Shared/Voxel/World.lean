import DevyFps.Foundations.UnorderedMap
import DevyFps.Shared.Voxel.PointsOfInterest

/-! The world: materialised chunks, and the generator that fills a missing one. -/

namespace DevyFps.Voxel

open Foundations FloatFormat

variable {F : Type} [SingleFloat F]

/-- The content that the generator gives to a chunk: the terrain, and the structures of
the gathered candidates drawn on it. -/
def generateChunk (hash : WorldHash) (profile : WorldGenerationProfile F) (coord : ChunkCoord)
    (maxHeight : Int) : Chunk :=
  (gatherChunkCandidates hash coord.x coord.z profile).foldl
    (fun chunk poi =>
      stampPoi hash profile.worldSeed coord poi (sampleHeight F poi.centerX poi.centerZ maxHeight)
        maxHeight chunk)
    (fillTerrain F coord maxHeight)

structure World (F : Type) [SingleFloat F] where
  chunks : UnorderedMap ChunkCoord Chunk := ∅
  maxHeight : Int := 0
  generationProfile : WorldGenerationProfile F := {}

namespace World

def clear (world : World F) : World F := { world with chunks := ∅ }

/-- The chunk and the world that now holds it. An existing chunk is left as it is. -/
def ensureGeneratedChunk (world : World F) (coord : ChunkCoord) (maxHeight : Int) :
    Chunk × World F :=
  let raised :=
    { world with
      maxHeight := if maxHeight > 0 then max world.maxHeight maxHeight else world.maxHeight }
  match raised.chunks.find coord with
  | some existing => (existing, raised)
  | none =>
      let chunk := generateChunk hashWorld raised.generationProfile coord raised.maxHeight
      (chunk, { raised with chunks := raised.chunks.set coord chunk })

def removeChunk (world : World F) (coord : ChunkCoord) : Bool × World F :=
  ((world.chunks.find coord).isSome, { world with chunks := world.chunks.erase coord })

/-- The chunks of a generated world, in the order in which they are made. -/
def generatedCoords (chunksX chunksY chunksZ : Int) : List ChunkCoord :=
  (intRange 0 (chunksY - 1)).flatMap fun cy =>
    (intRange 0 (chunksZ - 1)).flatMap fun cz =>
      (intRange 0 (chunksX - 1)).map fun cx => ⟨cx, cy, cz⟩

def generate (chunksX chunksZ maxHeight : Int) (profile : WorldGenerationProfile F) : World F :=
  let chunksY := (maxHeight + kChunkSize - 1).tdiv kChunkSize
  let fresh : World F :=
    { chunks := ∅
      maxHeight := maxHeight
      generationProfile := sanitizeWorldGenerationProfile profile }
  (generatedCoords chunksX chunksY chunksZ).foldl
    (fun world coord => (world.ensureGeneratedChunk coord maxHeight).2) fresh

def heightAt (world : World F) (worldX worldZ : Int) : Int :=
  sampleHeight F worldX worldZ world.maxHeight

def getChunk (world : World F) (coord : ChunkCoord) : Option Chunk := world.chunks.find coord

/-- The chunk of a world position and the place inside it. -/
def locate (worldX worldY worldZ : Int) : Option (ChunkCoord × BlockPos) :=
  match worldToChunkLocal worldX, worldToChunkLocal worldY, worldToChunkLocal worldZ with
  | some (cx, lx), some (cy, ly), some (cz, lz) => some (⟨cx, cy, cz⟩, ⟨lx, ly, lz⟩)
  | _, _, _ => none

def blockAt (world : World F) (worldX worldY worldZ : Int) : Option BlockId :=
  match locate worldX worldY worldZ with
  | none => none
  | some (coord, place) => (world.getChunk coord).map fun chunk => chunk.get place.x place.y place.z

def setBlock (world : World F) (worldX worldY worldZ : Int) (id : BlockId) : Bool × World F :=
  match locate worldX worldY worldZ with
  | none => (false, world)
  | some (coord, place) =>
      match world.getChunk coord with
      | none => (false, world)
      | some chunk =>
          (true, { world with chunks := world.chunks.set coord (chunk.set place.x place.y place.z id) })

def setGenerationProfile (world : World F) (profile : WorldGenerationProfile F) : World F :=
  { world with generationProfile := sanitizeWorldGenerationProfile profile }

/-- The height limit after a request for a chunk. -/
theorem maxHeight_ensureGeneratedChunk (world : World F) (coord : ChunkCoord) (maxHeight : Int) :
    (world.ensureGeneratedChunk coord maxHeight).2.maxHeight =
      if maxHeight > 0 then max world.maxHeight maxHeight else world.maxHeight := by
  unfold ensureGeneratedChunk
  dsimp only
  cases world.chunks.find coord <;> rfl

@[simp] theorem generationProfile_ensureGeneratedChunk (world : World F) (coord : ChunkCoord)
    (maxHeight : Int) :
    (world.ensureGeneratedChunk coord maxHeight).2.generationProfile = world.generationProfile := by
  unfold ensureGeneratedChunk
  dsimp only
  cases world.chunks.find coord <;> rfl

/-- After a request the chunk is there, made by the generator if it was missing; the
other chunks are as before. -/
theorem find_ensureGeneratedChunk (world : World F) (coord other : ChunkCoord) (maxHeight : Int) :
    (world.ensureGeneratedChunk coord maxHeight).2.chunks.find other =
      if other = coord then
        some ((world.chunks.find coord).getD
          (generateChunk hashWorld world.generationProfile coord
            (world.ensureGeneratedChunk coord maxHeight).2.maxHeight))
      else world.chunks.find other := by
  rw [maxHeight_ensureGeneratedChunk]
  unfold ensureGeneratedChunk
  dsimp only
  cases hFind : world.chunks.find coord with
  | some existing =>
      by_cases hSame : other = coord
      · rw [if_pos hSame, hSame, hFind]
        rfl
      · rw [if_neg hSame]
  | none => simp [UnorderedMap.find_set]

theorem find_removeChunk (world : World F) (coord other : ChunkCoord) :
    (world.removeChunk coord).2.chunks.find other =
      if other = coord then none else world.chunks.find other :=
  UnorderedMap.find_erase _ _ _

/-- A position has a chunk exactly when its coordinates are not negative. -/
theorem locate_eq {worldX worldY worldZ : Int} :
    locate worldX worldY worldZ =
      if 0 ≤ worldX ∧ 0 ≤ worldY ∧ 0 ≤ worldZ then
        some (⟨worldX / kChunkSize, worldY / kChunkSize, worldZ / kChunkSize⟩,
          ⟨worldX % kChunkSize, worldY % kChunkSize, worldZ % kChunkSize⟩)
      else none := by
  unfold locate worldToChunkLocal
  by_cases hX : worldX < 0
  · have hOut : ¬ (0 ≤ worldX ∧ 0 ≤ worldY ∧ 0 ≤ worldZ) := by omega
    rw [if_neg hOut, if_pos hX]
  · by_cases hY : worldY < 0
    · have hOut : ¬ (0 ≤ worldX ∧ 0 ≤ worldY ∧ 0 ≤ worldZ) := by omega
      rw [if_neg hOut, if_neg hX, if_pos hY]
    · by_cases hZ : worldZ < 0
      · have hOut : ¬ (0 ≤ worldX ∧ 0 ≤ worldY ∧ 0 ≤ worldZ) := by omega
        rw [if_neg hOut, if_neg hX, if_neg hY, if_pos hZ]
      · have hIn : 0 ≤ worldX ∧ 0 ≤ worldY ∧ 0 ≤ worldZ := by omega
        rw [if_pos hIn, if_neg hX, if_neg hY, if_neg hZ]

/-- Writing where a block can be read: the chunk of the position changes, and nothing
else in the world. -/
theorem setBlock_of_blockAt {world : World F} {worldX worldY worldZ : Int} {previous : BlockId}
    (h : world.blockAt worldX worldY worldZ = some previous) (id : BlockId) :
    (0 ≤ worldX ∧ 0 ≤ worldY ∧ 0 ≤ worldZ) ∧
      ∃ chunk, world.chunks.find
          ⟨worldX / kChunkSize, worldY / kChunkSize, worldZ / kChunkSize⟩ = some chunk ∧
        world.setBlock worldX worldY worldZ id = (true, { world with
          chunks := world.chunks.set
            ⟨worldX / kChunkSize, worldY / kChunkSize, worldZ / kChunkSize⟩
            (chunk.set (worldX % kChunkSize) (worldY % kChunkSize) (worldZ % kChunkSize) id) }) := by
  unfold blockAt at h
  unfold setBlock
  rw [locate_eq] at h ⊢
  by_cases hNonneg : 0 ≤ worldX ∧ 0 ≤ worldY ∧ 0 ≤ worldZ
  · refine ⟨hNonneg, ?_⟩
    rw [if_pos hNonneg] at h ⊢
    dsimp only at h ⊢
    obtain ⟨chunk, hChunk, _⟩ := Option.map_eq_some_iff.mp h
    refine ⟨chunk, hChunk, ?_⟩
    rw [hChunk]
  · rw [if_neg hNonneg] at h
    cases h

/-- Reading after writing where a block could be read: the written position changes and
no other. -/
theorem blockAt_setBlock {world : World F} {worldX worldY worldZ : Int} {previous : BlockId}
    (h : world.blockAt worldX worldY worldZ = some previous) (id : BlockId) (x y z : Int) :
    (world.setBlock worldX worldY worldZ id).2.blockAt x y z =
      if x = worldX ∧ y = worldY ∧ z = worldZ then some id else world.blockAt x y z := by
  obtain ⟨hNonneg, chunk, hChunk, hWritten⟩ := setBlock_of_blockAt h id
  have hInside : Chunk.isInside (worldX % kChunkSize) (worldY % kChunkSize)
      (worldZ % kChunkSize) = true := by
    rw [Chunk.isInside_iff]
    simp only [kChunkSize]
    omega
  rw [hWritten]
  unfold blockAt getChunk
  rw [locate_eq]
  by_cases hRead : 0 ≤ x ∧ 0 ≤ y ∧ 0 ≤ z
  · rw [if_pos hRead]
    dsimp only
    rw [UnorderedMap.find_set]
    by_cases hCoord : (⟨x / kChunkSize, y / kChunkSize, z / kChunkSize⟩ : ChunkCoord) =
        ⟨worldX / kChunkSize, worldY / kChunkSize, worldZ / kChunkSize⟩
    · rw [if_pos hCoord, hCoord, hChunk, Option.map_some, Option.map_some, Chunk.get_set]
      have hPlace : (Chunk.isInside (worldX % kChunkSize) (worldY % kChunkSize)
          (worldZ % kChunkSize) = true ∧ x % kChunkSize = worldX % kChunkSize ∧
            y % kChunkSize = worldY % kChunkSize ∧ z % kChunkSize = worldZ % kChunkSize) ↔
          x = worldX ∧ y = worldY ∧ z = worldZ := by
        simp only [ChunkCoord.mk.injEq, kChunkSize] at hCoord ⊢
        constructor
        · rintro ⟨-, hX, hY, hZ⟩
          omega
        · rintro ⟨rfl, rfl, rfl⟩
          exact ⟨hInside, rfl, rfl, rfl⟩
      by_cases hSame : x = worldX ∧ y = worldY ∧ z = worldZ
      · rw [if_pos hSame, if_pos (hPlace.mpr hSame)]
      · rw [if_neg hSame, if_neg (fun hPos => hSame (hPlace.mp hPos))]
    · have hOther : ¬ (x = worldX ∧ y = worldY ∧ z = worldZ) := by
        rintro ⟨rfl, rfl, rfl⟩
        exact hCoord rfl
      rw [if_neg hCoord, if_neg hOther]
  · have hOther : ¬ (x = worldX ∧ y = worldY ∧ z = worldZ) := by
      rintro ⟨rfl, rfl, rfl⟩
      exact hRead hNonneg
    rw [if_neg hRead, if_neg hOther]

end World

end DevyFps.Voxel
