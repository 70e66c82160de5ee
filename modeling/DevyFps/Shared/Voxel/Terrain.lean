import DevyFps.Foundations.Drawing
import DevyFps.Foundations.Floating
import DevyFps.Shared.Voxel.Chunk

/-! Terrain: where chunks and blocks lie in the world, and the height of the ground. -/

namespace DevyFps.Voxel

open Foundations FloatFormat

structure ChunkCoord where
  x : Int
  y : Int
  z : Int
  deriving DecidableEq, Repr

/-- A position in the world, or inside a chunk. -/
structure BlockPos where
  x : Int
  y : Int
  z : Int
  deriving DecidableEq, Repr

/-- The place in the world of a position inside a chunk. -/
def worldPos (coord : ChunkCoord) (x y z : Int) : BlockPos :=
  ⟨coord.x * kChunkSize + x, coord.y * kChunkSize + y, coord.z * kChunkSize + z⟩

/-- A block to be placed somewhere. -/
abbrev BlockWrite := BlockPos × BlockId

/-- The chunk index and the place inside the chunk, for coordinates that have them.
C++ division agrees with `/` there, since the coordinate is not negative. -/
def worldToChunkLocal (worldAxis : Int) : Option (Int × Int) :=
  if worldAxis < 0 then none else some (worldAxis / kChunkSize, worldAxis % kChunkSize)

def hashNoiseBits (x z : Int) : UInt32 :=
  let n := UInt32.ofInt (x * 73856093) ^^^ UInt32.ofInt (z * 19349663)
  let n := (n <<< 13) ^^^ n
  (n * (n * n * 15731 + 789221) + 1376312589) &&& 0x7fffffff

variable {F : Type} [SingleFloat F]

def hashNoise (x z : Int) : F :=
  ofRat 1 - ofInt (hashNoiseBits x z).toNat / ofRat 1073741824

def smoothNoise (x z : Int) : F :=
  let corners :=
    (hashNoise (x - 1) (z - 1) + hashNoise (x + 1) (z - 1) + hashNoise (x - 1) (z + 1) +
      hashNoise (x + 1) (z + 1)) * ofRat 0.0625
  let sides :=
    (hashNoise (x - 1) z + hashNoise (x + 1) z + hashNoise x (z - 1) + hashNoise x (z + 1)) *
      ofRat 0.125
  let center := hashNoise x z * ofRat 0.25
  corners + sides + center

def interpolatedNoise (x z : F) : F :=
  let intX := truncate (floor x)
  let intZ := truncate (floor z)
  let fracX := x - ofInt intX
  let fracZ := z - ofInt intZ
  let v1 : F := smoothNoise intX intZ
  let v2 : F := smoothNoise (intX + 1) intZ
  let v3 : F := smoothNoise intX (intZ + 1)
  let v4 : F := smoothNoise (intX + 1) (intZ + 1)
  let i1 := v1 + (v2 - v1) * fracX
  let i2 := v3 + (v4 - v3) * fracX
  i1 + (i2 - i1) * fracZ

/-- The sums, frequencies and amplitudes over the octaves. -/
def perlinOctave (x z : F) (acc : F × F × F) : F × F × F :=
  let (total, frequency, amplitude) := acc
  (total + interpolatedNoise (x * frequency) (z * frequency) * amplitude,
    frequency * ofRat 2, amplitude * ofRat 0.5)

def perlin (x z : F) : F :=
  ((List.range 4).foldl (fun acc _ => perlinOctave x z acc) (ofRat 0, ofRat 0.04, ofRat 1)).1

/-- The height that the noise gives to a column. -/
def noiseHeight (F : Type) [SingleFloat F] (worldX worldZ maxHeight : Int) : Int :=
  let heightNoise : F := perlin (ofInt worldX) (ofInt worldZ)
  truncate ((heightNoise + ofRat 1) * ofRat 0.5 * ofInt maxHeight)

def sampleHeight (F : Type) [SingleFloat F] (worldX worldZ maxHeight : Int) : Int :=
  if maxHeight ≤ 0 then 0 else max 1 (min (noiseHeight F worldX worldZ maxHeight) maxHeight)

/-- The block of a column of the given height: stone, two layers of dirt, grass, air. -/
def terrainBlock (worldY height : Int) : BlockId :=
  if worldY < height - 3 then 2
  else if worldY < height - 1 then 1
  else if worldY < height then 3
  else 0

/-- The terrain of a chunk, block by block in the order in which it is filled. -/
def terrainWrites (F : Type) [SingleFloat F] (coord : ChunkCoord) (maxHeight : Int) :
    List BlockWrite :=
  (intRange 0 (kChunkSize - 1)).flatMap fun z =>
    (intRange 0 (kChunkSize - 1)).flatMap fun x =>
      let height := sampleHeight F (coord.x * kChunkSize + x) (coord.z * kChunkSize + z) maxHeight
      (intRange 0 (kChunkSize - 1)).map fun y =>
        (⟨x, y, z⟩, terrainBlock (coord.y * kChunkSize + y) height)

def fillTerrain (F : Type) [SingleFloat F] (coord : ChunkCoord) (maxHeight : Int) : Chunk :=
  (terrainWrites F coord maxHeight).foldl
    (fun chunk write => chunk.set write.1.x write.1.y write.1.z write.2) {}

theorem sampleHeight_bounds (F : Type) [SingleFloat F] (worldX worldZ : Int) {maxHeight : Int}
    (h : 0 < maxHeight) :
    1 ≤ sampleHeight F worldX worldZ maxHeight ∧
      sampleHeight F worldX worldZ maxHeight ≤ maxHeight := by
  unfold sampleHeight
  rw [if_neg (by omega)]
  omega

theorem mem_terrainWrites {F : Type} [SingleFloat F] {coord : ChunkCoord} {maxHeight : Int}
    {position : BlockPos} {block : BlockId} :
    (position, block) ∈ terrainWrites F coord maxHeight ↔
      Chunk.isInside position.x position.y position.z = true ∧
        block = terrainBlock (coord.y * kChunkSize + position.y)
          (sampleHeight F (coord.x * kChunkSize + position.x) (coord.z * kChunkSize + position.z)
            maxHeight) := by
  rw [Chunk.isInside_iff]
  simp only [terrainWrites, List.mem_flatMap, List.mem_map, mem_intRange, kChunkSize,
    Prod.mk.injEq]
  constructor
  · rintro ⟨z, hz, x, hx, y, hy, rfl, rfl⟩
    refine ⟨?_, rfl⟩
    dsimp only
    omega
  · rintro ⟨⟨hx, hy, hz⟩, rfl⟩
    exact ⟨position.z, by omega, position.x, by omega, position.y, by omega, rfl, rfl⟩

/-- Every block of the filled chunk is the terrain block of its place in the world. -/
theorem get_fillTerrain (F : Type) [SingleFloat F] (coord : ChunkCoord) (maxHeight : Int)
    {x y z : Int} (hInside : Chunk.isInside x y z = true) :
    (fillTerrain F coord maxHeight).get x y z =
      terrainBlock (coord.y * kChunkSize + y)
        (sampleHeight F (coord.x * kChunkSize + x) (coord.z * kChunkSize + z) maxHeight) := by
  unfold fillTerrain
  rw [observe_foldl (⟨x, y, z⟩ : BlockPos) (fun _ => true) (fun chunk : Chunk => chunk.get x y z)]
  · rw [List.filter_true, lastWrite_eq_some_of_forall ⟨_, mem_terrainWrites.mpr ⟨hInside, rfl⟩⟩
      fun v hv => (mem_terrainWrites.mp hv).2]
    rfl
  · intro chunk write
    rw [Chunk.get_set]
    by_cases hSame : write.1 = ⟨x, y, z⟩
    · simp [hSame, hInside]
    · have hOther : ¬ (x = write.1.x ∧ y = write.1.y ∧ z = write.1.z) := by
        rintro ⟨rfl, rfl, rfl⟩
        exact hSame rfl
      simp [hSame, hOther]

end DevyFps.Voxel
