import DevyFps.Foundations.Sort
import DevyFps.Shared.Voxel.Terrain
import DevyFps.Shared.Voxel.WorldGenerationProfile

/-! Points of interest: one candidate structure in each cell of a grid over the world,
which candidates survive, and how a surviving one is stamped into a chunk. Coordinates
are exact integers; signed overflow has no defined outcome in the source. -/

namespace DevyFps.Voxel

open Foundations FloatFormat

inductive PoiType where
  | outpost
  | ruins
  | lootShrine
  deriving DecidableEq, Repr

/-- `static_cast<int>(type)`. -/
def PoiType.toInt : PoiType → Int
  | .outpost => 0
  | .ruins => 1
  | .lootShrine => 2

structure PoiCandidate where
  type : PoiType := .outpost
  centerX : Int := 0
  centerZ : Int := 0
  cellX : Int := 0
  cellZ : Int := 0
  radiusUnits : Int := 0
  rank : UInt64 := 0
  valid : Bool := false
  deriving DecidableEq

def splitmix64 (value : UInt64) : UInt64 :=
  let z := value + 0x9E3779B97F4A7C15
  let z := (z ^^^ (z >>> 30)) * 0xBF58476D1CE4E5B9
  let z := (z ^^^ (z >>> 27)) * 0x94D049BB133111EB
  z ^^^ (z >>> 31)

/-- A hash of the seed, two integer coordinates and a salt. -/
abbrev WorldHash := UInt32 → Int → Int → UInt64 → UInt64

def hashWorld : WorldHash := fun worldSeed x z salt =>
  let ux := (UInt32.ofInt x).toUInt64
  let uz := (UInt32.ofInt z).toUInt64
  splitmix64 (worldSeed.toUInt64 ^^^ (ux <<< 1) ^^^ (uz <<< 33) ^^^ salt)

def hashSignedRange (hash : UInt64) (minValue maxValue : Int) : Int :=
  if minValue ≥ maxValue then minValue
  else minValue + (hash.toNat : Int) % (maxValue - minValue + 1)

def floorDiv (value divisor : Int) : Int :=
  if divisor ≤ 0 then 0
  else
    let quotient := value.tdiv divisor
    let remainder := value.tmod divisor
    if remainder = 0 then quotient
    else if decide (value < 0) != decide (divisor < 0) then quotient - 1
    else quotient

def poiRadiusUnits : PoiType → Int
  | .outpost => 8
  | .ruins => 7
  | .lootShrine => 5

def candidateRankLess (lhs rhs : PoiCandidate) : Bool :=
  if lhs.rank ≠ rhs.rank then decide (lhs.rank < rhs.rank)
  else if lhs.cellX ≠ rhs.cellX then decide (lhs.cellX < rhs.cellX)
  else decide (lhs.cellZ < rhs.cellZ)

/-- The nearest coordinate of the chunk on one axis. -/
def nearestInChunk (center chunk : Int) : Int :=
  max (chunk * kChunkSize) (min center (chunk * kChunkSize + (kChunkSize - 1)))

def intersectsChunk (candidate : PoiCandidate) (chunkX chunkZ : Int) : Bool :=
  let dx := candidate.centerX - nearestInChunk candidate.centerX chunkX
  let dz := candidate.centerZ - nearestInChunk candidate.centerZ chunkZ
  let radius := candidate.radiusUnits
  decide (dx * dx + dz * dz ≤ radius * radius)

variable {F : Type} [SingleFloat F]

def hashUnitFloat (F : Type) [SingleFloat F] (hash : UInt64) : F :=
  let inv : SingleFloat.Double F := ofRat 1 / ofRat 0xFFFFFFFF
  let lower := hash &&& 0xFFFFFFFF
  SingleFloat.narrow (ofInt lower.toNat * inv)

def enabledTypes (toggles : PoiTypeToggles) : List PoiType :=
  (if toggles.outpost then [.outpost] else []) ++ (if toggles.ruins then [.ruins] else []) ++
    (if toggles.lootShrine then [.lootShrine] else [])

def cellSizeUnits (profile : WorldGenerationProfile F) : Int :=
  max 1 profile.expansion.cellSizeChunks * kChunkSize

/-- The centre of a cell's candidate on one axis: the middle of the cell and an offset. -/
def centerAxis (profile : WorldGenerationProfile F) (cell : Int) (hash : UInt64) : Int :=
  let jitter := max 0 profile.expansion.jitterUnits
  cell * cellSizeUnits profile + cellSizeUnits profile / 2 + hashSignedRange hash (-jitter) jitter

def buildCandidate (hash : WorldHash) (cellX cellZ : Int) (profile : WorldGenerationProfile F) :
    PoiCandidate :=
  let seed := profile.worldSeed
  let types := enabledTypes profile.expansion.poiTypes
  if !profile.expansion.enabled then {}
  else if types.isEmpty then {}
  else if lt (poiDensitySpawnProbability profile.expansion.poiDensity)
      (hashUnitFloat F (hash seed cellX cellZ 0xA7F4C53D)) then {}
  else
    let centerX := centerAxis profile cellX (hash seed cellX cellZ 0x1B7A0D11)
    let centerZ := centerAxis profile cellZ (hash seed cellX cellZ 0x52A8749B)
    let typeHash := hash seed cellX cellZ 0x7F4A7C15
    let type := types.getD (typeHash.toNat % types.length) .outpost
    if centerX < 0 ∨ centerZ < 0 then {}
    else
      { type := type
        centerX := centerX
        centerZ := centerZ
        cellX := cellX
        cellZ := cellZ
        radiusUnits := poiRadiusUnits type
        rank := hash seed cellX cellZ 0x93D76517
        valid := true }

/-- The cells around the origin that are visited, the origin left out. -/
def neighbourCells (cellRadius : Int) : List (Int × Int) :=
  (intRange (-cellRadius) cellRadius).flatMap fun dz =>
    ((intRange (-cellRadius) cellRadius).filter fun dx => !(dx = 0 && dz = 0)).map fun dx =>
      (dx, dz)

def survivesSpacing (hash : WorldHash) (candidate : PoiCandidate)
    (profile : WorldGenerationProfile F) : Bool :=
  let spacingUnits := profile.expansion.minPoiSpacingUnits
  if !candidate.valid then false
  else if spacingUnits ≤ 0 then true
  else
    let cellRadius := max 1 (spacingUnits / max 1 (cellSizeUnits profile) + 2)
    let spacingSq := spacingUnits * spacingUnits
    (neighbourCells cellRadius).all fun cell =>
      let other := buildCandidate hash (candidate.cellX + cell.1) (candidate.cellZ + cell.2) profile
      let distanceX := other.centerX - candidate.centerX
      let distanceZ := other.centerZ - candidate.centerZ
      !other.valid || decide (distanceX * distanceX + distanceZ * distanceZ ≥ spacingSq) ||
        !candidateRankLess other candidate

/-- A block is placed if it lies in this chunk and below the height limit. -/
def setBlockIfInChunk (coord : ChunkCoord) (maxHeight : Int) (chunk : Chunk) (write : BlockWrite) :
    Chunk :=
  let world := write.1
  if world.x < 0 ∨ world.y < 0 ∨ world.z < 0 ∨ world.y ≥ maxHeight then chunk
  else if world.x / kChunkSize ≠ coord.x ∨ world.y / kChunkSize ≠ coord.y ∨
      world.z / kChunkSize ≠ coord.z then chunk
  else chunk.set (world.x % kChunkSize) (world.y % kChunkSize) (world.z % kChunkSize) write.2

/-- A column of one block, from `low` to `high` above the floor. -/
def column (x floorY z low high : Int) (block : BlockId) : List BlockWrite :=
  (intRange low high).map fun h => (⟨x, floorY + h, z⟩, block)

/-- The floor and the walls, the gate, the tower and its top. -/
def outpostWrites (candidate : PoiCandidate) (floorY : Int) : List BlockWrite :=
  ((intRange (-6) 6).flatMap fun dz =>
    (intRange (-6) 6).flatMap fun dx =>
      let worldX := candidate.centerX + dx
      let worldZ := candidate.centerZ + dz
      let perimeter := dx.natAbs = 6 ∨ dz.natAbs = 6
      (⟨worldX, floorY, worldZ⟩, 2) ::
        (if perimeter then column worldX floorY worldZ 1 3 2 else [])) ++
  ((intRange (-1) 1).flatMap fun gateX =>
    column (candidate.centerX + gateX) floorY (candidate.centerZ - 6) 1 2 0) ++
  column (candidate.centerX + 5) floorY (candidate.centerZ + 5) 1 6 2 ++
  [(⟨candidate.centerX + 5, floorY + 7, candidate.centerZ + 5⟩, 3)]

/-- A chequered floor inside broken walls; a hash decides where a wall is missing. -/
def ruinsWrites (hash : WorldHash) (worldSeed : UInt32) (candidate : PoiCandidate) (floorY : Int) :
    List BlockWrite :=
  (intRange (-5) 5).flatMap fun dz =>
    (intRange (-5) 5).flatMap fun dx =>
      let worldX := candidate.centerX + dx
      let worldZ := candidate.centerZ + dz
      let perimeter := dx.natAbs = 5 ∨ dz.natAbs = 5
      if ¬ perimeter then
        [(⟨worldX, floorY, worldZ⟩, if (dx + dz) % 2 = 0 then 2 else 1)]
      else if hash worldSeed worldX worldZ 0xC2B2AE3D % 4 = 0 then []
      else column worldX floorY worldZ 1 2 2

/-- A round floor, a pillar with its top, and four lights. -/
def lootShrineWrites (candidate : PoiCandidate) (floorY : Int) : List BlockWrite :=
  ((intRange (-3) 3).flatMap fun dz =>
    (intRange (-3) 3).flatMap fun dx =>
      if dx * dx + dz * dz ≤ 10 then
        [(⟨candidate.centerX + dx, floorY, candidate.centerZ + dz⟩, 2)]
      else []) ++
  column candidate.centerX floorY candidate.centerZ 1 3 2 ++
  [(⟨candidate.centerX, floorY + 4, candidate.centerZ⟩, 3)] ++
  [((3 : Int), (0 : Int)), (-3, 0), (0, 3), (0, -3)].map fun offset =>
    (⟨candidate.centerX + offset.1, floorY + 1, candidate.centerZ + offset.2⟩, 3)

/-- The floor of a structure, inside the height limit. -/
def floorLevel (baseHeight maxHeight : Int) : Int :=
  max 0 (min (baseHeight - 1) (max 0 (maxHeight - 1)))

def stampOutpost (coord : ChunkCoord) (candidate : PoiCandidate) (baseHeight maxHeight : Int)
    (chunk : Chunk) : Chunk :=
  (outpostWrites candidate (floorLevel baseHeight maxHeight)).foldl
    (setBlockIfInChunk coord maxHeight) chunk

def stampRuins (hash : WorldHash) (worldSeed : UInt32) (coord : ChunkCoord)
    (candidate : PoiCandidate) (baseHeight maxHeight : Int) (chunk : Chunk) : Chunk :=
  (ruinsWrites hash worldSeed candidate (floorLevel baseHeight maxHeight)).foldl
    (setBlockIfInChunk coord maxHeight) chunk

def stampLootShrine (coord : ChunkCoord) (candidate : PoiCandidate) (baseHeight maxHeight : Int)
    (chunk : Chunk) : Chunk :=
  (lootShrineWrites candidate (floorLevel baseHeight maxHeight)).foldl
    (setBlockIfInChunk coord maxHeight) chunk

/-- The stamp that belongs to the type of the candidate. -/
def stampPoi (hash : WorldHash) (worldSeed : UInt32) (coord : ChunkCoord)
    (candidate : PoiCandidate) (baseHeight maxHeight : Int) (chunk : Chunk) : Chunk :=
  match candidate.type with
  | .outpost => stampOutpost coord candidate baseHeight maxHeight chunk
  | .ruins => stampRuins hash worldSeed coord candidate baseHeight maxHeight chunk
  | .lootShrine => stampLootShrine coord candidate baseHeight maxHeight chunk

/-- The order in which the structures of a chunk are drawn. -/
def poiDrawLess (lhs rhs : PoiCandidate) : Bool :=
  if lhs.centerX ≠ rhs.centerX then decide (lhs.centerX < rhs.centerX)
  else if lhs.centerZ ≠ rhs.centerZ then decide (lhs.centerZ < rhs.centerZ)
  else decide (lhs.type.toInt < rhs.type.toInt)

/-- The first and the last cell that are searched on one axis. -/
def cellBounds (chunk : Int) (profile : WorldGenerationProfile F) : Int × Int :=
  let maxRadius := 8
  let marginUnits := maxRadius + max 0 profile.expansion.jitterUnits + cellSizeUnits profile
  let chunkMin := chunk * kChunkSize
  let chunkMax := chunkMin + (kChunkSize - 1)
  (floorDiv (chunkMin - marginUnits) (cellSizeUnits profile),
    floorDiv (chunkMax + marginUnits) (cellSizeUnits profile))

/-- The candidates of the searched cells, in the order of the loops. -/
def searchedCandidates (hash : WorldHash) (chunkX chunkZ : Int)
    (profile : WorldGenerationProfile F) : List PoiCandidate :=
  let boundsX := cellBounds chunkX profile
  let boundsZ := cellBounds chunkZ profile
  (intRange boundsZ.1 boundsZ.2).flatMap fun cellZ =>
    (intRange boundsX.1 boundsX.2).map fun cellX => buildCandidate hash cellX cellZ profile

def gatherChunkCandidates (hash : WorldHash) (chunkX chunkZ : Int)
    (profile : WorldGenerationProfile F) : List PoiCandidate :=
  if !profile.expansion.enabled then []
  else
    sortBy poiDrawLess <| (searchedCandidates hash chunkX chunkZ profile).filter fun candidate =>
      candidate.valid && survivesSpacing hash candidate profile &&
        intersectsChunk candidate chunkX chunkZ

end DevyFps.Voxel
