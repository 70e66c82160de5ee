import DevyFps.Shared.Voxel.PoiSpacing

/-! The values of the `int` expressions that world generation evaluates, function by function
and in the order of the source, as exact integers. -/

namespace DevyFps.Voxel

open Foundations FloatFormat

variable {F : Type} [SingleFloat F]

/-- Sanitising: the largest jitter is computed from the size of a cell. -/
def sanitizeInts (expansion : WorldExpansionProfile F) : List Int :=
  let cellSizeChunks :=
    if expansion.cellSizeChunks ≤ 0 then kDefaultCellSizeChunks else expansion.cellSizeChunks
  [cellSizeChunks * 32, cellSizeChunks * 32 / 2, cellSizeChunks * 32 / 2 - 1]

def hashSignedRangeInts (hash : UInt64) (minValue maxValue : Int) : List Int :=
  if minValue ≥ maxValue then []
  else
    [maxValue - minValue, maxValue - minValue + 1,
      (hash.toNat : Int) % (maxValue - minValue + 1), hashSignedRange hash minValue maxValue]

def floorDivInts (value divisor : Int) : List Int :=
  [value.tdiv divisor, value.tmod divisor, floorDiv value divisor]

/-- The middle and the centre of a cell on one axis. -/
def centerAxisInts (profile : WorldGenerationProfile F) (cell : Int) (hash : UInt64) : List Int :=
  let jitter := max 0 profile.expansion.jitterUnits
  [cell * cellSizeUnits profile, cellSizeUnits profile / 2,
    cell * cellSizeUnits profile + cellSizeUnits profile / 2, -jitter] ++
    hashSignedRangeInts hash (-jitter) jitter ++ [centerAxis profile cell hash]

/-- The density roll of a cell succeeds. -/
def occupied (hash : WorldHash) (profile : WorldGenerationProfile F) (cell : Int × Int) : Bool :=
  !lt (poiDensitySpawnProbability profile.expansion.poiDensity)
    (hashUnitFloat F (hash profile.worldSeed cell.1 cell.2 0xA7F4C53D))

def buildInts (hash : WorldHash) (cell : Int × Int) (profile : WorldGenerationProfile F) :
    List Int :=
  if !profile.expansion.enabled then []
  else if (enabledTypes profile.expansion.poiTypes).isEmpty then []
  else if !occupied hash profile cell then []
  else
    [cellSizeUnits profile] ++
      centerAxisInts profile cell.1 (hash profile.worldSeed cell.1 cell.2 0x1B7A0D11) ++
      centerAxisInts profile cell.2 (hash profile.worldSeed cell.1 cell.2 0x52A8749B)

/-- The candidate of the cell a step away. -/
def otherCandidate (hash : WorldHash) (candidate : PoiCandidate)
    (profile : WorldGenerationProfile F) (step : Int × Int) : PoiCandidate :=
  buildCandidate hash (candidate.cellX + step.1) (candidate.cellZ + step.2) profile

def squaredDistance (a b : PoiCandidate) : Int :=
  (b.centerX - a.centerX) * (b.centerX - a.centerX) +
    (b.centerZ - a.centerZ) * (b.centerZ - a.centerZ)

/-- The candidate a step away makes `survivesSpacing` return. -/
def blockedAt (hash : WorldHash) (candidate : PoiCandidate) (profile : WorldGenerationProfile F)
    (step : Int × Int) : Bool :=
  let other := otherCandidate hash candidate profile step
  other.valid &&
    decide (squaredDistance candidate other <
      profile.expansion.minPoiSpacingUnits * profile.expansion.minPoiSpacingUnits) &&
    candidateRankLess other candidate

def spacingStepInts (hash : WorldHash) (candidate : PoiCandidate)
    (profile : WorldGenerationProfile F) (step : Int × Int) : List Int :=
  let other := otherCandidate hash candidate profile step
  [candidate.cellX + step.1, candidate.cellZ + step.2] ++
    buildInts hash (candidate.cellX + step.1, candidate.cellZ + step.2) profile ++
    if other.valid then
      [other.centerX - candidate.centerX, other.centerZ - candidate.centerZ,
        (other.centerX - candidate.centerX) * (other.centerX - candidate.centerX),
        (other.centerZ - candidate.centerZ) * (other.centerZ - candidate.centerZ),
        squaredDistance candidate other]
    else []

/-- The loop variables run from the negated radius to one past it. -/
def spacingInts (hash : WorldHash) (candidate : PoiCandidate)
    (profile : WorldGenerationProfile F) : List Int :=
  let spacingUnits := profile.expansion.minPoiSpacingUnits
  if !candidate.valid then []
  else if spacingUnits ≤ 0 then []
  else
    [cellSizeUnits profile, spacingUnits / max 1 (cellSizeUnits profile),
      spacingUnits / max 1 (cellSizeUnits profile) + 2, searchRadius profile,
      spacingUnits * spacingUnits, -searchRadius profile, searchRadius profile + 1] ++
      (visitedUntil (blockedAt hash candidate profile)
        (neighbourCells (searchRadius profile))).flatMap
        (spacingStepInts hash candidate profile)

/-- The squared distance of the centre to the chunk. -/
def squaredDistanceToChunk (candidate : PoiCandidate) (chunkX chunkZ : Int) : Int :=
  (candidate.centerX - nearestInChunk candidate.centerX chunkX) *
      (candidate.centerX - nearestInChunk candidate.centerX chunkX) +
    (candidate.centerZ - nearestInChunk candidate.centerZ chunkZ) *
      (candidate.centerZ - nearestInChunk candidate.centerZ chunkZ)

/-- The lowest and the highest coordinate of a chunk on one axis. -/
def chunkAxisInts (chunk : Int) : List Int :=
  [chunk * kChunkSize, kChunkSize - 1, chunk * kChunkSize + (kChunkSize - 1)]

def intersectsInts (candidate : PoiCandidate) (chunkX chunkZ : Int) : List Int :=
  let dx := candidate.centerX - nearestInChunk candidate.centerX chunkX
  let dz := candidate.centerZ - nearestInChunk candidate.centerZ chunkZ
  chunkAxisInts chunkX ++ chunkAxisInts chunkZ ++
    [nearestInChunk candidate.centerX chunkX, nearestInChunk candidate.centerZ chunkZ, dx, dz,
      dx * dx, dz * dz, squaredDistanceToChunk candidate chunkX chunkZ,
      candidate.radiusUnits * candidate.radiusUnits]

/-- The search around one cell: the candidate is built, compared with its neighbours if it is
valid, and with the chunk if it survives. The loop variable goes on to the next cell. -/
def cellInts (hash : WorldHash) (chunkX chunkZ : Int) (profile : WorldGenerationProfile F)
    (cell : Int × Int) : List Int :=
  let candidate := buildCandidate hash cell.1 cell.2 profile
  [cell.1, cell.2, cell.1 + 1, cell.2 + 1] ++ buildInts hash cell profile ++
    spacingInts hash candidate profile ++
    if survivesSpacing hash candidate profile then intersectsInts candidate chunkX chunkZ else []

/-- The margin around the chunk. -/
def marginUnits (profile : WorldGenerationProfile F) : Int :=
  8 + max 0 profile.expansion.jitterUnits + cellSizeUnits profile

/-- The first and the last cell on one axis. -/
def boundInts (chunk : Int) (profile : WorldGenerationProfile F) : List Int :=
  chunkAxisInts chunk ++
    [chunk * kChunkSize - marginUnits profile,
      chunk * kChunkSize + (kChunkSize - 1) + marginUnits profile] ++
    floorDivInts (chunk * kChunkSize - marginUnits profile) (cellSizeUnits profile) ++
    floorDivInts (chunk * kChunkSize + (kChunkSize - 1) + marginUnits profile)
      (cellSizeUnits profile)

def gatherInts (hash : WorldHash) (chunkX chunkZ : Int) (profile : WorldGenerationProfile F) :
    List Int :=
  if !profile.expansion.enabled then []
  else
    [cellSizeUnits profile, 8 + max 0 profile.expansion.jitterUnits, marginUnits profile] ++
      boundInts chunkX profile ++ boundInts chunkZ profile ++
      (searchedCells chunkX chunkZ profile).flatMap (cellInts hash chunkX chunkZ profile)

/-- Sanitising a profile, and the search for a chunk. -/
def generationInts (hash : WorldHash) (chunkX chunkZ : Int) (profile : WorldGenerationProfile F) :
    List Int :=
  sanitizeInts profile.expansion ++ gatherInts hash chunkX chunkZ profile

variable {hash : WorldHash} {profile : WorldGenerationProfile F}

/-- Sanitising again evaluates what sanitising has evaluated. -/
theorem sanitizeInts_sanitize (expansion : WorldExpansionProfile F) :
    sanitizeInts (sanitizeExpansion expansion) = sanitizeInts expansion := by
  unfold sanitizeInts sanitizeExpansion kDefaultCellSizeChunks
  dsimp only
  by_cases hCell : expansion.cellSizeChunks ≤ 0
  · simp [hCell]
  · simp only [if_neg hCell]

theorem blockedAt_eq_false_iff {candidate : PoiCandidate} {step : Int × Int} :
    blockedAt hash candidate profile step = false ↔
      ((otherCandidate hash candidate profile step).valid = false ∨
        profile.expansion.minPoiSpacingUnits * profile.expansion.minPoiSpacingUnits ≤
          squaredDistance candidate (otherCandidate hash candidate profile step)) ∨
        candidateRankLess (otherCandidate hash candidate profile step) candidate = false := by
  simp only [blockedAt, Bool.and_eq_false_iff, decide_eq_false_iff_not, not_lt]

/-- A valid candidate survives where no neighbour blocks it. -/
theorem survivesSpacing_iff {candidate : PoiCandidate} :
    survivesSpacing hash candidate profile = true ↔ candidate.valid = true ∧
      (0 < profile.expansion.minPoiSpacingUnits →
        ∀ step ∈ neighbourCells (searchRadius profile),
          blockedAt hash candidate profile step = false) := by
  unfold survivesSpacing
  cases hValid : candidate.valid with
  | false => simp
  | true =>
      by_cases hSpacing : profile.expansion.minPoiSpacingUnits ≤ 0
      · simp [hSpacing]
      · have hPositive : 0 < profile.expansion.minPoiSpacingUnits := not_le.mp hSpacing
        simp only [Bool.not_true, Bool.false_eq_true, if_false, if_neg hSpacing, true_and,
          hPositive, forall_const, List.all_eq_true]
        apply forall₂_congr
        intro step _
        rw [blockedAt_eq_false_iff]
        simp only [otherCandidate, squaredDistance, Bool.or_eq_true, Bool.not_eq_true',
          decide_eq_true_eq, ge_iff_le]

end DevyFps.Voxel
