import DevyFps.Foundations.IntRange
import DevyFps.Shared.Voxel.GenerationInts

/-! When world generation stays in the range of `int`: which of the values that are evaluated
for the cells of the grid can leave it. -/

namespace DevyFps.Voxel

open Foundations FloatFormat

variable {F : Type} [SingleFloat F]

/-- The exact centre of a cell, before it is known to be used. -/
def cellCentre (hash : WorldHash) (profile : WorldGenerationProfile F) (cell : Int × Int) :
    Int × Int :=
  (centerAxis profile cell.1 (hash profile.worldSeed cell.1 cell.2 0x1B7A0D11),
    centerAxis profile cell.2 (hash profile.worldSeed cell.1 cell.2 0x52A8749B))

/-- The roll of the cell succeeds and its centre has no negative coordinate. -/
def IsSite (hash : WorldHash) (profile : WorldGenerationProfile F) (cell : Int × Int) : Prop :=
  occupied hash profile cell = true ∧ 0 ≤ (cellCentre hash profile cell).1 ∧
    0 ≤ (cellCentre hash profile cell).2

def distanceSquared (a b : Int × Int) : Int :=
  (b.1 - a.1) * (b.1 - a.1) + (b.2 - a.2) * (b.2 - a.2)

def cellRank (hash : WorldHash) (profile : WorldGenerationProfile F) (cell : Int × Int) : UInt64 :=
  hash profile.worldSeed cell.1 cell.2 0x93D76517

def RanksBefore (hash : WorldHash) (profile : WorldGenerationProfile F) (a b : Int × Int) : Prop :=
  cellRank hash profile a < cellRank hash profile b ∨
    cellRank hash profile a = cellRank hash profile b ∧ (a.1 < b.1 ∨ a.1 = b.1 ∧ a.2 < b.2)

/-- The site is closer than the spacing and ranks before the cell. -/
def Blocks (hash : WorldHash) (profile : WorldGenerationProfile F) (other cell : Int × Int) :
    Prop :=
  IsSite hash profile other ∧
    distanceSquared (cellCentre hash profile cell) (cellCentre hash profile other) <
      profile.expansion.minPoiSpacingUnits * profile.expansion.minPoiSpacingUnits ∧
    RanksBefore hash profile other cell

def neighbour (cell step : Int × Int) : Int × Int := (cell.1 + step.1, cell.2 + step.2)

/-- The order of the loops over the neighbours. -/
def LoopBefore (a b : Int × Int) : Prop := a.2 < b.2 ∨ a.2 = b.2 ∧ a.1 < b.1

/-- No neighbour that comes earlier blocks the cell. -/
def Visited (hash : WorldHash) (profile : WorldGenerationProfile F) (cell step : Int × Int) :
    Prop :=
  step ∈ neighbourCells (searchRadius profile) ∧
    ∀ earlier ∈ neighbourCells (searchRadius profile), LoopBefore earlier step →
      ¬ Blocks hash profile (neighbour cell earlier) cell

/-- The start, the middle and the centre of a cell on one axis are in range. -/
structure AxisFits (profile : WorldGenerationProfile F) (cell : Int) (hash : UInt64) : Prop where
  start : -2147483648 ≤ cell * cellSizeUnits profile
  middle : cell * cellSizeUnits profile + cellSizeUnits profile / 2 ≤ 2147483647
  centre : centerAxis profile cell hash ≤ 2147483647

def CellFits (hash : WorldHash) (profile : WorldGenerationProfile F) (cell : Int × Int) : Prop :=
  AxisFits profile cell.1 (hash profile.worldSeed cell.1 cell.2 0x1B7A0D11) ∧
    AxisFits profile cell.2 (hash profile.worldSeed cell.1 cell.2 0x52A8749B)

/-- The point of the chunk that is nearest to a centre. -/
def nearestPoint (centre : Int × Int) (chunkX chunkZ : Int) : Int × Int :=
  (nearestInChunk centre.1 chunkX, nearestInChunk centre.2 chunkZ)

/-- What has to be in range around one cell that is searched. -/
structure SiteFits (hash : WorldHash) (chunkX chunkZ : Int) (profile : WorldGenerationProfile F)
    (cell : Int × Int) : Prop where
  spacing : profile.expansion.minPoiSpacingUnits ≤ 46340
  neighbours : 0 < profile.expansion.minPoiSpacingUnits → ∀ step, Visited hash profile cell step →
    occupied hash profile (neighbour cell step) = true →
      CellFits hash profile (neighbour cell step) ∧
        (IsSite hash profile (neighbour cell step) →
          distanceSquared (cellCentre hash profile cell)
            (cellCentre hash profile (neighbour cell step)) ≤ 2147483647)
  chunk : (0 < profile.expansion.minPoiSpacingUnits →
      ∀ step ∈ neighbourCells (searchRadius profile),
        ¬ Blocks hash profile (neighbour cell step) cell) →
    distanceSquared (nearestPoint (cellCentre hash profile cell) chunkX chunkZ)
      (cellCentre hash profile cell) ≤ 2147483647

/-- What has to be in range in the search for one chunk. -/
structure SearchFits (hash : WorldHash) (chunkX chunkZ : Int) (profile : WorldGenerationProfile F) :
    Prop where
  reach : 32 * max chunkX chunkZ + 39 + profile.expansion.jitterUnits +
    32 * profile.expansion.cellSizeChunks ≤ 2147483647
  cells : ∀ cell ∈ searchedCells chunkX chunkZ profile, occupied hash profile cell = true →
    CellFits hash profile cell
  sites : ∀ cell ∈ searchedCells chunkX chunkZ profile, IsSite hash profile cell →
    SiteFits hash chunkX chunkZ profile cell

structure GenerationFits (hash : WorldHash) (chunkX chunkZ : Int)
    (profile : WorldGenerationProfile F) : Prop where
  cellSize : profile.expansion.cellSizeChunks ≤ 67108863
  search : profile.expansion.enabled = true → SearchFits hash chunkX chunkZ profile

/-- The numbers of an accepted profile whose cells can be measured. -/
structure WorldGenerationProfile.Measured (profile : WorldGenerationProfile F) : Prop where
  cellSize : cellSizeUnits profile = 32 * profile.expansion.cellSizeChunks
  cellSizeLow : 32 ≤ cellSizeUnits profile
  cellSizeHigh : cellSizeUnits profile ≤ 2147483647
  jitter : 0 ≤ profile.expansion.jitterUnits
  jitterInCell : 2 * profile.expansion.jitterUnits + 2 ≤ cellSizeUnits profile
  spacing : profile.expansion.minPoiSpacingUnits ≤ 2147483647
  someType : (enabledTypes profile.expansion.poiTypes).isEmpty = false

variable {hash : WorldHash} {profile : WorldGenerationProfile F}

/-- The only product of the sanitizing is that of the cell size. -/
theorem allFit_sanitizeInts_iff {expansion : WorldExpansionProfile F}
    (h : 0 < expansion.cellSizeChunks) :
    AllFit (sanitizeInts expansion) ↔ expansion.cellSizeChunks ≤ 67108863 := by
  have hGiven : ¬ expansion.cellSizeChunks ≤ 0 := by omega
  simp only [sanitizeInts, if_neg hGiven, allFit_cons, allFit_nil, fitsInt_iff, and_true]
  omega

/-- A sane profile whose two large fields fit is measured. -/
theorem WorldExpansionProfile.Sane.measured (h : profile.expansion.Sane)
    (hSize : profile.expansion.cellSizeChunks ≤ 67108863)
    (hSpacing : profile.expansion.minPoiSpacingUnits ≤ 2147483647) : profile.Measured := by
  have hCell := h.cellSize
  have hJitter := h.jitterInCell
  have hUnits : cellSizeUnits profile = 32 * profile.expansion.cellSizeChunks := by
    unfold cellSizeUnits kChunkSize
    omega
  refine ⟨hUnits, by omega, by omega, h.jitter, by omega, hSpacing, ?_⟩
  have hSome := h.someType
  unfold enabledTypes
  revert hSome
  cases profile.expansion.poiTypes.outpost <;> cases profile.expansion.poiTypes.ruins <;>
    cases profile.expansion.poiTypes.lootShrine <;> decide

namespace WorldGenerationProfile.Measured

/-- The offset of a centre never leaves the range. -/
theorem allFit_hashSignedRangeInts (h : profile.Measured) (raw : UInt64) :
    AllFit (hashSignedRangeInts raw (-(max 0 profile.expansion.jitterUnits))
      (max 0 profile.expansion.jitterUnits)) := by
  have hJitter := h.jitter
  have hInCell := h.jitterInCell
  have hHigh := h.cellSizeHigh
  have hOffset := hashSignedRange_bounds raw
    (by omega : -(max 0 profile.expansion.jitterUnits) ≤ max 0 profile.expansion.jitterUnits)
  unfold hashSignedRangeInts
  split
  · exact allFit_nil.mpr trivial
  · have hNonneg := Int.emod_nonneg (raw.toNat : Int) (by omega :
      max 0 profile.expansion.jitterUnits - -max 0 profile.expansion.jitterUnits + 1 ≠ 0)
    have hLess := Int.emod_lt_of_pos (raw.toNat : Int) (by omega :
      0 < max 0 profile.expansion.jitterUnits - -max 0 profile.expansion.jitterUnits + 1)
    simp only [allFit_cons, allFit_nil, fitsInt_iff, and_true]
    omega

/-- The centre of a cell along one axis. -/
theorem allFit_centerAxisInts_iff (h : profile.Measured) (cell : Int) (raw : UInt64) :
    AllFit (centerAxisInts profile cell raw) ↔ AxisFits profile cell raw := by
  have hJitter := h.jitter
  have hInCell := h.jitterInCell
  have hHigh := h.cellSizeHigh
  have hCentre := centerAxis_bounds profile cell raw
  have hOffset := h.allFit_hashSignedRangeInts raw
  unfold centerAxisInts
  simp only [allFit_append, allFit_cons, allFit_nil, hOffset, fitsInt_iff, and_true]
  constructor
  · rintro ⟨⟨hStart, -, hMiddle, -⟩, hCentreFits⟩
    exact ⟨hStart.1, hMiddle.2, hCentreFits.2⟩
  · rintro ⟨hStart, hMiddle, hCentreFits⟩
    omega

/-- A candidate is built for an occupied cell only, so its centre is what must fit. -/
theorem allFit_buildInts_iff (h : profile.Measured) (hEnabled : profile.expansion.enabled = true)
    (cell : Int × Int) :
    AllFit (buildInts hash cell profile) ↔
      (occupied hash profile cell = true → CellFits hash profile cell) := by
  have hLow := h.cellSizeLow
  have hHigh := h.cellSizeHigh
  have hSize : FitsInt (cellSizeUnits profile) := fitsInt_iff.mpr (by omega)
  unfold buildInts CellFits
  rw [hEnabled, h.someType]
  cases occupied hash profile cell with
  | false => simp
  | true =>
      simp only [Bool.not_true, Bool.false_eq_true, if_false, allFit_append, allFit_cons,
        allFit_nil, hSize, h.allFit_centerAxisInts_iff, and_true, true_and, forall_const]

/-- A built candidate is valid exactly at a site. -/
theorem valid_buildCandidate_iff (h : profile.Measured) (hash : WorldHash)
    (hEnabled : profile.expansion.enabled = true) (cell : Int × Int) :
    (buildCandidate hash cell.1 cell.2 profile).valid = true ↔ IsSite hash profile cell := by
  unfold buildCandidate IsSite occupied cellCentre
  dsimp only
  rw [hEnabled, h.someType]
  cases lt (poiDensitySpawnProbability profile.expansion.poiDensity)
      (hashUnitFloat F (hash profile.worldSeed cell.1 cell.2 0xA7F4C53D)) with
  | true => simp
  | false =>
      simp only [Bool.not_true, Bool.false_eq_true, if_false, Bool.not_false, true_and]
      split
      · rename_i hNegative
        simp only [Bool.false_eq_true, false_iff]
        omega
      · rename_i hNonneg
        simp only [true_iff]
        omega

end WorldGenerationProfile.Measured

/-- The rank of a candidate is that of its cell. -/
theorem rank_buildCandidate {cellX cellZ : Int}
    (h : (buildCandidate hash cellX cellZ profile).valid = true) :
    (buildCandidate hash cellX cellZ profile).rank = cellRank hash profile (cellX, cellZ) := by
  unfold buildCandidate at h ⊢
  dsimp only at h ⊢
  split_ifs at h ⊢
  rfl

/-- The comparison of two candidates, by rank and then by cell. -/
theorem candidateRankLess_iff {a b : PoiCandidate} :
    candidateRankLess a b = true ↔ a.rank < b.rank ∨
      a.rank = b.rank ∧ (a.cellX < b.cellX ∨ a.cellX = b.cellX ∧ a.cellZ < b.cellZ) := by
  unfold candidateRankLess
  split
  · rename_i hRank
    simp [hRank]
  · rename_i hRank
    rw [not_not] at hRank
    split
    · rename_i hX
      simp [hRank, hX]
    · rename_i hX
      rw [not_not] at hX
      simp [hRank, hX]

/-- The neighbours are listed in the order of the two loops. -/
theorem pairwise_neighbourCells (cellRadius : Int) :
    (neighbourCells cellRadius).Pairwise LoopBefore := by
  unfold neighbourCells
  rw [List.pairwise_flatMap]
  constructor
  · intro dz _
    rw [List.pairwise_map]
    apply ((pairwise_lt_intRange _ _).filter _).imp
    intro a b hLess
    exact Or.inr ⟨rfl, hLess⟩
  · apply (pairwise_lt_intRange _ _).imp
    intro low high hLess a ha b hb
    obtain ⟨dx, -, rfl⟩ := List.mem_map.mp ha
    obtain ⟨dx', -, rfl⟩ := List.mem_map.mp hb
    exact Or.inl hLess

theorem loopBefore_asymm (a b : Int × Int) (h : LoopBefore a b) : ¬ LoopBefore b a := by
  unfold LoopBefore at h ⊢
  omega

section Candidates

variable {cell step : Int × Int}

/-- The candidate of a site. -/
structure StandsAt (hash : WorldHash) (profile : WorldGenerationProfile F) (cell : Int × Int)
    (candidate : PoiCandidate) : Prop where
  valid : candidate.valid = true
  cellX : candidate.cellX = cell.1
  cellZ : candidate.cellZ = cell.2
  centerX : candidate.centerX = (cellCentre hash profile cell).1
  centerZ : candidate.centerZ = (cellCentre hash profile cell).2
  rank : candidate.rank = cellRank hash profile cell
  radius : 0 ≤ candidate.radiusUnits ∧ candidate.radiusUnits ≤ 8

/-- A valid candidate stands at the centre of its cell. -/
theorem standsAt_buildCandidate (h : (buildCandidate hash cell.1 cell.2 profile).valid = true) :
    StandsAt hash profile cell (buildCandidate hash cell.1 cell.2 profile) := by
  obtain ⟨-, hCellX, hCellZ, hCenterX, hCenterZ, hRadius⟩ := buildCandidate_valid h
  refine ⟨h, hCellX, hCellZ, hCenterX, hCenterZ, rank_buildCandidate h, ?_⟩
  rw [hRadius]
  exact poiRadiusUnits_le _

variable {a b : PoiCandidate} {other : Int × Int}

/-- Distances between candidates are those between the centres of their cells. -/
theorem StandsAt.squaredDistance_eq (ha : StandsAt hash profile cell a)
    (hb : StandsAt hash profile other b) :
    squaredDistance a b =
      distanceSquared (cellCentre hash profile cell) (cellCentre hash profile other) := by
  unfold squaredDistance distanceSquared
  rw [ha.centerX, ha.centerZ, hb.centerX, hb.centerZ]

/-- The comparison of two candidates is that of their cells. -/
theorem StandsAt.rankLess_iff (ha : StandsAt hash profile cell a)
    (hb : StandsAt hash profile other b) :
    candidateRankLess b a = true ↔ RanksBefore hash profile other cell := by
  rw [candidateRankLess_iff, ha.rank, ha.cellX, ha.cellZ, hb.rank, hb.cellX, hb.cellZ]
  rfl

/-- The candidate that a step of the search looks at is that of the neighbouring cell. -/
theorem StandsAt.otherCandidate_eq (ha : StandsAt hash profile cell a) :
    otherCandidate hash a profile step =
      buildCandidate hash (neighbour cell step).1 (neighbour cell step).2 profile := by
  unfold otherCandidate
  rw [ha.cellX, ha.cellZ]
  rfl

/-- A step of the search ends it exactly if the neighbour blocks the cell. -/
theorem StandsAt.blockedAt_iff (ha : StandsAt hash profile cell a) (h : profile.Measured)
    (hEnabled : profile.expansion.enabled = true) :
    blockedAt hash a profile step = true ↔ Blocks hash profile (neighbour cell step) cell := by
  have hSite := h.valid_buildCandidate_iff hash hEnabled (neighbour cell step)
  unfold blockedAt Blocks
  rw [ha.otherCandidate_eq, ← hSite]
  simp only [Bool.and_eq_true, decide_eq_true_eq, and_assoc]
  refine and_congr_right fun hValid => ?_
  have hb := standsAt_buildCandidate hValid
  rw [ha.squaredDistance_eq hb, ha.rankLess_iff hb]

/-- The steps of the search that are taken before it ends. -/
theorem StandsAt.mem_visited_iff (ha : StandsAt hash profile cell a) (h : profile.Measured)
    (hEnabled : profile.expansion.enabled = true) :
    step ∈ visitedUntil (blockedAt hash a profile) (neighbourCells (searchRadius profile)) ↔
      Visited hash profile cell step := by
  rw [mem_visitedUntil_iff loopBefore_asymm (pairwise_neighbourCells _)]
  unfold Visited
  refine and_congr_right fun _ => forall₃_congr fun earlier _ _ => ?_
  rw [← ha.blockedAt_iff h hEnabled, Bool.not_eq_true]

/-- A candidate survives exactly if no neighbour blocks its cell. -/
theorem StandsAt.survives_iff (ha : StandsAt hash profile cell a) (h : profile.Measured)
    (hEnabled : profile.expansion.enabled = true) :
    survivesSpacing hash a profile = true ↔ (0 < profile.expansion.minPoiSpacingUnits →
      ∀ step ∈ neighbourCells (searchRadius profile),
        ¬ Blocks hash profile (neighbour cell step) cell) := by
  rw [survivesSpacing_iff, and_iff_right ha.valid]
  refine imp_congr_right fun _ => forall₂_congr fun step _ => ?_
  rw [← ha.blockedAt_iff h hEnabled, Bool.not_eq_true]

end Candidates

namespace WorldGenerationProfile.Measured

/-- The radius of the search, over all measured profiles. -/
theorem searchRadius_bounds (h : profile.Measured) :
    1 ≤ searchRadius profile ∧ searchRadius profile ≤ 67108865 := by
  have hLow := h.cellSizeLow
  have hSpacing := h.spacing
  have hQuotient : profile.expansion.minPoiSpacingUnits / cellSizeUnits profile ≤ 67108863 := by
    apply Int.lt_add_one_iff.mp
    apply Int.ediv_lt_of_lt_mul (by omega)
    nlinarith
  unfold searchRadius
  rw [max_eq_right (by omega : 1 ≤ cellSizeUnits profile)]
  omega

/-- The cells that can be measured are not many. -/
theorem cell_bounds (h : profile.Measured) {cell : Int} {raw : UInt64}
    (hFits : AxisFits profile cell raw) : -67108864 ≤ cell ∧ cell ≤ 67108864 := by
  have hLow := h.cellSizeLow
  have hStart := hFits.start
  have hMiddle := hFits.middle
  have hHalf : 0 ≤ cellSizeUnits profile / 2 := by omega
  constructor
  · by_contra hFar
    nlinarith
  · by_contra hFar
    nlinarith

/-- A cell index of an `int` is far inside the range. -/
theorem ediv_cellSize_bounds (h : profile.Measured) {value : Int} (hValue : FitsInt value) :
    -67108864 ≤ value / cellSizeUnits profile ∧ value / cellSizeUnits profile ≤ 67108863 := by
  have hLow := h.cellSizeLow
  rw [fitsInt_iff] at hValue
  constructor
  · apply (Int.le_ediv_iff_mul_le (by omega)).mpr
    omega
  · apply Int.lt_add_one_iff.mp
    apply Int.ediv_lt_of_lt_mul (by omega)
    omega

/-- The floored division never leaves the range. -/
theorem allFit_floorDivInts (h : profile.Measured) {value : Int} (hValue : FitsInt value) :
    AllFit (floorDivInts value (cellSizeUnits profile)) := by
  have hLow := h.cellSizeLow
  have hHigh := h.cellSizeHigh
  have hFloor := h.ediv_cellSize_bounds hValue
  have hQuotient : value.tdiv (cellSizeUnits profile) = value / cellSizeUnits profile ∨
      value.tdiv (cellSizeUnits profile) = value / cellSizeUnits profile + 1 := by
    rw [Int.tdiv_eq_ediv, Int.sign_eq_one_of_pos (by omega)]
    split
    · exact Or.inl (add_zero _)
    · exact Or.inr rfl
  have hRemainderLow := Int.lt_tmod_of_pos value (show 0 < cellSizeUnits profile by omega)
  have hRemainderHigh := Int.tmod_lt_of_pos value (show 0 < cellSizeUnits profile by omega)
  unfold floorDivInts
  rw [floorDiv_eq_ediv value (by omega)]
  simp only [allFit_cons, allFit_nil, fitsInt_iff, and_true]
  omega

/-- How far the site of a neighbouring chunk can reach. -/
theorem marginUnits_eq (h : profile.Measured) : marginUnits profile =
    8 + profile.expansion.jitterUnits + 32 * profile.expansion.cellSizeChunks := by
  have hSize := h.cellSize
  have hJitter := h.jitter
  unfold marginUnits
  omega

/-- The far end of the square around the chunk is in range. -/
def Reaches (profile : WorldGenerationProfile F) (chunk : Int) : Prop :=
  32 * chunk + 39 + profile.expansion.jitterUnits + 32 * profile.expansion.cellSizeChunks ≤
    2147483647

/-- Both ends of the square are then in range. -/
theorem ends_fit (h : profile.Measured) {chunk : Int} (hChunk : 0 ≤ chunk ∧ chunk ≤ 63)
    (hReach : Reaches profile chunk) :
    FitsInt (chunk * kChunkSize - marginUnits profile) ∧
      FitsInt (chunk * kChunkSize + (kChunkSize - 1) + marginUnits profile) := by
  have hSize := h.cellSize
  have hJitter := h.jitter
  have hLow := h.cellSizeLow
  unfold Reaches at hReach
  rw [fitsInt_iff, fitsInt_iff, h.marginUnits_eq, kChunkSize]
  omega

/-- The bounds of the searched cells along one axis. -/
theorem allFit_boundInts_iff (h : profile.Measured) {chunk : Int}
    (hChunk : 0 ≤ chunk ∧ chunk ≤ 63) :
    AllFit (boundInts chunk profile) ↔ Reaches profile chunk := by
  constructor
  · intro hAll
    simp only [boundInts, allFit_append, allFit_cons, fitsInt_iff, h.marginUnits_eq, kChunkSize]
      at hAll
    unfold Reaches
    omega
  · intro hReach
    obtain ⟨hNear, hFar⟩ := h.ends_fit hChunk hReach
    have hAxis : AllFit (chunkAxisInts chunk) := by
      simp only [chunkAxisInts, allFit_cons, allFit_nil, fitsInt_iff, kChunkSize, and_true]
      omega
    simp only [boundInts, allFit_append, allFit_cons, allFit_nil, and_true]
    exact ⟨⟨⟨hAxis, hNear, hFar⟩, h.allFit_floorDivInts hNear⟩, h.allFit_floorDivInts hFar⟩

/-- The centres of cells in range, at sites, are coordinates. -/
theorem site_bounds {cell : Int × Int} (hFits : CellFits hash profile cell)
    (hSite : IsSite hash profile cell) :
    (0 ≤ (cellCentre hash profile cell).1 ∧ (cellCentre hash profile cell).1 ≤ 2147483647) ∧
      0 ≤ (cellCentre hash profile cell).2 ∧ (cellCentre hash profile cell).2 ≤ 2147483647 :=
  ⟨⟨hSite.2.1, hFits.1.centre⟩, hSite.2.2, hFits.2.centre⟩

/-- Two squares and their sum fit if the sum does. -/
theorem allFit_squares_iff {x z : Int} (hX : FitsInt x) (hZ : FitsInt z) :
    AllFit [x, z, x * x, z * z, x * x + z * z] ↔ x * x + z * z ≤ 2147483647 := by
  have hSquareX : 0 ≤ x * x := mul_self_nonneg x
  have hSquareZ : 0 ≤ z * z := mul_self_nonneg z
  simp only [allFit_cons, allFit_nil, and_true, hX, hZ, true_and, fitsInt_iff]
  omega

/-- What is evaluated for one neighbour of a site. -/
theorem allFit_spacingStepInts_iff (h : profile.Measured)
    (hEnabled : profile.expansion.enabled = true) {cell step : Int × Int} {a : PoiCandidate}
    (ha : StandsAt hash profile cell a) (hFits : CellFits hash profile cell)
    (hSite : IsSite hash profile cell) (hStep : step ∈ neighbourCells (searchRadius profile)) :
    AllFit (spacingStepInts hash a profile step) ↔
      (occupied hash profile (neighbour cell step) = true →
        CellFits hash profile (neighbour cell step) ∧
          (IsSite hash profile (neighbour cell step) →
            distanceSquared (cellCentre hash profile cell)
              (cellCentre hash profile (neighbour cell step)) ≤ 2147483647)) := by
  have hRadius := h.searchRadius_bounds
  have hX := h.cell_bounds hFits.1
  have hZ := h.cell_bounds hFits.2
  obtain ⟨hStepX, hStepZ, -⟩ := mem_neighbourCells.mp hStep
  have hMoved : AllFit [cell.1 + step.1, cell.2 + step.2] := by
    simp only [allFit_cons, allFit_nil, fitsInt_iff, and_true]
    omega
  have hBuild : AllFit (buildInts hash (neighbour cell step) profile) ↔
      (occupied hash profile (neighbour cell step) = true →
        CellFits hash profile (neighbour cell step)) :=
    h.allFit_buildInts_iff hEnabled (neighbour cell step)
  have hValid := h.valid_buildCandidate_iff hash hEnabled (neighbour cell step)
  unfold spacingStepInts
  rw [ha.otherCandidate_eq, ha.cellX, ha.cellZ]
  dsimp only
  rw [allFit_append, allFit_append, and_iff_right hMoved]
  change (AllFit (buildInts hash (neighbour cell step) profile) ∧ _) ↔ _
  rw [hBuild]
  by_cases hOther : IsSite hash profile (neighbour cell step)
  · have hb := standsAt_buildCandidate (hValid.mpr hOther)
    rw [if_pos (hValid.mpr hOther), ha.squaredDistance_eq hb, ha.centerX, ha.centerZ, hb.centerX,
      hb.centerZ]
    simp only [hOther.1, hOther, forall_const]
    refine and_congr_right fun hOtherFits => ?_
    obtain ⟨hCentreX, hCentreZ⟩ := site_bounds hFits hSite
    obtain ⟨hOtherX, hOtherZ⟩ := site_bounds hOtherFits hOther
    refine allFit_squares_iff (fitsInt_iff.mpr ?_) (fitsInt_iff.mpr ?_)
    · omega
    · omega
  · rw [if_neg fun hIsValid => hOther (hValid.mp hIsValid)]
    simp only [hOther, false_implies, and_true, allFit_nil]

/-- The comparison of a site with its neighbourhood, and with the chunk if it survives. -/
theorem allFit_spacingInts_iff (h : profile.Measured)
    (hEnabled : profile.expansion.enabled = true) {cell : Int × Int} {a : PoiCandidate}
    (ha : StandsAt hash profile cell a) (hFits : CellFits hash profile cell)
    (hSite : IsSite hash profile cell) :
    AllFit (spacingInts hash a profile) ↔ profile.expansion.minPoiSpacingUnits ≤ 46340 ∧
      (0 < profile.expansion.minPoiSpacingUnits → ∀ step, Visited hash profile cell step →
        occupied hash profile (neighbour cell step) = true →
          CellFits hash profile (neighbour cell step) ∧
            (IsSite hash profile (neighbour cell step) →
              distanceSquared (cellCentre hash profile cell)
                (cellCentre hash profile (neighbour cell step)) ≤ 2147483647)) := by
  have hLow := h.cellSizeLow
  have hHigh := h.cellSizeHigh
  have hRadius := h.searchRadius_bounds
  unfold spacingInts
  rw [ha.valid]
  dsimp only
  by_cases hSpacing : profile.expansion.minPoiSpacingUnits ≤ 0
  · have hNone : ¬ 0 < profile.expansion.minPoiSpacingUnits := not_lt.mpr hSpacing
    have hSmall : profile.expansion.minPoiSpacingUnits ≤ 46340 := by omega
    simp [hSpacing, hNone, hSmall]
  · have hPositive : 0 < profile.expansion.minPoiSpacingUnits := not_le.mp hSpacing
    have hQuotient : 0 ≤ profile.expansion.minPoiSpacingUnits /
        max 1 (cellSizeUnits profile) := Int.ediv_nonneg hPositive.le (by omega)
    have hRadiusEq : searchRadius profile = profile.expansion.minPoiSpacingUnits /
        max 1 (cellSizeUnits profile) + 2 := by
      unfold searchRadius
      omega
    have hHeader : AllFit [cellSizeUnits profile,
        profile.expansion.minPoiSpacingUnits / max 1 (cellSizeUnits profile),
        profile.expansion.minPoiSpacingUnits / max 1 (cellSizeUnits profile) + 2,
        searchRadius profile,
        profile.expansion.minPoiSpacingUnits * profile.expansion.minPoiSpacingUnits,
        -searchRadius profile, searchRadius profile + 1] ↔
          profile.expansion.minPoiSpacingUnits ≤ 46340 := by
      rw [← fitsInt_mul_self_iff hPositive.le]
      simp only [allFit_cons, allFit_nil, fitsInt_iff, and_true]
      omega
    rw [if_neg (by simp), if_neg hSpacing, allFit_append, hHeader, allFit_flatMap]
    simp only [hPositive, forall_const, ha.mem_visited_iff h hEnabled]
    refine and_congr_right fun _ => forall₂_congr fun step hVisited => ?_
    exact h.allFit_spacingStepInts_iff hEnabled ha hFits hSite hVisited.1

/-- The squared distance of a site and a chunk is the one product that can be too large. -/
theorem allFit_intersectsInts_iff {cell : Int × Int} {a : PoiCandidate} {chunkX chunkZ : Int}
    (ha : StandsAt hash profile cell a) (hFits : CellFits hash profile cell)
    (hSite : IsSite hash profile cell) (hX : 0 ≤ chunkX ∧ chunkX ≤ 63)
    (hZ : 0 ≤ chunkZ ∧ chunkZ ≤ 63) :
    AllFit (intersectsInts a chunkX chunkZ) ↔
      distanceSquared (nearestPoint (cellCentre hash profile cell) chunkX chunkZ)
        (cellCentre hash profile cell) ≤ 2147483647 := by
  obtain ⟨hCentreX, hCentreZ⟩ := site_bounds hFits hSite
  have hNearX := nearestInChunk_bounds a.centerX chunkX
  have hNearZ := nearestInChunk_bounds a.centerZ chunkZ
  have hRadius : FitsInt (a.radiusUnits * a.radiusUnits) :=
    (fitsInt_mul_self_iff ha.radius.1).mpr (ha.radius.2.trans (by decide))
  rw [← ha.centerX] at hCentreX
  rw [← ha.centerZ] at hCentreZ
  simp only [kChunkSize] at hNearX hNearZ
  have hSquares := allFit_squares_iff
    (x := a.centerX - nearestInChunk a.centerX chunkX)
    (z := a.centerZ - nearestInChunk a.centerZ chunkZ)
    (fitsInt_iff.mpr (by omega)) (fitsInt_iff.mpr (by omega))
  have hDistance : distanceSquared (nearestPoint (cellCentre hash profile cell) chunkX chunkZ)
      (cellCentre hash profile cell) = squaredDistanceToChunk a chunkX chunkZ := by
    unfold distanceSquared nearestPoint squaredDistanceToChunk
    rw [ha.centerX, ha.centerZ]
  rw [hDistance]
  unfold squaredDistanceToChunk
  rw [← hSquares]
  simp only [intersectsInts, chunkAxisInts, squaredDistanceToChunk, allFit_append, allFit_cons,
    allFit_nil, and_true, hRadius, fitsInt_iff, kChunkSize]
  omega

/-- What is evaluated around one cell that the search goes through. -/
theorem allFit_cellInts_iff (h : profile.Measured) (hEnabled : profile.expansion.enabled = true)
    {cell : Int × Int} {chunkX chunkZ : Int} (hX : 0 ≤ chunkX ∧ chunkX ≤ 63)
    (hZ : 0 ≤ chunkZ ∧ chunkZ ≤ 63) (hLoops : AllFit [cell.1, cell.2, cell.1 + 1, cell.2 + 1]) :
    AllFit (cellInts hash chunkX chunkZ profile cell) ↔
      (occupied hash profile cell = true → CellFits hash profile cell) ∧
        (IsSite hash profile cell → SiteFits hash chunkX chunkZ profile cell) := by
  have hValid := h.valid_buildCandidate_iff hash hEnabled cell
  unfold cellInts
  dsimp only
  rw [allFit_append, allFit_append, allFit_append, and_iff_right hLoops,
    h.allFit_buildInts_iff hEnabled, and_assoc]
  refine and_congr_right fun hCell => ?_
  by_cases hSite : IsSite hash profile cell
  · have ha := standsAt_buildCandidate (hValid.mpr hSite)
    have hFits := hCell hSite.1
    rw [h.allFit_spacingInts_iff hEnabled ha hFits hSite]
    have hSurvives := ha.survives_iff h hEnabled
    have hIntersects := allFit_intersectsInts_iff ha hFits hSite hX hZ
    constructor
    · rintro ⟨⟨hSpacing, hNeighbours⟩, hChunk⟩ -
      refine ⟨hSpacing, hNeighbours, fun hNone => ?_⟩
      rw [if_pos (hSurvives.mpr hNone)] at hChunk
      exact hIntersects.mp hChunk
    · intro hAll
      obtain ⟨hSpacing, hNeighbours, hChunk⟩ := hAll hSite
      refine ⟨⟨hSpacing, hNeighbours⟩, ?_⟩
      split
      · rename_i hIsSurvivor
        exact hIntersects.mpr (hChunk (hSurvives.mp hIsSurvivor))
      · exact allFit_nil.mpr trivial
  · have hInvalid : (buildCandidate hash cell.1 cell.2 profile).valid = false :=
      Bool.eq_false_iff.mpr fun hIsValid => hSite (hValid.mp hIsValid)
    have hDies : ¬ survivesSpacing hash (buildCandidate hash cell.1 cell.2 profile) profile =
        true := fun hSurvives => by
      rw [survivesSpacing_iff, hInvalid] at hSurvives
      exact Bool.false_ne_true hSurvives.1
    have hNothing : spacingInts hash (buildCandidate hash cell.1 cell.2 profile) profile = [] := by
      unfold spacingInts
      rw [hInvalid]
      rfl
    rw [hNothing, if_neg hDies]
    simp [hSite]

/-- The searched cells are far inside the range. -/
theorem cell_in_cellBounds (h : profile.Measured) {chunk cell : Int}
    (hChunk : 0 ≤ chunk ∧ chunk ≤ 63) (hReach : Reaches profile chunk)
    (hCell : (cellBounds chunk profile).1 ≤ cell ∧ cell ≤ (cellBounds chunk profile).2) :
    -67108864 ≤ cell ∧ cell ≤ 67108863 := by
  have hLow := h.cellSizeLow
  obtain ⟨hNear, hFar⟩ := h.ends_fit hChunk hReach
  have hNearCell := h.ediv_cellSize_bounds hNear
  have hFarCell := h.ediv_cellSize_bounds hFar
  unfold cellBounds at hCell
  dsimp only at hCell
  rw [floorDiv_eq_ediv _ (by omega), floorDiv_eq_ediv _ (by omega)] at hCell
  change (chunk * kChunkSize - marginUnits profile) / cellSizeUnits profile ≤ cell ∧
    cell ≤ (chunk * kChunkSize + (kChunkSize - 1) + marginUnits profile) /
      cellSizeUnits profile at hCell
  omega

/-- So are the two loops over them. -/
theorem allFit_loops (h : profile.Measured) {cell : Int × Int} {chunkX chunkZ : Int}
    (hX : 0 ≤ chunkX ∧ chunkX ≤ 63) (hZ : 0 ≤ chunkZ ∧ chunkZ ≤ 63)
    (hReachX : Reaches profile chunkX) (hReachZ : Reaches profile chunkZ)
    (hCell : cell ∈ searchedCells chunkX chunkZ profile) :
    AllFit [cell.1, cell.2, cell.1 + 1, cell.2 + 1] := by
  obtain ⟨hCellX, hCellZ⟩ := mem_searchedCells.mp hCell
  have hBoundX := h.cell_in_cellBounds hX hReachX hCellX
  have hBoundZ := h.cell_in_cellBounds hZ hReachZ hCellZ
  simp only [allFit_cons, allFit_nil, fitsInt_iff, and_true]
  omega

/-- The search for the sites of a chunk fits exactly if that of each of its cells does. -/
theorem allFit_gatherInts_iff (h : profile.Measured)
    (hEnabled : profile.expansion.enabled = true) {chunkX chunkZ : Int}
    (hX : 0 ≤ chunkX ∧ chunkX ≤ 63) (hZ : 0 ≤ chunkZ ∧ chunkZ ≤ 63) :
    AllFit (gatherInts hash chunkX chunkZ profile) ↔ SearchFits hash chunkX chunkZ profile := by
  have hSize := h.cellSize
  have hLow := h.cellSizeLow
  have hHigh := h.cellSizeHigh
  have hJitter := h.jitter
  have hMargin := h.marginUnits_eq
  have hBothReach : Reaches profile chunkX ∧ Reaches profile chunkZ ↔
      32 * max chunkX chunkZ + 39 + profile.expansion.jitterUnits +
        32 * profile.expansion.cellSizeChunks ≤ 2147483647 := by
    unfold Reaches
    omega
  unfold gatherInts
  rw [hEnabled, if_neg (by simp), allFit_append, allFit_append, allFit_append,
    h.allFit_boundInts_iff hX, h.allFit_boundInts_iff hZ, allFit_flatMap]
  constructor
  · rintro ⟨⟨⟨-, hReachX⟩, hReachZ⟩, hCells⟩
    have hAround := fun cell hCell => (h.allFit_cellInts_iff hEnabled hX hZ
      (h.allFit_loops hX hZ hReachX hReachZ hCell)).mp (hCells cell hCell)
    exact ⟨hBothReach.mp ⟨hReachX, hReachZ⟩, fun cell hCell => (hAround cell hCell).1,
      fun cell hCell => (hAround cell hCell).2⟩
  · intro hAll
    obtain ⟨hReachX, hReachZ⟩ := hBothReach.mpr hAll.reach
    have hHeader : AllFit [cellSizeUnits profile, 8 + max 0 profile.expansion.jitterUnits,
        marginUnits profile] := by
      have hReach := hReachX
      unfold Reaches at hReach
      simp only [allFit_cons, allFit_nil, fitsInt_iff, and_true]
      omega
    refine ⟨⟨⟨hHeader, hReachX⟩, hReachZ⟩, fun cell hCell => ?_⟩
    exact (h.allFit_cellInts_iff hEnabled hX hZ
      (h.allFit_loops hX hZ hReachX hReachZ hCell)).mpr
        ⟨hAll.cells cell hCell, hAll.sites cell hCell⟩

end WorldGenerationProfile.Measured

/-- What generation evaluates for a sane profile is in range exactly under the conditions on
the grid. -/
theorem WorldExpansionProfile.Sane.allFit_generationInts_iff (hash : WorldHash)
    (h : profile.expansion.Sane) (hSpacing : profile.expansion.minPoiSpacingUnits ≤ 2147483647)
    {chunkX chunkZ : Int}
    (hX : 0 ≤ chunkX ∧ chunkX ≤ 63) (hZ : 0 ≤ chunkZ ∧ chunkZ ≤ 63) :
    AllFit (generationInts hash chunkX chunkZ profile) ↔
      GenerationFits hash chunkX chunkZ profile := by
  unfold generationInts
  rw [allFit_append, allFit_sanitizeInts_iff h.cellSize]
  constructor
  · rintro ⟨hSize, hGather⟩
    exact ⟨hSize, fun hEnabled =>
      ((h.measured hSize hSpacing).allFit_gatherInts_iff hEnabled hX hZ).mp hGather⟩
  · rintro ⟨hSize, hSearch⟩
    refine ⟨hSize, ?_⟩
    cases hEnabled : profile.expansion.enabled with
    | false =>
        unfold gatherInts
        rw [hEnabled]
        exact allFit_nil.mpr trivial
    | true =>
        exact ((h.measured hSize hSpacing).allFit_gatherInts_iff hEnabled hX hZ).mpr
          (hSearch hEnabled)

end DevyFps.Voxel
