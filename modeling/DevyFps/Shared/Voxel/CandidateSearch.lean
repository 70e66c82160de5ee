import DevyFps.Shared.Voxel.PointsOfInterest
import Mathlib.Tactic.Linarith

/-! Where candidates lie in their cells, and which of them the search for one chunk
finds. -/

namespace DevyFps.Voxel

open Foundations FloatFormat

variable {F : Type} [SingleFloat F] {hash : WorldHash} {profile : WorldGenerationProfile F}

/-- For a positive divisor the division rounds down. -/
theorem floorDiv_eq_ediv (value : Int) {divisor : Int} (h : 0 < divisor) :
    floorDiv value divisor = value / divisor := by
  have hSign : decide (divisor < 0) = false := decide_eq_false (by omega)
  unfold floorDiv
  rw [if_neg (by omega)]
  dsimp only
  rw [hSign, Int.tdiv_eq_ediv, Int.tmod_eq_emod, Int.sign_eq_one_of_pos h]
  by_cases hDvd : divisor ∣ value
  · have hZero : value % divisor = 0 := Int.emod_eq_zero_of_dvd hDvd
    simp [hDvd, hZero]
  · by_cases hNeg : value < 0
    · have hPos : 0 < value % divisor := by
        have hNonneg := Int.emod_nonneg value (by omega : divisor ≠ 0)
        have hNe : value % divisor ≠ 0 := fun hZero => hDvd (Int.dvd_of_emod_eq_zero hZero)
        omega
      have hLt := Int.emod_lt_of_pos value h
      have hRem : ¬ value % divisor - |divisor| = 0 := by
        rw [abs_of_pos h]
        omega
      have hGe : ¬ 0 ≤ value := by omega
      simp [hDvd, hNeg, hRem, hGe]
    · have hNe : value % divisor ≠ 0 := fun hZero => hDvd (Int.dvd_of_emod_eq_zero hZero)
      have hGe : 0 ≤ value := by omega
      simp [hNeg, hGe, hNe]

theorem hashSignedRange_bounds (hash : UInt64) {low high : Int} (h : low ≤ high) :
    low ≤ hashSignedRange hash low high ∧ hashSignedRange hash low high ≤ high := by
  unfold hashSignedRange
  split
  · omega
  · have hNonneg := Int.emod_nonneg (hash.toNat : Int) (by omega : high - low + 1 ≠ 0)
    have hLt := Int.emod_lt_of_pos (hash.toNat : Int) (by omega : 0 < high - low + 1)
    omega

theorem cellSizeUnits_pos (profile : WorldGenerationProfile F) : 0 < cellSizeUnits profile := by
  unfold cellSizeUnits kChunkSize
  omega

/-- A centre is at most the jitter away from the middle of its cell. -/
theorem centerAxis_bounds (profile : WorldGenerationProfile F) (cell : Int) (hash : UInt64) :
    cell * cellSizeUnits profile + cellSizeUnits profile / 2 - max 0 profile.expansion.jitterUnits ≤
        centerAxis profile cell hash ∧
      centerAxis profile cell hash ≤
        cell * cellSizeUnits profile + cellSizeUnits profile / 2 +
          max 0 profile.expansion.jitterUnits := by
  have hOffset := hashSignedRange_bounds hash
    (by omega : -(max 0 profile.expansion.jitterUnits) ≤ max 0 profile.expansion.jitterUnits)
  unfold centerAxis
  dsimp only
  omega

/-- With a sane profile no two cells of one axis share a centre coordinate. -/
theorem centerAxis_injective (hSane : profile.expansion.Sane) {cell cell' : Int}
    {hash hash' : UInt64} (h : centerAxis profile cell hash = centerAxis profile cell' hash') :
    cell = cell' := by
  have hJitter := hSane.jitterInCell
  have hCell := hSane.cellSize
  have hSize : cellSizeUnits profile = profile.expansion.cellSizeChunks * 32 := by
    unfold cellSizeUnits kChunkSize
    omega
  have hBounds := centerAxis_bounds profile cell hash
  have hBounds' := centerAxis_bounds profile cell' hash'
  rw [h] at hBounds
  have hNonneg := hSane.jitter
  rcases lt_trichotomy cell cell' with hLt | hEq | hGt
  · have hStep : (cell + 1) * cellSizeUnits profile ≤ cell' * cellSizeUnits profile :=
      mul_le_mul_of_nonneg_right hLt (cellSizeUnits_pos profile).le
    rw [add_mul, one_mul] at hStep
    omega
  · exact hEq
  · have hStep : (cell' + 1) * cellSizeUnits profile ≤ cell * cellSizeUnits profile :=
      mul_le_mul_of_nonneg_right hGt (cellSizeUnits_pos profile).le
    rw [add_mul, one_mul] at hStep
    omega

/-- A valid candidate and the values it is made of. -/
theorem buildCandidate_valid {cellX cellZ : Int}
    (h : (buildCandidate hash cellX cellZ profile).valid = true) :
    profile.expansion.enabled = true ∧
      (buildCandidate hash cellX cellZ profile).cellX = cellX ∧
      (buildCandidate hash cellX cellZ profile).cellZ = cellZ ∧
      (buildCandidate hash cellX cellZ profile).centerX =
        centerAxis profile cellX (hash profile.worldSeed cellX cellZ 0x1B7A0D11) ∧
      (buildCandidate hash cellX cellZ profile).centerZ =
        centerAxis profile cellZ (hash profile.worldSeed cellX cellZ 0x52A8749B) ∧
      (buildCandidate hash cellX cellZ profile).radiusUnits =
        poiRadiusUnits (buildCandidate hash cellX cellZ profile).type := by
  unfold buildCandidate at h ⊢
  dsimp only at h ⊢
  cases hEnabled : profile.expansion.enabled with
  | false => simp [hEnabled] at h
  | true =>
      simp only [hEnabled, Bool.not_true, Bool.false_eq_true, if_false] at h ⊢
      split_ifs at h ⊢
      exact ⟨trivial, rfl, rfl, rfl, rfl, rfl⟩

/-- The candidates that survive, over all cells of the grid. -/
def survivors (hash : WorldHash) (profile : WorldGenerationProfile F) : Set PoiCandidate :=
  { candidate | ∃ cellX cellZ, candidate = buildCandidate hash cellX cellZ profile ∧
    survivesSpacing hash candidate profile = true }

theorem valid_of_survivesSpacing {candidate : PoiCandidate}
    (h : survivesSpacing hash candidate profile = true) : candidate.valid = true := by
  unfold survivesSpacing at h
  dsimp only at h
  cases hValid : candidate.valid with
  | true => rfl
  | false => simp [hValid] at h

/-- What makes a survivor: its cell determines it. -/
theorem mem_survivors_iff {candidate : PoiCandidate} :
    candidate ∈ survivors hash profile ↔
      candidate = buildCandidate hash candidate.cellX candidate.cellZ profile ∧
        survivesSpacing hash candidate profile = true := by
  constructor
  · rintro ⟨cellX, cellZ, rfl, hSurvives⟩
    obtain ⟨_, hX, hZ, _⟩ := buildCandidate_valid (valid_of_survivesSpacing hSurvives)
    exact ⟨by rw [hX, hZ], hSurvives⟩
  · rintro ⟨hBuild, hSurvives⟩
    exact ⟨_, _, hBuild, hSurvives⟩

/-- Where only outposts are enabled, all survivors are outposts. -/
theorem type_of_only_outposts (hTypes : enabledTypes profile.expansion.poiTypes = [.outpost])
    {candidate : PoiCandidate} (h : candidate ∈ survivors hash profile) :
    candidate.type = .outpost := by
  obtain ⟨cellX, cellZ, rfl, _⟩ := h
  unfold buildCandidate
  dsimp only
  rw [hTypes]
  split_ifs <;> simp [Nat.mod_one]

/-- Two survivors with one centre are the same candidate. -/
theorem survivors_center_injective (hSane : profile.expansion.Sane) {a b : PoiCandidate}
    (ha : a ∈ survivors hash profile) (hb : b ∈ survivors hash profile)
    (hX : a.centerX = b.centerX) (hZ : a.centerZ = b.centerZ) : a = b := by
  obtain ⟨cellX, cellZ, rfl, hSurvives⟩ := ha
  obtain ⟨cellX', cellZ', rfl, hSurvives'⟩ := hb
  obtain ⟨_, _, _, hCenterX, hCenterZ, _⟩ :=
    buildCandidate_valid (valid_of_survivesSpacing hSurvives)
  obtain ⟨_, _, _, hCenterX', hCenterZ', _⟩ :=
    buildCandidate_valid (valid_of_survivesSpacing hSurvives')
  rw [hCenterX, hCenterX'] at hX
  rw [hCenterZ, hCenterZ'] at hZ
  rw [centerAxis_injective hSane hX, centerAxis_injective hSane hZ]

/-- The centre is at most eight blocks outside the chunk on this axis. -/
def NearAxis (center chunk : Int) : Prop :=
  chunk * kChunkSize - 8 ≤ center ∧ center ≤ chunk * kChunkSize + (kChunkSize - 1) + 8

/-- The cells of all centres near a chunk are searched. -/
theorem mem_cellBounds {chunk cell : Int} {hash : UInt64}
    (h : NearAxis (centerAxis profile cell hash) chunk) :
    (cellBounds chunk profile).1 ≤ cell ∧ cell ≤ (cellBounds chunk profile).2 := by
  have hSize := cellSizeUnits_pos profile
  have hBounds := centerAxis_bounds profile cell hash
  obtain ⟨hLow, hHigh⟩ := h
  unfold cellBounds
  dsimp only
  rw [floorDiv_eq_ediv _ hSize, floorDiv_eq_ediv _ hSize]
  constructor
  · apply Int.le_of_lt_add_one
    apply Int.ediv_lt_of_lt_mul hSize
    rw [add_mul, one_mul]
    omega
  · apply (Int.le_ediv_iff_mul_le hSize).mpr
    omega

theorem nearestInChunk_bounds (center chunk : Int) :
    chunk * kChunkSize ≤ nearestInChunk center chunk ∧
      nearestInChunk center chunk ≤ chunk * kChunkSize + (kChunkSize - 1) := by
  unfold nearestInChunk kChunkSize
  omega

theorem poiRadiusUnits_le (type : PoiType) : 0 ≤ poiRadiusUnits type ∧ poiRadiusUnits type ≤ 8 := by
  cases type <;> decide

/-- A candidate whose circle meets the chunk is near it on both axes. -/
theorem nearAxis_of_intersectsChunk {candidate : PoiCandidate} {chunkX chunkZ : Int}
    (hRadius : candidate.radiusUnits = poiRadiusUnits candidate.type)
    (h : intersectsChunk candidate chunkX chunkZ = true) :
    NearAxis candidate.centerX chunkX ∧ NearAxis candidate.centerZ chunkZ := by
  obtain ⟨hNonneg, hLe⟩ := poiRadiusUnits_le candidate.type
  have hX := nearestInChunk_bounds candidate.centerX chunkX
  have hZ := nearestInChunk_bounds candidate.centerZ chunkZ
  unfold intersectsChunk at h
  dsimp only at h
  rw [decide_eq_true_iff, hRadius] at h
  generalize hdx : candidate.centerX - nearestInChunk candidate.centerX chunkX = dx at h
  generalize hdz : candidate.centerZ - nearestInChunk candidate.centerZ chunkZ = dz at h
  have hSquare : dx * dx + dz * dz ≤ 8 * 8 :=
    h.trans (mul_le_mul hLe hLe hNonneg (by norm_num))
  have hdxLow : -8 ≤ dx := by nlinarith [mul_self_nonneg dz]
  have hdxHigh : dx ≤ 8 := by nlinarith [mul_self_nonneg dz]
  have hdzLow : -8 ≤ dz := by nlinarith [mul_self_nonneg dx]
  have hdzHigh : dz ≤ 8 := by nlinarith [mul_self_nonneg dx]
  unfold NearAxis
  omega

/-- The cells that the search for a chunk goes through. -/
def searchedCells (chunkX chunkZ : Int) (profile : WorldGenerationProfile F) :
    List (Int × Int) :=
  (intRange (cellBounds chunkZ profile).1 (cellBounds chunkZ profile).2).flatMap fun cellZ =>
    (intRange (cellBounds chunkX profile).1 (cellBounds chunkX profile).2).map fun cellX =>
      (cellX, cellZ)

theorem mem_searchedCells {chunkX chunkZ : Int} {cell : Int × Int} :
    cell ∈ searchedCells chunkX chunkZ profile ↔
      ((cellBounds chunkX profile).1 ≤ cell.1 ∧ cell.1 ≤ (cellBounds chunkX profile).2) ∧
        (cellBounds chunkZ profile).1 ≤ cell.2 ∧ cell.2 ≤ (cellBounds chunkZ profile).2 := by
  simp only [searchedCells, List.mem_flatMap, List.mem_map, mem_intRange]
  constructor
  · rintro ⟨cellZ, hCellZ, cellX, hCellX, rfl⟩
    exact ⟨hCellX, hCellZ⟩
  · rintro ⟨hCellX, hCellZ⟩
    exact ⟨cell.2, hCellZ, cell.1, hCellX, rfl⟩

/-- The candidates that are searched are those of the searched cells. -/
theorem searchedCandidates_eq (chunkX chunkZ : Int) :
    searchedCandidates hash chunkX chunkZ profile =
      (searchedCells chunkX chunkZ profile).map fun cell =>
        buildCandidate hash cell.1 cell.2 profile := by
  unfold searchedCandidates searchedCells
  simp only [List.map_flatMap, List.map_map, Function.comp_def]

/-- Every survivor near the chunk is among the searched candidates. -/
theorem mem_searchedCandidates {candidate : PoiCandidate} {chunkX chunkZ : Int}
    (hSurvivor : candidate ∈ survivors hash profile) (hX : NearAxis candidate.centerX chunkX)
    (hZ : NearAxis candidate.centerZ chunkZ) :
    candidate ∈ searchedCandidates hash chunkX chunkZ profile := by
  obtain ⟨cellX, cellZ, rfl, hSurvives⟩ := hSurvivor
  obtain ⟨_, _, _, hCenterX, hCenterZ, _⟩ :=
    buildCandidate_valid (valid_of_survivesSpacing hSurvives)
  rw [hCenterX] at hX
  rw [hCenterZ] at hZ
  rw [searchedCandidates_eq, List.mem_map]
  exact ⟨(cellX, cellZ), mem_searchedCells.mpr ⟨mem_cellBounds hX, mem_cellBounds hZ⟩, rfl⟩

theorem survivor_of_mem_searchedCandidates {candidate : PoiCandidate} {chunkX chunkZ : Int}
    (hMem : candidate ∈ searchedCandidates hash chunkX chunkZ profile)
    (hSurvives : survivesSpacing hash candidate profile = true) :
    candidate ∈ survivors hash profile := by
  rw [searchedCandidates_eq, List.mem_map] at hMem
  obtain ⟨⟨cellX, cellZ⟩, -, rfl⟩ := hMem
  exact ⟨cellX, cellZ, rfl, hSurvives⟩

/-- The search keeps exactly the survivors whose circle meets the chunk. -/
theorem mem_gatherChunkCandidates {candidate : PoiCandidate} {chunkX chunkZ : Int} :
    candidate ∈ gatherChunkCandidates hash chunkX chunkZ profile ↔
      candidate ∈ survivors hash profile ∧ intersectsChunk candidate chunkX chunkZ = true := by
  unfold gatherChunkCandidates
  constructor
  · intro hMem
    split at hMem
    · cases hMem
    · rw [mem_sortBy, List.mem_filter] at hMem
      simp only [Bool.and_eq_true] at hMem
      exact ⟨survivor_of_mem_searchedCandidates hMem.1 hMem.2.1.2, hMem.2.2⟩
  · rintro ⟨hSurvivor, hIntersects⟩
    obtain ⟨hBuild, hSurvives⟩ := mem_survivors_iff.mp hSurvivor
    have hValid := valid_of_survivesSpacing hSurvives
    have hParts := hValid
    rw [hBuild] at hParts
    obtain ⟨hEnabled, _, _, _, _, hRadius⟩ := buildCandidate_valid hParts
    rw [← hBuild] at hRadius
    obtain ⟨hX, hZ⟩ := nearAxis_of_intersectsChunk hRadius hIntersects
    rw [hEnabled, Bool.not_true, if_neg Bool.false_ne_true, mem_sortBy, List.mem_filter]
    simp [mem_searchedCandidates hSurvivor hX hZ, hValid, hSurvives, hIntersects]

end DevyFps.Voxel
