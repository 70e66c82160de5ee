import DevyFps.Shared.Voxel.GenerationRange
import DevyFps.Shared.Voxel.ProfileJson

/-! World generation with a profile that was read from a document: the parser bounds each
number by the range of `int`, and what is computed from them may still leave it. -/

namespace DevyFps.Voxel

open Foundations FloatFormat
open Net (Document)

variable {F : Type} [SingleFloat F] {hash : WorldHash} {profile : WorldGenerationProfile F}

theorem readField_between {value : Document F} {field : String} {low high fallback n : Int}
    (h : readField value field fallback (readBetween low high) = some n)
    (hFallback : low ≤ fallback ∧ fallback ≤ high) : low ≤ n ∧ n ≤ high := by
  unfold readField at h
  split at h
  · rename_i written _
    obtain ⟨parsed, -, hParsed⟩ := Option.bind_eq_some_iff.mp h
    split at hParsed
    · cases hParsed
    · injection hParsed with hSame
      omega
  · injection h with hSame
    omega

/-- An accepted profile is sane, and its spacing is an `int`. -/
theorem sane_of_fromJson {value : Document F}
    (h : worldGenerationProfileFromJson value = some profile) :
    profile.expansion.Sane ∧ profile.expansion.minPoiSpacingUnits ≤ 2147483647 := by
  unfold worldGenerationProfileFromJson at h
  split at h
  · cases h
  · simp only [Option.bind_eq_bind, Option.bind_eq_some_iff, Option.pure_def,
      Option.some.injEq] at h
    obtain ⟨seed, -, enabled, -, density, -, cellSize, -, jitter, -, spacing, hSpacing, types, -,
      multiplier, -, rfl⟩ := h
    refine ⟨sane_sanitize _, ?_⟩
    have hRange := readField_between hSpacing (by decide)
    simp only [sanitizeWorldGenerationProfile, sanitizeExpansion]
    split
    · decide
    · omega

/-- The neighbourhood that is compared, with the jitter on both sides, is small. -/
def Compact (profile : WorldGenerationProfile F) : Prop :=
  (profile.expansion.minPoiSpacingUnits / (32 * profile.expansion.cellSizeChunks) + 2) *
      (32 * profile.expansion.cellSizeChunks) + 2 * profile.expansion.jitterUnits ≤ 32767

/-- The searched cells of one axis begin near the chunk. -/
theorem cell_start_bounds (hJitter : 0 ≤ profile.expansion.jitterUnits) {chunk cell : Int}
    (hCell : (cellBounds chunk profile).1 ≤ cell ∧ cell ≤ (cellBounds chunk profile).2) :
    32 * chunk - 8 - profile.expansion.jitterUnits - 2 * cellSizeUnits profile ≤
        cell * cellSizeUnits profile ∧
      cell * cellSizeUnits profile ≤
        32 * chunk + 39 + profile.expansion.jitterUnits + cellSizeUnits profile := by
  have hSize := cellSizeUnits_pos profile
  unfold cellBounds kChunkSize at hCell
  dsimp only at hCell
  rw [floorDiv_eq_ediv _ hSize, floorDiv_eq_ediv _ hSize] at hCell
  have hLow := Int.lt_mul_of_ediv_lt hSize (Int.lt_add_one_iff.mpr hCell.1)
  have hHigh := (Int.le_ediv_iff_mul_le hSize).mp hCell.2
  rw [add_mul, one_mul] at hLow
  omega

section Compact

variable {chunkX chunkZ : Int}

/-- The numbers of a compact profile. -/
structure Sizes (profile : WorldGenerationProfile F) (radiusUnits : Int) : Prop where
  size : 32 ≤ cellSizeUnits profile
  jitter : 0 ≤ profile.expansion.jitterUnits
  jitterInCell : 2 * profile.expansion.jitterUnits + 2 ≤ cellSizeUnits profile
  radius : searchRadius profile * cellSizeUnits profile = radiusUnits
  radiusLow : 2 * cellSizeUnits profile ≤ radiusUnits
  compact : radiusUnits + 2 * profile.expansion.jitterUnits ≤ 32767
  spacing : profile.expansion.minPoiSpacingUnits < radiusUnits

theorem sizes_of_compact (h : profile.expansion.Sane) (hCompact : Compact profile) :
    Sizes profile (searchRadius profile * cellSizeUnits profile) := by
  have hCell := h.cellSize
  have hUnits : cellSizeUnits profile = 32 * profile.expansion.cellSizeChunks := by
    unfold cellSizeUnits kChunkSize
    omega
  have hJitter := h.jitterInCell
  have hSpacing := h.spacing
  have hQuotient : 0 ≤ profile.expansion.minPoiSpacingUnits / cellSizeUnits profile :=
    Int.ediv_nonneg hSpacing (by omega)
  have hRadius : searchRadius profile =
      profile.expansion.minPoiSpacingUnits / cellSizeUnits profile + 2 := by
    unfold searchRadius
    rw [max_eq_right (by omega : 1 ≤ cellSizeUnits profile)]
    omega
  have hLess := Int.lt_mul_of_ediv_lt (show 0 < cellSizeUnits profile by omega)
    (Int.lt_add_one_iff.mpr (le_refl
      (profile.expansion.minPoiSpacingUnits / cellSizeUnits profile)))
  have hProduct : 0 ≤ profile.expansion.minPoiSpacingUnits / cellSizeUnits profile *
      cellSizeUnits profile := mul_nonneg hQuotient (by omega)
  unfold Compact at hCompact
  rw [← hUnits, ← hRadius] at hCompact
  rw [add_mul, one_mul] at hLess
  refine ⟨by omega, h.jitter, by omega, rfl, ?_, hCompact, ?_⟩
  · rw [hRadius, add_mul]
    omega
  · rw [hRadius, add_mul]
    omega

variable {radiusUnits : Int} {cell step : Int × Int}

/-- A start within a few cells of the chunk is in range with all that is computed from it. -/
theorem Sizes.axisFits (h : Sizes profile radiusUnits) {axis : Int} {raw : UInt64}
    (hStart : -131072 ≤ axis * cellSizeUnits profile ∧ axis * cellSizeUnits profile ≤ 131072) :
    AxisFits profile axis raw := by
  have hSize := h.size
  have hJitter := h.jitter
  have hInCell := h.jitterInCell
  have hLow := h.radiusLow
  have hCompact := h.compact
  have hCentre := centerAxis_bounds profile axis raw
  constructor <;> omega

theorem Sizes.start_bounds (h : Sizes profile radiusUnits) {chunk axis : Int}
    (hChunk : 0 ≤ chunk ∧ chunk ≤ 63)
    (hAxis : (cellBounds chunk profile).1 ≤ axis ∧ axis ≤ (cellBounds chunk profile).2) :
    -65536 ≤ axis * cellSizeUnits profile ∧ axis * cellSizeUnits profile ≤ 65536 := by
  have hSize := h.size
  have hStart := cell_start_bounds h.jitter hAxis
  have hLow := h.radiusLow
  have hCompact := h.compact
  have hJitter := h.jitter
  omega

/-- A step to a neighbour is at most the radius long. -/
theorem Sizes.step_bounds (h : Sizes profile radiusUnits) {axis : Int}
    (hAxis : -searchRadius profile ≤ axis ∧ axis ≤ searchRadius profile) :
    -radiusUnits ≤ axis * cellSizeUnits profile ∧ axis * cellSizeUnits profile ≤ radiusUnits := by
  have hSize := h.size
  have hLow : -searchRadius profile * cellSizeUnits profile ≤ axis * cellSizeUnits profile :=
    mul_le_mul_of_nonneg_right hAxis.1 (by omega)
  have hHigh : axis * cellSizeUnits profile ≤ searchRadius profile * cellSizeUnits profile :=
    mul_le_mul_of_nonneg_right hAxis.2 (by omega)
  rw [neg_mul, h.radius] at hLow
  rw [h.radius] at hHigh
  exact ⟨hLow, hHigh⟩

/-- Two centres a step apart. -/
theorem Sizes.centre_bounds (h : Sizes profile radiusUnits) {axis move : Int} {raw raw' : UInt64}
    (hMove : -searchRadius profile ≤ move ∧ move ≤ searchRadius profile) :
    -32767 ≤ centerAxis profile (axis + move) raw' - centerAxis profile axis raw ∧
      centerAxis profile (axis + move) raw' - centerAxis profile axis raw ≤ 32767 := by
  have hStep := h.step_bounds hMove
  have hJitter := h.jitter
  have hCompact := h.compact
  have hCentre := centerAxis_bounds profile axis raw
  have hOther := centerAxis_bounds profile (axis + move) raw'
  rw [add_mul] at hOther
  omega

/-- A centre of a searched cell and the chunk. -/
theorem Sizes.nearest_bounds (h : Sizes profile radiusUnits) {chunk axis : Int} {raw : UInt64}
    (hChunk : 0 ≤ chunk ∧ chunk ≤ 63)
    (hAxis : (cellBounds chunk profile).1 ≤ axis ∧ axis ≤ (cellBounds chunk profile).2)
    (hNonneg : 0 ≤ centerAxis profile axis raw) :
    -32767 ≤ centerAxis profile axis raw - nearestInChunk (centerAxis profile axis raw) chunk ∧
      centerAxis profile axis raw - nearestInChunk (centerAxis profile axis raw) chunk ≤
        32767 := by
  have hSize := h.size
  have hStart := cell_start_bounds h.jitter hAxis
  have hJitter := h.jitter
  have hLow := h.radiusLow
  have hCompact := h.compact
  have hCentre := centerAxis_bounds profile axis raw
  unfold nearestInChunk kChunkSize
  omega

/-- A compact profile keeps everything in range, whatever the hashes are. -/
theorem generationFits_of_compact (hSane : profile.expansion.Sane) (hCompact : Compact profile)
    (hX : 0 ≤ chunkX ∧ chunkX ≤ 63) (hZ : 0 ≤ chunkZ ∧ chunkZ ≤ 63) :
    GenerationFits hash chunkX chunkZ profile := by
  have h := sizes_of_compact hSane hCompact
  have hCell := hSane.cellSize
  have hUnits : cellSizeUnits profile = 32 * profile.expansion.cellSizeChunks := by
    unfold cellSizeUnits kChunkSize
    omega
  have hSize := h.size
  have hJitter := h.jitter
  have hLow := h.radiusLow
  have hSmall := h.compact
  have hSpacing := h.spacing
  refine ⟨by omega, fun _ => ⟨by omega, fun cell hSearched _ => ?_, fun cell hSearched hSite => ?_⟩⟩
  · obtain ⟨hCellX, hCellZ⟩ := mem_searchedCells.mp hSearched
    have hStartX := h.start_bounds hX hCellX
    have hStartZ := h.start_bounds hZ hCellZ
    exact ⟨h.axisFits (by omega), h.axisFits (by omega)⟩
  · obtain ⟨hCellX, hCellZ⟩ := mem_searchedCells.mp hSearched
    have hStartX := h.start_bounds hX hCellX
    have hStartZ := h.start_bounds hZ hCellZ
    refine ⟨by omega, fun _ step hVisited _ => ?_, fun _ => ?_⟩
    · obtain ⟨hMoveX, hMoveZ, -⟩ := mem_neighbourCells.mp hVisited.1
      have hStepX := h.step_bounds hMoveX
      have hStepZ := h.step_bounds hMoveZ
      refine ⟨⟨h.axisFits ?_, h.axisFits ?_⟩, fun _ => ?_⟩
      · simp only [neighbour, add_mul]
        omega
      · simp only [neighbour, add_mul]
        omega
      · exact sum_sq_le 32767 (h.centre_bounds hMoveX) (h.centre_bounds hMoveZ) (by decide)
    · exact sum_sq_le 32767 (h.nearest_bounds hX hCellX hSite.2.1)
        (h.nearest_bounds hZ hCellZ hSite.2.2) (by decide)

end Compact

/-- What generation evaluates with an accepted profile for a chunk of the map is in range
exactly under the conditions on the grid of the seed, and always for a compact profile. The
parser has sanitised what it read, which evaluates the same as sanitising its result. -/
theorem generation_arithmetic_iff {value : Document F}
    (hProfile : worldGenerationProfileFromJson value = some profile) {chunkX chunkZ : Int}
    (hX : 0 ≤ chunkX ∧ chunkX ≤ 63) (hZ : 0 ≤ chunkZ ∧ chunkZ ≤ 63) :
    (AllFit (generationInts hashWorld chunkX chunkZ profile) ↔
        GenerationFits hashWorld chunkX chunkZ profile) ∧
      (Compact profile → AllFit (generationInts hashWorld chunkX chunkZ profile)) ∧
      ∀ written, sanitizeWorldGenerationProfile written = profile →
        sanitizeInts written.expansion = sanitizeInts profile.expansion := by
  obtain ⟨hSane, hSpacing⟩ := sane_of_fromJson hProfile
  have hIff := hSane.allFit_generationInts_iff hashWorld hSpacing hX hZ
  refine ⟨hIff, fun hCompact => hIff.mpr (generationFits_of_compact hSane hCompact hX hZ), ?_⟩
  intro written hWritten
  rw [← hWritten]
  exact (sanitizeInts_sanitize written.expansion).symm

/-- The default profile, at the far corner of the map. -/
theorem default_generation_fits :
    AllFit (generationInts hashWorld 63 63
      (sanitizeWorldGenerationProfile ({} : WorldGenerationProfile ℚ))) := by
  have hProfile : worldGenerationProfileFromJson (.object []) =
      some (sanitizeWorldGenerationProfile ({} : WorldGenerationProfile ℚ)) := rfl
  have hCompact : Compact (sanitizeWorldGenerationProfile ({} : WorldGenerationProfile ℚ)) := by
    unfold Compact
    decide +kernel
  exact (generation_arithmetic_iff hProfile (by decide) (by decide)).2.1 hCompact

/-- Cells whose size in units is 2^31. -/
def vastCells : WorldGenerationProfile ℚ :=
  sanitizeWorldGenerationProfile { expansion := { cellSizeChunks := 67108864 } }

/-- A spacing whose square does not fit an `int`. -/
def wideSpacing : WorldGenerationProfile ℚ :=
  sanitizeWorldGenerationProfile { expansion := { minPoiSpacingUnits := 46341 } }

/-- Both profiles are accepted. The size of a cell overflows where the first is sanitised, the
square of the spacing where the second is used for the chunk at the origin. -/
theorem accepted_profile_overflows :
    (worldGenerationProfileFromJson (.object [("cell_size_chunks", .numberUnsigned 67108864)]) =
        some vastCells ∧ ¬ AllFit (generationInts hashWorld 0 0 vastCells)) ∧
      worldGenerationProfileFromJson (.object [("min_poi_spacing_units", .numberUnsigned 46341)]) =
        some wideSpacing ∧ ¬ AllFit (generationInts hashWorld 0 0 wideSpacing) := by
  refine ⟨⟨rfl, fun hAll => ?_⟩, rfl, fun hAll => ?_⟩
  · have hSize : FitsInt (67108864 * 32) :=
      hAll _ (List.mem_append_left _ (List.mem_cons_self))
    exact absurd hSize (by decide)
  · have hSane : wideSpacing.expansion.Sane := sane_sanitize _
    have hFits := (hSane.allFit_generationInts_iff hashWorld (by decide) (by decide)
      (by decide)).mp hAll
    have hSearched : ((0, 0) : Int × Int) ∈ searchedCells 0 0 wideSpacing :=
      mem_searchedCells.mpr (by decide +kernel)
    have hSite : IsSite hashWorld wideSpacing (0, 0) := by
      unfold IsSite
      decide +kernel
    have hSpacing := ((hFits.search rfl).sites _ hSearched hSite).spacing
    exact absurd hSpacing (by decide)

end DevyFps.Voxel
