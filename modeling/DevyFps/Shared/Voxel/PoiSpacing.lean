import DevyFps.Shared.Voxel.CandidateSearch

/-! Distances between points of interest. A candidate survives when every close candidate
of the cells around it ranks after it, so of two close candidates one yields. -/

namespace DevyFps.Voxel

open Foundations FloatFormat

variable {F : Type} [SingleFloat F] {hash : WorldHash} {profile : WorldGenerationProfile F}

/-- Of two cells one ranks first, whatever their hashes are. -/
theorem candidateRankLess_total {a b : PoiCandidate}
    (hCells : ¬ (a.cellX = b.cellX ∧ a.cellZ = b.cellZ)) :
    candidateRankLess a b = true ∨ candidateRankLess b a = true := by
  unfold candidateRankLess
  by_cases hRank : a.rank = b.rank
  · rw [if_neg (not_not.mpr hRank), if_neg (not_not.mpr hRank.symm)]
    by_cases hX : a.cellX = b.cellX
    · rw [if_neg (not_not.mpr hX), if_neg (not_not.mpr hX.symm), decide_eq_true_iff,
        decide_eq_true_iff]
      exact lt_or_gt_of_ne fun hZ => hCells ⟨hX, hZ⟩
    · rw [if_pos hX, if_pos (Ne.symm hX), decide_eq_true_iff, decide_eq_true_iff]
      exact lt_or_gt_of_ne hX
  · rw [if_pos hRank, if_pos (Ne.symm hRank), decide_eq_true_iff, decide_eq_true_iff]
    exact UInt64.lt_or_lt_of_ne hRank

theorem mem_neighbourCells {cellRadius dx dz : Int} :
    (dx, dz) ∈ neighbourCells cellRadius ↔
      (-cellRadius ≤ dx ∧ dx ≤ cellRadius) ∧ (-cellRadius ≤ dz ∧ dz ≤ cellRadius) ∧
        ¬ (dx = 0 ∧ dz = 0) := by
  unfold neighbourCells
  simp only [List.mem_flatMap, List.mem_map, List.mem_filter, mem_intRange, Prod.mk.injEq,
    Bool.not_eq_true', Bool.and_eq_false_iff, decide_eq_false_iff_not]
  constructor
  · rintro ⟨z, hZ, x, ⟨hX, hSome⟩, rfl, rfl⟩
    exact ⟨hX, hZ, not_and_or.mpr hSome⟩
  · rintro ⟨hX, hZ, hSome⟩
    exact ⟨dz, hZ, dx, ⟨hX, not_and_or.mp hSome⟩, rfl, rfl⟩

/-- How many cells around its own a candidate looks at. -/
def searchRadius (profile : WorldGenerationProfile F) : Int :=
  max 1 (profile.expansion.minPoiSpacingUnits / max 1 (cellSizeUnits profile) + 2)

/-- With a sane profile, centres closer than the spacing lie in cells within the radius. -/
theorem cell_le_of_close (hSane : profile.expansion.Sane) {cell cell' : Int}
    {hash hash' : UInt64}
    (h : centerAxis profile cell' hash' - centerAxis profile cell hash <
      profile.expansion.minPoiSpacingUnits) :
    cell' - cell ≤ searchRadius profile := by
  have hSize := cellSizeUnits_pos profile
  have hJitter := hSane.jitterInCell
  have hCell := hSane.cellSize
  have hNonneg := hSane.jitter
  have hUnits : cellSizeUnits profile = profile.expansion.cellSizeChunks * 32 := by
    unfold cellSizeUnits kChunkSize
    omega
  have hBounds := centerAxis_bounds profile cell hash
  have hBounds' := centerAxis_bounds profile cell' hash'
  have hScaled : (cell' - cell - 1) * cellSizeUnits profile ≤
      profile.expansion.minPoiSpacingUnits := by
    rw [sub_mul, sub_mul, one_mul]
    omega
  have hQuotient : cell' - cell - 1 ≤
      profile.expansion.minPoiSpacingUnits / cellSizeUnits profile :=
    (Int.le_ediv_iff_mul_le hSize).mpr hScaled
  have hMax : max 1 (cellSizeUnits profile) = cellSizeUnits profile := max_eq_right hSize
  unfold searchRadius
  rw [hMax]
  omega

/-- What a survivor has found out about each other cell of its neighbourhood. -/
theorem yields_of_survivesSpacing {candidate : PoiCandidate}
    (h : survivesSpacing hash candidate profile = true)
    (hSpacing : 0 < profile.expansion.minPoiSpacingUnits) {dx dz : Int}
    (hMem : (dx, dz) ∈ neighbourCells (searchRadius profile)) {other : PoiCandidate}
    (hOther : other = buildCandidate hash (candidate.cellX + dx) (candidate.cellZ + dz) profile)
    (hValid : other.valid = true)
    (hClose : (other.centerX - candidate.centerX) * (other.centerX - candidate.centerX) +
        (other.centerZ - candidate.centerZ) * (other.centerZ - candidate.centerZ) <
      profile.expansion.minPoiSpacingUnits * profile.expansion.minPoiSpacingUnits) :
    candidateRankLess other candidate = false := by
  have hCandidate := valid_of_survivesSpacing h
  unfold survivesSpacing at h
  dsimp only at h
  rw [hCandidate, Bool.not_true, if_neg Bool.false_ne_true, if_neg (not_le.mpr hSpacing),
    List.all_eq_true] at h
  have hCell := h (dx, dz) hMem
  dsimp only at hCell
  rw [← hOther, hValid, decide_eq_false (not_le.mpr hClose)] at hCell
  simpa using hCell

/-- If one of two close survivors ranked first, the other would have yielded. -/
theorem not_rankLess_of_close (hSane : profile.expansion.Sane) {a b : PoiCandidate}
    (ha : a ∈ survivors hash profile) (hb : b ∈ survivors hash profile)
    (hCells : ¬ (a.cellX = b.cellX ∧ a.cellZ = b.cellZ))
    (hClose : (b.centerX - a.centerX) * (b.centerX - a.centerX) +
        (b.centerZ - a.centerZ) * (b.centerZ - a.centerZ) <
      profile.expansion.minPoiSpacingUnits * profile.expansion.minPoiSpacingUnits) :
    candidateRankLess b a = false := by
  obtain ⟨hBuildA, hSurvivesA⟩ := mem_survivors_iff.mp ha
  obtain ⟨hBuildB, hSurvivesB⟩ := mem_survivors_iff.mp hb
  have hValidA := valid_of_survivesSpacing hSurvivesA
  have hValidB := valid_of_survivesSpacing hSurvivesB
  have hPartsA := hValidA
  have hPartsB := hValidB
  rw [hBuildA] at hPartsA
  rw [hBuildB] at hPartsB
  obtain ⟨_, _, _, hXA, hZA, _⟩ := buildCandidate_valid hPartsA
  obtain ⟨_, _, _, hXB, hZB, _⟩ := buildCandidate_valid hPartsB
  rw [← hBuildA] at hXA hZA
  rw [← hBuildB] at hXB hZB
  have hNonneg := hSane.spacing
  have hSpacing : 0 < profile.expansion.minPoiSpacingUnits := by
    rcases hNonneg.lt_or_eq with hPos | hZero
    · exact hPos
    · rw [← hZero] at hClose
      nlinarith [mul_self_nonneg (b.centerX - a.centerX), mul_self_nonneg (b.centerZ - a.centerZ)]
  -- One axis at a time: each squared difference is below the squared spacing.
  have hAxis : ∀ d e : Int, d * d + e * e <
      profile.expansion.minPoiSpacingUnits * profile.expansion.minPoiSpacingUnits →
      d < profile.expansion.minPoiSpacingUnits ∧ -d < profile.expansion.minPoiSpacingUnits := by
    intro d e h
    constructor <;> nlinarith [mul_self_nonneg e]
  obtain ⟨hXLow, hXHigh⟩ := hAxis _ _ hClose
  obtain ⟨hZLow, hZHigh⟩ := hAxis _ _ ((add_comm _ _).trans_lt hClose)
  rw [hXA, hXB] at hXLow hXHigh
  rw [hZA, hZB] at hZLow hZHigh
  rw [neg_sub] at hXHigh hZHigh
  have hMem : (b.cellX - a.cellX, b.cellZ - a.cellZ) ∈ neighbourCells (searchRadius profile) := by
    have hForwardX := cell_le_of_close hSane hXLow
    have hBackX := cell_le_of_close hSane hXHigh
    have hForwardZ := cell_le_of_close hSane hZLow
    have hBackZ := cell_le_of_close hSane hZHigh
    apply mem_neighbourCells.mpr
    omega
  apply yields_of_survivesSpacing hSurvivesA hSpacing hMem _ hValidB hClose
  rw [add_sub_cancel, add_sub_cancel]
  exact hBuildB

/-- The centres of two surviving candidates are at least the minimum spacing apart. -/
theorem survivors_keep_distance (hash : WorldHash) (profile : WorldGenerationProfile F)
    (cellX cellZ cellX' cellZ' : Int) (hCells : (cellX, cellZ) ≠ (cellX', cellZ')) :
    let sane := sanitizeWorldGenerationProfile profile
    let a := buildCandidate hash cellX cellZ sane
    let b := buildCandidate hash cellX' cellZ' sane
    survivesSpacing hash a sane = true → survivesSpacing hash b sane = true →
      sane.expansion.minPoiSpacingUnits ^ 2 ≤
        (b.centerX - a.centerX) ^ 2 + (b.centerZ - a.centerZ) ^ 2 := by
  intro sane a b hSurvivesA hSurvivesB
  have hSane : sane.expansion.Sane := sane_sanitize profile
  obtain ⟨_, hXA, hZA, _⟩ := buildCandidate_valid (valid_of_survivesSpacing hSurvivesA)
  obtain ⟨_, hXB, hZB, _⟩ := buildCandidate_valid (valid_of_survivesSpacing hSurvivesB)
  have ha : a ∈ survivors hash sane := ⟨cellX, cellZ, rfl, hSurvivesA⟩
  have hb : b ∈ survivors hash sane := ⟨cellX', cellZ', rfl, hSurvivesB⟩
  have hDistinct : ¬ (a.cellX = b.cellX ∧ a.cellZ = b.cellZ) := by
    rw [hXA, hXB, hZA, hZB, ← Prod.mk.injEq]
    exact hCells
  by_contra hFar
  simp only [pow_two, not_le] at hFar
  have hBack : (a.centerX - b.centerX) * (a.centerX - b.centerX) +
      (a.centerZ - b.centerZ) * (a.centerZ - b.centerZ) <
        sane.expansion.minPoiSpacingUnits * sane.expansion.minPoiSpacingUnits := by
    calc (a.centerX - b.centerX) * (a.centerX - b.centerX) +
          (a.centerZ - b.centerZ) * (a.centerZ - b.centerZ)
        = (b.centerX - a.centerX) * (b.centerX - a.centerX) +
          (b.centerZ - a.centerZ) * (b.centerZ - a.centerZ) := by ring
      _ < _ := hFar
  rcases candidateRankLess_total hDistinct with hLess | hLess
  · rw [not_rankLess_of_close hSane hb ha (fun h => hDistinct ⟨h.1.symm, h.2.symm⟩) hBack] at hLess
    cases hLess
  · rw [not_rankLess_of_close hSane ha hb hDistinct hFar] at hLess
    cases hLess

/-- Four chunks a cell, centres in the middle, and the default spacing. -/
def middleProfile : WorldGenerationProfile ℚ :=
  sanitizeWorldGenerationProfile
    { expansion := { cellSizeChunks := 4, jitterUnits := 0, minPoiSpacingUnits := 96 } }

/-- Where every hash is zero both of two neighbouring cells keep their candidate. -/
theorem survivors_keep_distance_neighbours :
    let a := buildCandidate (fun _ _ _ _ => 0) 0 0 middleProfile
    let b := buildCandidate (fun _ _ _ _ => 0) 1 0 middleProfile
    (96 : Int) ^ 2 ≤ (b.centerX - a.centerX) ^ 2 + (b.centerZ - a.centerZ) ^ 2 :=
  survivors_keep_distance (fun _ _ _ _ => 0)
    { expansion := { cellSizeChunks := 4, jitterUnits := 0, minPoiSpacingUnits := 96 } } 0 0 1 0
    (by decide) (by decide +kernel) (by decide +kernel)

end DevyFps.Voxel
