import DevyFps.Shared.Voxel.SeamlessChunks

/-! The list that the search for one chunk returns: all survivors that meet the chunk, and each
of them once, in the order of the centres. -/

namespace DevyFps.Voxel

open Foundations FloatFormat

variable {F : Type} [SingleFloat F] {hash : WorldHash} {profile : WorldGenerationProfile F}

/-- The centre of `a` comes strictly before that of `b`, in x and then in z. -/
def CenterBefore (a b : PoiCandidate) : Prop :=
  a.centerX < b.centerX ∨ a.centerX = b.centerX ∧ a.centerZ < b.centerZ

/-- The candidates of the infinite grid that the chunk needs. -/
def Needed (hash : WorldHash) (profile : WorldGenerationProfile F) (chunkX chunkZ : Int)
    (candidate : PoiCandidate) : Prop :=
  ∃ cellX cellZ, candidate = buildCandidate hash cellX cellZ profile ∧ candidate.valid = true ∧
    survivesSpacing hash candidate profile = true ∧ intersectsChunk candidate chunkX chunkZ = true

/-- Validity is part of survival. -/
theorem needed_iff {chunkX chunkZ : Int} {candidate : PoiCandidate} :
    Needed hash profile chunkX chunkZ candidate ↔
      candidate ∈ survivors hash profile ∧ intersectsChunk candidate chunkX chunkZ = true := by
  constructor
  · rintro ⟨cellX, cellZ, hBuild, -, hSurvives, hIntersects⟩
    exact ⟨⟨cellX, cellZ, hBuild, hSurvives⟩, hIntersects⟩
  · rintro ⟨⟨cellX, cellZ, hBuild, hSurvives⟩, hIntersects⟩
    exact ⟨cellX, cellZ, hBuild, valid_of_survivesSpacing hSurvives, hSurvives, hIntersects⟩

/-- A valid candidate names its cell, so the loops build it once. -/
theorem valid_searched_apart (hash : WorldHash) (chunkX chunkZ : Int)
    (profile : WorldGenerationProfile F) :
    (searchedCandidates hash chunkX chunkZ profile).Pairwise fun a b =>
      a.valid = true → b.valid = true → a ≠ b := by
  have hApart : ∀ {cellX cellZ cellX' cellZ' : Int}, (cellX, cellZ) ≠ (cellX', cellZ') →
      (buildCandidate hash cellX cellZ profile).valid = true →
      (buildCandidate hash cellX' cellZ' profile).valid = true →
      buildCandidate hash cellX cellZ profile ≠ buildCandidate hash cellX' cellZ' profile := by
    intro cellX cellZ cellX' cellZ' hCells hValid hValid' hSame
    obtain ⟨-, hX, hZ, -⟩ := buildCandidate_valid hValid
    obtain ⟨-, hX', hZ', -⟩ := buildCandidate_valid hValid'
    rw [hSame] at hX hZ
    exact hCells (Prod.ext (hX.symm.trans hX') (hZ.symm.trans hZ'))
  unfold searchedCandidates
  dsimp only
  rw [List.pairwise_flatMap]
  constructor
  · intro cellZ _
    rw [List.pairwise_map]
    apply (nodup_intRange _ _).imp
    intro cellX cellX' hX
    exact hApart fun hCells => hX (congrArg Prod.fst hCells)
  · apply (nodup_intRange _ _).imp
    intro cellZ cellZ' hZ a ha b hb
    obtain ⟨cellX, -, rfl⟩ := List.mem_map.mp ha
    obtain ⟨cellX', -, rfl⟩ := List.mem_map.mp hb
    exact hApart fun hCells => hZ (congrArg Prod.snd hCells)

theorem nodup_gathered (hash : WorldHash) (chunkX chunkZ : Int)
    (profile : WorldGenerationProfile F) :
    (gatherChunkCandidates hash chunkX chunkZ profile).Nodup := by
  unfold gatherChunkCandidates
  split
  · exact List.nodup_nil
  · apply (sortBy_perm poiDrawLess _).nodup_iff.mpr
    apply ((valid_searched_apart hash chunkX chunkZ profile).filter _).imp_of_mem
    intro a b ha hb hDiffer
    have hKept := List.of_mem_filter ha
    have hKept' := List.of_mem_filter hb
    simp only [Bool.and_eq_true] at hKept hKept'
    exact hDiffer hKept.1.1 hKept'.1.1

/-- Two different survivors in the order of drawing have centres in that order. -/
theorem centerBefore_of_drawn (hSane : profile.expansion.Sane) {a b : PoiCandidate}
    (ha : a ∈ survivors hash profile) (hb : b ∈ survivors hash profile) (hDiffer : a ≠ b)
    (hOrder : ¬ DrawnAfter a b) : CenterBefore a b := by
  have hCenters : ¬ (a.centerX = b.centerX ∧ a.centerZ = b.centerZ) := fun hSame =>
    hDiffer (survivors_center_injective hSane ha hb hSame.1 hSame.2)
  unfold DrawnAfter poiDrawLess at hOrder
  unfold CenterBefore
  split_ifs at hOrder with hX hZ
  · rw [decide_eq_true_eq] at hOrder
    omega
  · rw [decide_eq_true_eq] at hOrder
    omega
  · rw [not_not] at hX hZ
    exact absurd ⟨hX.symm, hZ.symm⟩ hCenters

/-- The search for a chunk returns the candidates of the grid that the chunk needs, each once,
strictly sorted by centre. -/
theorem candidates_gathered_exactly (hash : WorldHash) (profile : WorldGenerationProfile F)
    (chunkX chunkZ : Int) :
    let sane := sanitizeWorldGenerationProfile profile
    let gathered := gatherChunkCandidates hash chunkX chunkZ sane
    (∀ candidate, candidate ∈ gathered ↔ Needed hash sane chunkX chunkZ candidate) ∧
      gathered.Nodup ∧ gathered.Pairwise CenterBefore := by
  intro sane gathered
  have hNodup : gathered.Nodup := nodup_gathered hash chunkX chunkZ sane
  have hMem : ∀ candidate, candidate ∈ gathered ↔ Needed hash sane chunkX chunkZ candidate :=
    fun candidate => mem_gatherChunkCandidates.trans needed_iff.symm
  refine ⟨hMem, hNodup, ?_⟩
  have hSorted : gathered.Pairwise fun a b => ¬ DrawnAfter a b := sorted_gathered chunkX chunkZ
  apply (hNodup.and hSorted).imp_of_mem
  intro a b ha hb hOrdered
  have hSurvives := (needed_iff.mp ((hMem a).mp ha)).1
  have hSurvives' := (needed_iff.mp ((hMem b).mp hb)).1
  exact centerBefore_of_drawn (sane_sanitize profile) hSurvives hSurvives' hOrdered.1 hOrdered.2

end DevyFps.Voxel
