import DevyFps.Shared.Voxel.CandidateSearch
import DevyFps.Shared.Voxel.World
import Mathlib.Tactic.IntervalCases

/-! Points of interest across chunk borders. Each chunk is generated by itself; the
question is whether the chunks together show the structures whole. -/

namespace DevyFps.Voxel

open Foundations FloatFormat

variable {F : Type} [SingleFloat F] {hash : WorldHash} {profile : WorldGenerationProfile F}

structure ChunkCoord.NonNegative (coord : ChunkCoord) : Prop where
  x : 0 ≤ coord.x
  y : 0 ≤ coord.y
  z : 0 ≤ coord.z

/-- All blocks of a structure, in the order in which its stamp places them. -/
def structureWrites (hash : WorldHash) (worldSeed : UInt32) (candidate : PoiCandidate)
    (baseHeight maxHeight : Int) : List BlockWrite :=
  match candidate.type with
  | .outpost => outpostWrites candidate (floorLevel baseHeight maxHeight)
  | .ruins => ruinsWrites hash worldSeed candidate (floorLevel baseHeight maxHeight)
  | .lootShrine => lootShrineWrites candidate (floorLevel baseHeight maxHeight)

/-- The complete structure of a candidate, in a world without chunks: every block that
its stamp draws below the height limit. -/
def drawnBlocks (hash : WorldHash) (profile : WorldGenerationProfile F) (maxHeight : Int)
    (candidate : PoiCandidate) : List BlockWrite :=
  (structureWrites hash profile.worldSeed candidate
    (sampleHeight F candidate.centerX candidate.centerZ maxHeight) maxHeight).filter
      fun write => decide (write.1.y < maxHeight)

/-- The ground without structures. -/
def terrainAt (F : Type) [SingleFloat F] (maxHeight : Int) (position : BlockPos) : BlockId :=
  terrainBlock position.y (sampleHeight F position.x position.z maxHeight)

/-- The first candidate is drawn later than the second. -/
def DrawnAfter (later earlier : PoiCandidate) : Prop := poiDrawLess earlier later = true

/-- The blocks of a world in which the given candidates are drawn whole on the terrain. -/
def Overlaid (hash : WorldHash) (profile : WorldGenerationProfile F) (maxHeight : Int)
    (candidates : Set PoiCandidate) (position : BlockPos) (block : BlockId) : Prop :=
  Shows (drawnBlocks hash profile maxHeight) DrawnAfter candidates
    (terrainAt F maxHeight position) position block

/-- Every block of the chunk is what the complete structures of all surviving
candidates, drawn on the terrain, show there. -/
def Seamless (hash : WorldHash) (profile : WorldGenerationProfile F) (maxHeight : Int)
    (coord : ChunkCoord) (chunk : Chunk) : Prop :=
  ∀ x y z, Chunk.isInside x y z = true →
    Overlaid hash profile maxHeight (survivors hash profile) (worldPos coord x y z)
      (chunk.get x y z)

/-- How far a structure reaches from its centre on each axis. -/
def reach : PoiType → Int
  | .outpost => 6
  | .ruins => 5
  | .lootShrine => 3

/-- The candidate touches the chunk with the corner of its square only, and its circle
does not contain that corner. -/
def CutAtCorner (candidate : PoiCandidate) (coord : ChunkCoord) : Prop :=
  candidate.type ≠ .lootShrine ∧
    |candidate.centerX - nearestInChunk candidate.centerX coord.x| = reach candidate.type ∧
    |candidate.centerZ - nearestInChunk candidate.centerZ coord.z| = reach candidate.type

/-- The survivors that are not cut at the corner of the chunk. -/
def uncut (hash : WorldHash) (profile : WorldGenerationProfile F) (coord : ChunkCoord) :
    Set PoiCandidate :=
  { candidate | candidate ∈ survivors hash profile ∧ ¬ CutAtCorner candidate coord }

/-- Whatever a cut structure draws in the chunk is drawn over by a later structure, or
is the block that the other structures and the terrain leave there anyway. -/
def CornersHidden (hash : WorldHash) (profile : WorldGenerationProfile F) (maxHeight : Int)
    (coord : ChunkCoord) : Prop :=
  ∀ x y z, Chunk.isInside x y z = true →
    ∀ candidate ∈ survivors hash profile, CutAtCorner candidate coord →
      ∀ block, lastWrite (worldPos coord x y z) (drawnBlocks hash profile maxHeight candidate) =
          some block →
        (∃ other ∈ survivors hash profile, DrawnAfter other candidate ∧
          lastWrite (worldPos coord x y z) (drawnBlocks hash profile maxHeight other) ≠ none) ∨
        Overlaid hash profile maxHeight (uncut hash profile coord) (worldPos coord x y z) block

/-- A site is stamped by the writes of its structure, one after the other. -/
theorem stampPoi_eq_foldl (worldSeed : UInt32) (coord : ChunkCoord) (candidate : PoiCandidate)
    (baseHeight maxHeight : Int) (chunk : Chunk) :
    stampPoi hash worldSeed coord candidate baseHeight maxHeight chunk =
      (structureWrites hash worldSeed candidate baseHeight maxHeight).foldl
        (setBlockIfInChunk coord maxHeight) chunk := by
  unfold stampPoi structureWrites
  cases candidate.type <;> rfl

/-- Placing a block is seen at the position of the chunk that the block names. -/
theorem get_setBlockIfInChunk {coord : ChunkCoord} (hCoord : coord.NonNegative) {x y z : Int}
    (hInside : Chunk.isInside x y z = true) (maxHeight : Int) (chunk : Chunk)
    (write : BlockWrite) :
    (setBlockIfInChunk coord maxHeight chunk write).get x y z =
      if write.1 = worldPos coord x y z ∧ decide ((worldPos coord x y z).y < maxHeight) = true
      then write.2 else chunk.get x y z := by
  obtain ⟨⟨wx, wy, wz⟩, block⟩ := write
  have hRange := Chunk.isInside_iff.mp hInside
  obtain ⟨hCoordX, hCoordY, hCoordZ⟩ := hCoord
  have hHere : (⟨wx, wy, wz⟩ : BlockPos) = worldPos coord x y z ∧
      decide ((worldPos coord x y z).y < maxHeight) = true ↔
      (wx = coord.x * 32 + x ∧ wy = coord.y * 32 + y ∧ wz = coord.z * 32 + z) ∧
        coord.y * 32 + y < maxHeight := by
    rw [decide_eq_true_iff]
    simp only [worldPos, kChunkSize, BlockPos.mk.injEq]
  unfold setBlockIfInChunk
  dsimp only
  split
  · rw [if_neg]
    rw [hHere]
    omega
  · split
    · rename_i hElsewhere
      simp only [kChunkSize] at hElsewhere
      rw [if_neg]
      rw [hHere]
      omega
    · rename_i hLimits hChunk
      simp only [kChunkSize, not_or, not_not] at hChunk
      rw [Chunk.get_set]
      apply if_congr _ rfl rfl
      rw [hHere, Chunk.isInside_iff]
      simp only [kChunkSize]
      omega

/-- A generated block is the last write of the gathered structures, or terrain. -/
theorem get_generateChunk {coord : ChunkCoord} (hCoord : coord.NonNegative) {x y z : Int}
    (hInside : Chunk.isInside x y z = true) (maxHeight : Int) :
    (generateChunk hash profile coord maxHeight).get x y z =
      (lastWrite (worldPos coord x y z)
        ((gatherChunkCandidates hash coord.x coord.z profile).flatMap
          (drawnBlocks hash profile maxHeight))).getD
        (terrainAt F maxHeight (worldPos coord x y z)) := by
  have hStamp : (fun (chunk : Chunk) (poi : PoiCandidate) =>
      stampPoi hash profile.worldSeed coord poi
        (sampleHeight F poi.centerX poi.centerZ maxHeight) maxHeight chunk) =
      fun chunk poi => (structureWrites hash profile.worldSeed poi
        (sampleHeight F poi.centerX poi.centerZ maxHeight) maxHeight).foldl
          (setBlockIfInChunk coord maxHeight) chunk := by
    funext chunk poi
    exact stampPoi_eq_foldl _ _ _ _ _ _
  unfold generateChunk
  rw [hStamp, ← List.foldl_flatMap,
    observe_foldl (worldPos coord x y z) (fun position => decide (position.y < maxHeight))
      (fun chunk : Chunk => chunk.get x y z) (setBlockIfInChunk coord maxHeight)
      (get_setBlockIfInChunk hCoord hInside maxHeight),
    List.filter_flatMap, get_fillTerrain F coord maxHeight hInside]
  rfl

theorem poiDrawLess_isComparator : IsComparator poiDrawLess where
  asymm a b h := by
    simp only [poiDrawLess] at h ⊢
    split_ifs at h ⊢ <;> simp only [decide_eq_true_eq, decide_eq_false_iff_not] at h ⊢ <;> omega
  notAfter_trans a b c hab hbc := by
    simp only [poiDrawLess] at hab hbc ⊢
    split_ifs at hab hbc ⊢ <;> simp only [decide_eq_false_iff_not] at hab hbc ⊢ <;> omega

theorem drawnAfter_irrefl (candidate : PoiCandidate) : ¬ DrawnAfter candidate candidate := by
  unfold DrawnAfter poiDrawLess
  simp

/-- Survivors are drawn at different times. -/
theorem stacked_survivors (hSane : profile.expansion.Sane) :
    Stacked DrawnAfter (survivors hash profile) := by
  intro a ha b hb
  by_cases hSame : a.centerX = b.centerX ∧ a.centerZ = b.centerZ
  · exact Or.inl (survivors_center_injective hSane ha hb hSame.1 hSame.2)
  · refine Or.inr ?_
    unfold DrawnAfter poiDrawLess
    by_cases hX : a.centerX = b.centerX
    · have hZ : a.centerZ ≠ b.centerZ := fun hZ => hSame ⟨hX, hZ⟩
      simp only [hX, ne_eq, not_true_eq_false, if_false, hZ, Ne.symm hZ, not_false_eq_true,
        if_true, decide_eq_true_eq]
      omega
    · simp only [ne_eq, hX, Ne.symm hX, not_false_eq_true, if_true, decide_eq_true_eq]
      omega

/-- The writes of a column. -/
theorem mem_column {x floorY z low high : Int} {block value : BlockId} {position : BlockPos} :
    (position, value) ∈ column x floorY z low high block ↔
      position.x = x ∧ position.z = z ∧
        (floorY + low ≤ position.y ∧ position.y ≤ floorY + high) ∧ value = block := by
  obtain ⟨px, py, pz⟩ := position
  simp only [column, List.mem_map, mem_intRange, Prod.mk.injEq, BlockPos.mk.injEq]
  constructor
  · rintro ⟨h, hRange, ⟨rfl, rfl, rfl⟩, rfl⟩
    exact ⟨rfl, rfl, by omega, rfl⟩
  · rintro ⟨rfl, rfl, hRange, rfl⟩
    exact ⟨py - floorY, by omega, ⟨rfl, by omega, rfl⟩, rfl⟩

/-- The position is within the given distance of the centre on both axes. -/
def Within (distance : Int) (candidate : PoiCandidate) (position : BlockPos) : Prop :=
  (candidate.centerX - distance ≤ position.x ∧ position.x ≤ candidate.centerX + distance) ∧
    candidate.centerZ - distance ≤ position.z ∧ position.z ≤ candidate.centerZ + distance

/-- An outpost reaches six blocks from its centre. -/
theorem within_outpostWrites {candidate : PoiCandidate} {floorY : Int} {position : BlockPos}
    {block : BlockId} (h : (position, block) ∈ outpostWrites candidate floorY) :
    Within 6 candidate position := by
  unfold outpostWrites at h
  simp only [List.mem_append, List.mem_flatMap, mem_intRange, List.mem_cons, mem_column,
    Prod.mk.injEq, List.not_mem_nil, or_false] at h
  rcases h with ((⟨dz, hdz, dx, hdx, ⟨rfl, _⟩ | hWall⟩ | ⟨gateX, hGate, hx, hz, _⟩) |
    ⟨hx, hz, _⟩) | ⟨rfl, _⟩
  · unfold Within
    dsimp only
    omega
  · split at hWall
    · rw [mem_column] at hWall
      unfold Within
      omega
    · cases hWall
  · unfold Within
    omega
  · unfold Within
    omega
  · unfold Within
    dsimp only
    omega

/-- Ruins reach five. -/
theorem within_ruinsWrites {worldSeed : UInt32} {candidate : PoiCandidate} {floorY : Int}
    {position : BlockPos} {block : BlockId}
    (h : (position, block) ∈ ruinsWrites hash worldSeed candidate floorY) :
    Within 5 candidate position := by
  unfold ruinsWrites at h
  simp only [List.mem_flatMap, mem_intRange] at h
  obtain ⟨dz, hdz, dx, hdx, hBlock⟩ := h
  split at hBlock
  · simp only [List.mem_cons, Prod.mk.injEq, List.not_mem_nil, or_false] at hBlock
    obtain ⟨rfl, _⟩ := hBlock
    unfold Within
    dsimp only
    omega
  · split at hBlock
    · cases hBlock
    · rw [mem_column] at hBlock
      unfold Within
      omega

/-- A shrine reaches three. -/
theorem within_lootShrineWrites {candidate : PoiCandidate} {floorY : Int} {position : BlockPos}
    {block : BlockId} (h : (position, block) ∈ lootShrineWrites candidate floorY) :
    Within 3 candidate position := by
  unfold lootShrineWrites at h
  simp only [List.mem_append, List.mem_flatMap, mem_intRange, List.mem_cons, mem_column,
    Prod.mk.injEq, List.not_mem_nil, or_false, List.map_cons, List.map_nil] at h
  rcases h with ((⟨dz, hdz, dx, hdx, hFloor⟩ | ⟨hx, hz, _⟩) | ⟨rfl, _⟩) |
    ⟨rfl, _⟩ | ⟨rfl, _⟩ | ⟨rfl, _⟩ | ⟨rfl, _⟩
  · split at hFloor
    · simp only [List.mem_cons, Prod.mk.injEq, List.not_mem_nil, or_false] at hFloor
      obtain ⟨rfl, _⟩ := hFloor
      unfold Within
      dsimp only
      omega
    · cases hFloor
  · unfold Within
    omega
  all_goals
    unfold Within
    dsimp only
    omega

/-- A structure draws only within its reach. -/
theorem within_drawnBlocks {maxHeight : Int} {candidate : PoiCandidate} {position : BlockPos}
    (h : lastWrite position (drawnBlocks hash profile maxHeight candidate) ≠ none) :
    Within (reach candidate.type) candidate position := by
  obtain ⟨block, hBlock⟩ := Option.ne_none_iff_exists'.mp h
  have hMem := (List.mem_filter.mp (lastWrite_mem hBlock)).1
  unfold structureWrites at hMem
  cases hType : candidate.type with
  | outpost =>
      rw [hType] at hMem
      exact within_outpostWrites hMem
  | ruins =>
      rw [hType] at hMem
      exact within_ruinsWrites hMem
  | lootShrine =>
      rw [hType] at hMem
      exact within_lootShrineWrites hMem

/-- A structure that reaches a position is no further from the chunk of that position. -/
theorem nearest_le_of_within {distance center chunk offset : Int} (hInside : 0 ≤ offset ∧ offset < 32)
    (hWithin : center - distance ≤ chunk * kChunkSize + offset ∧
      chunk * kChunkSize + offset ≤ center + distance) :
    |center - nearestInChunk center chunk| ≤ distance := by
  unfold nearestInChunk kChunkSize at *
  rw [abs_le]
  omega

/-- The square of a structure meets the chunk without its circle exactly at a corner. -/
theorem intersectsChunk_iff_not_cutAtCorner {candidate : PoiCandidate} {coord : ChunkCoord}
    (hRadius : candidate.radiusUnits = poiRadiusUnits candidate.type)
    (hX : |candidate.centerX - nearestInChunk candidate.centerX coord.x| ≤ reach candidate.type)
    (hZ : |candidate.centerZ - nearestInChunk candidate.centerZ coord.z| ≤ reach candidate.type) :
    intersectsChunk candidate coord.x coord.z = true ↔ ¬ CutAtCorner candidate coord := by
  unfold intersectsChunk CutAtCorner
  dsimp only
  rw [decide_eq_true_iff, hRadius]
  generalize candidate.centerX - nearestInChunk candidate.centerX coord.x = dx at *
  generalize candidate.centerZ - nearestInChunk candidate.centerZ coord.z = dz at *
  rw [← abs_mul_abs_self dx, ← abs_mul_abs_self dz]
  have hdx := abs_nonneg dx
  have hdz := abs_nonneg dz
  generalize |dx| = ax at *
  generalize |dz| = az at *
  generalize candidate.type = type at *
  cases type with
  | outpost =>
      simp only [reach, poiRadiusUnits] at *
      interval_cases ax <;> interval_cases az <;> decide
  | ruins =>
      simp only [reach, poiRadiusUnits] at *
      interval_cases ax <;> interval_cases az <;> decide
  | lootShrine =>
      simp only [reach, poiRadiusUnits] at *
      interval_cases ax <;> interval_cases az <;> decide

/-- The radius that a survivor carries is that of its type. -/
theorem radius_of_mem_survivors {candidate : PoiCandidate}
    (h : candidate ∈ survivors hash profile) :
    candidate.radiusUnits = poiRadiusUnits candidate.type := by
  obtain ⟨cellX, cellZ, rfl, hSurvives⟩ := h
  exact (buildCandidate_valid (valid_of_survivesSpacing hSurvives)).2.2.2.2.2

/-- What a survivor draws in a chunk puts its centre near the chunk, and its circle
meets the chunk unless it is cut at the corner. -/
theorem survivor_draws_in_chunk {candidate : PoiCandidate} {coord : ChunkCoord} {maxHeight : Int}
    (hSurvivor : candidate ∈ survivors hash profile) {x y z : Int}
    (hInside : Chunk.isInside x y z = true)
    (hDraws : lastWrite (worldPos coord x y z) (drawnBlocks hash profile maxHeight candidate) ≠
      none) :
    (NearAxis candidate.centerX coord.x ∧ NearAxis candidate.centerZ coord.z) ∧
      (intersectsChunk candidate coord.x coord.z = true ↔ ¬ CutAtCorner candidate coord) := by
  have hRange := Chunk.isInside_iff.mp hInside
  have hWithin := within_drawnBlocks hDraws
  have hX := nearest_le_of_within hRange.1 hWithin.1
  have hZ := nearest_le_of_within hRange.2.2 hWithin.2
  refine ⟨?_, intersectsChunk_iff_not_cutAtCorner (radius_of_mem_survivors hSurvivor) hX hZ⟩
  have hReach : 0 ≤ reach candidate.type ∧ reach candidate.type ≤ 8 := by
    cases candidate.type <;> decide
  simp only [Within, worldPos, kChunkSize] at hWithin
  simp only [NearAxis, kChunkSize]
  omega

/-- At a position of the chunk the gathered candidates show what the uncut ones show. -/
theorem overlaid_gathered_iff {coord : ChunkCoord} {maxHeight : Int} {x y z : Int}
    (hInside : Chunk.isInside x y z = true) (block : BlockId) :
    Overlaid hash profile maxHeight
        { candidate | candidate ∈ gatherChunkCandidates hash coord.x coord.z profile }
        (worldPos coord x y z) block ↔
      Overlaid hash profile maxHeight (uncut hash profile coord) (worldPos coord x y z) block := by
  apply shows_congr
  intro candidate hDraws
  simp only [Set.mem_ofPred_eq, mem_gatherChunkCandidates, uncut]
  constructor
  · rintro ⟨hSurvivor, hIntersects⟩
    exact ⟨hSurvivor, (survivor_draws_in_chunk hSurvivor hInside hDraws).2.mp hIntersects⟩
  · rintro ⟨hSurvivor, hUncut⟩
    exact ⟨hSurvivor, (survivor_draws_in_chunk hSurvivor hInside hDraws).2.mpr hUncut⟩

/-- The sites of a chunk are drawn in their order. -/
theorem sorted_gathered (chunkX chunkZ : Int) :
    (gatherChunkCandidates hash chunkX chunkZ profile).Pairwise fun a b => ¬ DrawnAfter a b := by
  unfold gatherChunkCandidates
  split
  · exact List.Pairwise.nil
  · apply (sortBy_pairwise poiDrawLess_isComparator _).imp
    intro a b hab
    simp [DrawnAfter, hab]

/-- What the generator writes is what the uncut structures show on the terrain. -/
theorem overlaid_generateChunk {coord : ChunkCoord} (hCoord : coord.NonNegative) {x y z : Int}
    (hInside : Chunk.isInside x y z = true) (maxHeight : Int) :
    Overlaid hash profile maxHeight (uncut hash profile coord) (worldPos coord x y z)
      ((generateChunk hash profile coord maxHeight).get x y z) := by
  rw [← overlaid_gathered_iff hInside, get_generateChunk hCoord hInside]
  exact shows_lastWrite_flatMap drawnAfter_irrefl (sorted_gathered coord.x coord.z) _ _

/-- Some survivor is uppermost wherever one draws in the chunk. -/
theorem exists_uppermost_survivor {coord : ChunkCoord} {maxHeight : Int} {x y z : Int}
    (hInside : Chunk.isInside x y z = true) {candidate : PoiCandidate} {block : BlockId}
    (hSurvivor : candidate ∈ survivors hash profile)
    (hDraws : lastWrite (worldPos coord x y z) (drawnBlocks hash profile maxHeight candidate) =
      some block) :
    ∃ top shown, Uppermost (drawnBlocks hash profile maxHeight) DrawnAfter
      (survivors hash profile) (worldPos coord x y z) top shown := by
  let near := sortBy poiDrawLess <|
    (searchedCandidates hash coord.x coord.z profile).filter fun candidate =>
      survivesSpacing hash candidate profile
  have hSorted : near.Pairwise fun a b => ¬ DrawnAfter a b := by
    apply (sortBy_pairwise poiDrawLess_isComparator _).imp
    intro a b hab
    simp [DrawnAfter, hab]
  apply exists_uppermost drawnAfter_irrefl hSorted _ _ hSurvivor hDraws
  · intro other hOther
    have hFilter := List.mem_filter.mp (mem_sortBy.mp hOther)
    exact survivor_of_mem_searchedCandidates hFilter.1 hFilter.2
  · intro other hOther hOtherDraws
    obtain ⟨hX, hZ⟩ := (survivor_draws_in_chunk hOther hInside hOtherDraws).1
    apply mem_sortBy.mpr
    exact List.mem_filter.mpr
      ⟨mem_searchedCandidates hOther hX hZ, (mem_survivors_iff.mp hOther).2⟩

/-- A missing chunk gets the content that the generator makes. -/
theorem ensureGeneratedChunk_missing (world : World F) (profile : WorldGenerationProfile F)
    {coord : ChunkCoord} {maxHeight : Int} (hHeight : 0 < maxHeight)
    (hMissing : world.chunks.find coord = none) :
    ((world.setGenerationProfile profile).ensureGeneratedChunk coord maxHeight).1 =
      generateChunk hashWorld (sanitizeWorldGenerationProfile profile) coord
        (max world.maxHeight maxHeight) := by
  simp [World.ensureGeneratedChunk, World.setGenerationProfile, hMissing, hHeight]

/-- For every profile, height limit and chunk, and whatever chunks the world already
has: the chunk that the generator makes shows the structures whole exactly when no
block is lost at a corner. -/
theorem seamless_iff (world : World F) (profile : WorldGenerationProfile F) (coord : ChunkCoord)
    (maxHeight : Int) (hCoord : coord.NonNegative) (hHeight : 0 < maxHeight)
    (hMissing : world.chunks.find coord = none) :
    Seamless hashWorld (sanitizeWorldGenerationProfile profile) (max world.maxHeight maxHeight)
        coord ((world.setGenerationProfile profile).ensureGeneratedChunk coord maxHeight).1 ↔
      CornersHidden hashWorld (sanitizeWorldGenerationProfile profile)
        (max world.maxHeight maxHeight) coord := by
  have hStacked : Stacked DrawnAfter
      (survivors hashWorld (sanitizeWorldGenerationProfile profile)) :=
    stacked_survivors (sane_sanitize profile)
  have hAt : ∀ x y z, Chunk.isInside x y z = true → _ := fun x y z hInside =>
    shows_all_iff hStacked (fun _ hUncut => hUncut.1)
      (fun _ _ hSurvivor hDraws => exists_uppermost_survivor hInside hSurvivor hDraws)
      (overlaid_generateChunk hCoord hInside (max world.maxHeight maxHeight))
  rw [ensureGeneratedChunk_missing world profile hHeight hMissing]
  constructor
  · intro hSeamless x y z hInside candidate hSurvivor hCut block hDraws
    exact (hAt x y z hInside).mp (hSeamless x y z hInside) candidate hSurvivor
      (fun hUncut => hUncut.2 hCut) block hDraws
  · intro hHidden x y z hInside
    refine (hAt x y z hInside).mpr fun candidate hSurvivor hNotUncut block hDraws => ?_
    refine hHidden x y z hInside candidate hSurvivor ?_ block hDraws
    by_contra hNotCut
    exact hNotUncut ⟨hSurvivor, hNotCut⟩

/-- Outposts only, and a seed for which one of them touches a chunk with its corner. -/
def cornerProfile : WorldGenerationProfile ℚ :=
  { worldSeed := 269
    expansion := { poiTypes := { ruins := false, lootShrine := false } } }

/-- The outpost of the first cell: its square ends at (63, 63), the last column of the
chunk (1, 1). -/
def cornerOutpost : PoiCandidate :=
  { type := .outpost
    centerX := 69
    centerZ := 69
    cellX := 0
    cellZ := 0
    radiusUnits := 8
    rank := 8287917327638302568
    valid := true }

/-- The outpost at the corner survives the spacing. -/
theorem cornerOutpost_survives :
    cornerOutpost ∈ survivors hashWorld (sanitizeWorldGenerationProfile cornerProfile) :=
  ⟨0, 0, by decide +kernel, by decide +kernel⟩

/-- What touches a chunk with its square stands near it. -/
theorem nearAxis_of_reach {center chunk : Int} {type : PoiType}
    (h : |center - nearestInChunk center chunk| = reach type) : NearAxis center chunk := by
  have hReach : reach type ≤ 8 := by cases type <;> decide
  obtain ⟨hLow, hHigh⟩ := abs_le.mp (h.le.trans hReach)
  have hNearest := nearestInChunk_bounds center chunk
  unfold NearAxis
  omega

/-- No structure is cut at a corner of the chunk that the outpost stands in, which is whole. -/
theorem seamless_iff_outpost :
    Seamless hashWorld (sanitizeWorldGenerationProfile cornerProfile)
      (max ({} : World ℚ).maxHeight 256) ⟨2, 0, 2⟩
      ((({} : World ℚ).setGenerationProfile cornerProfile).ensureGeneratedChunk
        ⟨2, 0, 2⟩ 256).1 := by
  refine (seamless_iff {} cornerProfile ⟨2, 0, 2⟩ 256 ⟨by decide, by decide, by decide⟩ (by decide)
    rfl).mpr ?_
  have hWhole : ∀ candidate ∈ searchedCandidates hashWorld 2 2
      (sanitizeWorldGenerationProfile cornerProfile),
      ¬(|candidate.centerX - nearestInChunk candidate.centerX 2| = reach candidate.type ∧
        |candidate.centerZ - nearestInChunk candidate.centerZ 2| = reach candidate.type) := by
    decide +kernel
  intro x y z _ candidate hSurvivor hCut
  refine absurd hCut.2 (hWhole candidate (mem_searchedCandidates hSurvivor ?_ ?_))
  · exact nearAxis_of_reach hCut.2.1
  · exact nearAxis_of_reach hCut.2.2

/-- The profile places outposts only. -/
theorem type_of_cornerProfile {candidate : PoiCandidate}
    (h : candidate ∈ survivors hashWorld (sanitizeWorldGenerationProfile cornerProfile)) :
    candidate.type = .outpost :=
  type_of_only_outposts rfl h

/-- On its floor an outpost draws stone only. -/
theorem floor_of_outpostWrites {candidate : PoiCandidate} {floorY : Int} {position : BlockPos}
    {block : BlockId} (h : (position, block) ∈ outpostWrites candidate floorY)
    (hFloor : position.y ≤ floorY) : block = 2 := by
  unfold outpostWrites at h
  simp only [List.mem_append, List.mem_flatMap, mem_intRange, List.mem_cons, mem_column,
    Prod.mk.injEq, List.not_mem_nil, or_false] at h
  rcases h with ((⟨dz, hdz, dx, hdx, ⟨_, hBlock⟩ | hWall⟩ | ⟨gateX, hGate, _, _, hY, _⟩) |
    ⟨_, _, hY, hBlock⟩) | ⟨hPos, _⟩
  · exact hBlock
  · split at hWall
    · exact (mem_column.mp hWall).2.2.2
    · cases hWall
  · omega
  · exact hBlock
  · rw [hPos] at hFloor
    dsimp only at hFloor
    omega

/-- In a world of height one the ground is at one. -/
theorem sampleHeight_one (F : Type) [SingleFloat F] (worldX worldZ : Int) :
    sampleHeight F worldX worldZ 1 = 1 := by
  have hBounds := sampleHeight_bounds F worldX worldZ (by decide : (0 : Int) < 1)
  omega

/-- The blocks of an outpost at the lowest level of a world of height one. -/
theorem mem_drawnBlocks_cornerProfile {candidate : PoiCandidate} {position : BlockPos}
    {block : BlockId}
    (hSurvivor : candidate ∈ survivors hashWorld (sanitizeWorldGenerationProfile cornerProfile))
    (hLevel : position.y = 0) :
    (position, block) ∈ drawnBlocks hashWorld (sanitizeWorldGenerationProfile cornerProfile) 1
        candidate ↔ (position, block) ∈ outpostWrites candidate 0 := by
  simp [drawnBlocks, structureWrites, type_of_cornerProfile hSurvivor, sampleHeight_one,
    floorLevel, hLevel]

/-- The structures do not show grass at the corner of the outpost's floor. -/
theorem no_grass_at_corner :
    ¬ Overlaid hashWorld (sanitizeWorldGenerationProfile cornerProfile) 1
      (survivors hashWorld (sanitizeWorldGenerationProfile cornerProfile)) ⟨63, 0, 63⟩ 3 := by
  generalize hShown : (3 : BlockId) = shown
  intro hShows
  cases hShows with
  | layer candidate _ hUpper =>
      have hStone := floor_of_outpostWrites
        ((mem_drawnBlocks_cornerProfile hUpper.mem rfl).mp (lastWrite_mem hUpper.draws)) le_rfl
      rw [← hShown] at hStone
      exact absurd hStone (by decide)
  | background hNone =>
      have hCorner : ((⟨63, 0, 63⟩ : BlockPos), (2 : BlockId)) ∈ outpostWrites cornerOutpost 0 := by
        decide +kernel
      have hSome := lastWrite_isSome_iff.mpr
        ⟨2, (mem_drawnBlocks_cornerProfile cornerOutpost_survives rfl).mpr hCorner⟩
      rw [hNone cornerOutpost cornerOutpost_survives] at hSome
      cases hSome

/-- The search for the chunk (1, 1) does not find the outpost, so the chunk has grass
there. -/
theorem grass_at_corner :
    (generateChunk hashWorld (sanitizeWorldGenerationProfile cornerProfile) ⟨1, 0, 1⟩ 1).get
      31 0 31 = 3 := by
  have hGathered : gatherChunkCandidates hashWorld 1 1
      (sanitizeWorldGenerationProfile cornerProfile) = [] := by decide +kernel
  rw [get_generateChunk ⟨by decide, by decide, by decide⟩ (by decide), hGathered,
    List.flatMap_nil, lastWrite_nil, Option.getD_none, terrainAt, sampleHeight_one]
  rfl

/-- A chunk with grass where the corner of an outpost's floor belongs. -/
theorem chunk_not_seamless :
    ¬ ∀ (world : World ℚ) (profile : WorldGenerationProfile ℚ) (coord : ChunkCoord)
      (maxHeight : Int), coord.NonNegative → 0 < maxHeight → world.chunks.find coord = none →
      Seamless hashWorld (sanitizeWorldGenerationProfile profile) (max world.maxHeight maxHeight)
        coord ((world.setGenerationProfile profile).ensureGeneratedChunk coord maxHeight).1 := by
  intro hAll
  have hCoord : (⟨1, 0, 1⟩ : ChunkCoord).NonNegative := ⟨by decide, by decide, by decide⟩
  have hSeamless := hAll {} cornerProfile ⟨1, 0, 1⟩ 1 hCoord (by decide) rfl 31 0 31 (by decide)
  rw [ensureGeneratedChunk_missing {} cornerProfile (by decide) rfl] at hSeamless
  have hHeight : max ({} : World ℚ).maxHeight 1 = 1 := rfl
  have hCorner : worldPos ⟨1, 0, 1⟩ 31 0 31 = ⟨63, 0, 63⟩ := by decide
  rw [hHeight, grass_at_corner, hCorner] at hSeamless
  exact no_grass_at_corner hSeamless

end DevyFps.Voxel
