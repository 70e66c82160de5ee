import DevyFps.Foundations.ViewChange
import DevyFps.Server.WorldReplication

/-! What one player update contains: it is the change from the player's last view to the
present one. -/

namespace DevyFps.Server

open Foundations FloatFormat Voxel

/-- Chunks are ordered by column first and by height then. -/
theorem chunkCoordLess_iff {a b : ChunkCoord} :
    chunkCoordLess a b = true ↔
      a.x < b.x ∨ a.x = b.x ∧ (a.z < b.z ∨ a.z = b.z ∧ a.y < b.y) := by
  unfold chunkCoordLess
  split_ifs <;> simp only [decide_eq_true_eq] <;> omega

/-- The order of the chunks is one that `std::sort` can use. -/
theorem chunkCoordLess_isComparator : IsComparator chunkCoordLess where
  asymm a b h := by
    rw [chunkCoordLess_iff] at h
    rw [← Bool.not_eq_true, chunkCoordLess_iff]
    omega
  notAfter_trans a b c hab hbc := by
    rw [← Bool.not_eq_true, chunkCoordLess_iff] at *
    omega

theorem chunkEntryLess_isComparator : IsComparator chunkEntryLess where
  asymm a b := chunkCoordLess_isComparator.asymm a.coord b.coord
  notAfter_trans a b c := chunkCoordLess_isComparator.notAfter_trans a.coord b.coord c.coord

/-- Distinct chunks are in one order or the other. -/
theorem chunkCoordLess_of_ne {a b : ChunkCoord} (hNe : a ≠ b)
    (h : chunkCoordLess b a = false) : chunkCoordLess a b = true := by
  rw [← Bool.not_eq_true, chunkCoordLess_iff] at h
  rw [chunkCoordLess_iff]
  by_contra hNot
  apply hNe
  cases a
  cases b
  rw [ChunkCoord.mk.injEq]
  dsimp only at h hNot
  omega

/-- Entries with distinct coordinates end up in strictly ascending order. -/
theorem ascending_sortBy {entries : List ChunkRevisionEntry}
    (h : (entries.map ChunkRevisionEntry.coord).Nodup) :
    (sortBy chunkEntryLess entries).Pairwise fun a b => chunkEntryLess a b = true := by
  have hSorted := sortBy_pairwise chunkEntryLess_isComparator entries
  have hNodup : ((sortBy chunkEntryLess entries).map ChunkRevisionEntry.coord).Nodup :=
    (((sortBy_perm chunkEntryLess entries).map _).nodup_iff).mpr h
  rw [List.Nodup, List.pairwise_map] at hNodup
  exact (hSorted.and hNodup).imp fun hBoth => chunkCoordLess_of_ne hBoth.2 hBoth.1

namespace WorldReplication

variable {F : Type} [SingleFloat F]

/-- The revisions that a player ought to know: those of the relevant chunks. -/
def viewOf (relevant : List ChunkCoord) (revisionOf : ChunkCoord → UInt32) (coord : ChunkCoord) :
    Option UInt32 :=
  if coord ∈ relevant then some (revisionOf coord) else none

/-- A player sees the revision of each relevant chunk. -/
theorem viewOf_eq_some {relevant : List ChunkCoord} {revisionOf : ChunkCoord → UInt32}
    {coord : ChunkCoord} {revision : UInt32} :
    viewOf relevant revisionOf coord = some revision ↔
      coord ∈ relevant ∧ revisionOf coord = revision := by
  unfold viewOf
  split
  · rename_i hMem
    simp [hMem]
  · rename_i hMem
    simp [hMem]

/-- It sees nothing of the others. -/
theorem viewOf_eq_none {relevant : List ChunkCoord} {revisionOf : ChunkCoord → UInt32}
    {coord : ChunkCoord} : viewOf relevant revisionOf coord = none ↔ coord ∉ relevant := by
  unfold viewOf
  split <;> simp [*]

/-- A column lists the chunks of it that are there. -/
theorem mem_columnCoords {s : WorldReplication} {world : World F} {cx cz : Int}
    {coord : ChunkCoord} (h : coord ∈ s.columnCoords world cx cz) :
    coord.x = cx ∧ coord.z = cz ∧ (0 ≤ cx ∧ cx < s.config.chunksX) ∧
      (0 ≤ cz ∧ cz < s.config.chunksZ) ∧ (0 ≤ coord.y ∧ coord.y < s.config.chunksY) ∧
      (world.getChunk coord).isSome = true := by
  unfold columnCoords at h
  split at h
  · cases h
  · rename_i hInside
    obtain ⟨cy, hCy, rfl⟩ := List.mem_map.mp h
    obtain ⟨hRange, hChunk⟩ := List.mem_filter.mp hCy
    rw [mem_intRange] at hRange
    exact ⟨rfl, rfl, by omega, by omega, by dsimp only; omega, hChunk⟩

theorem nodup_columnCoords (s : WorldReplication) (world : World F) (cx cz : Int) :
    (s.columnCoords world cx cz).Nodup := by
  unfold columnCoords
  split
  · exact List.nodup_nil
  · apply List.Nodup.map _ ((nodup_intRange _ _).filter _)
    intro a b hab
    simpa using hab

/-- The relevant chunks are materialised, inside the configured extents, and listed once. -/
theorem mem_gatherRelevantChunks {s : WorldReplication} {worldX worldZ : F} {world : World F}
    {coord : ChunkCoord} (h : coord ∈ s.gatherRelevantChunks worldX worldZ world) :
    (0 ≤ coord.x ∧ coord.x < s.config.chunksX) ∧ (0 ≤ coord.y ∧ coord.y < s.config.chunksY) ∧
      (0 ≤ coord.z ∧ coord.z < s.config.chunksZ) ∧ (world.getChunk coord).isSome = true := by
  unfold gatherRelevantChunks at h
  split at h
  · cases h
  · rw [mem_sortBy] at h
    simp only [List.mem_flatMap] at h
    obtain ⟨dz, _, dx, _, hColumn⟩ := h
    split at hColumn
    · cases hColumn
    · obtain ⟨hX, hZ, hRangeX, hRangeZ, hRangeY, hChunk⟩ := mem_columnCoords hColumn
      rw [← hX] at hRangeX
      rw [← hZ] at hRangeZ
      exact ⟨hRangeX, hRangeY, hRangeZ, hChunk⟩

/-- A materialised chunk in the player's own column is relevant. -/
theorem mem_gather_of_center {s : WorldReplication} {worldX worldZ : F} {world : World F}
    {coord : ChunkCoord} (hRadius : 0 ≤ s.config.interestRadiusChunks)
    (hX : coord.x = max 0 (min (floorDivChunk worldX) (max 0 (s.config.chunksX - 1))))
    (hY : 0 ≤ coord.y ∧ coord.y < s.config.chunksY)
    (hZ : coord.z = max 0 (min (floorDivChunk worldZ) (max 0 (s.config.chunksZ - 1))))
    (hExtents : 0 < s.config.chunksX ∧ 0 < s.config.chunksZ)
    (hChunk : (world.getChunk coord).isSome = true) :
    coord ∈ s.gatherRelevantChunks worldX worldZ world := by
  unfold gatherRelevantChunks
  rw [if_neg (by omega)]
  dsimp only
  rw [mem_sortBy, ← hX, ← hZ]
  simp only [List.mem_flatMap, mem_intRange]
  refine ⟨0, by omega, 0, by omega, ?_⟩
  have hNear : ¬ (0 : Int) * 0 + 0 * 0 >
      s.config.interestRadiusChunks * s.config.interestRadiusChunks := by
    have := Int.mul_nonneg hRadius hRadius
    omega
  rw [if_neg hNear, add_zero, add_zero]
  unfold columnCoords
  rw [if_neg (by omega)]
  apply List.mem_map.mpr
  refine ⟨coord.y, List.mem_filter.mpr ⟨mem_intRange.mpr (by omega), hChunk⟩, rfl⟩

/-- No chunk is relevant twice. -/
theorem nodup_gatherRelevantChunks (s : WorldReplication) (worldX worldZ : F) (world : World F) :
    (s.gatherRelevantChunks worldX worldZ world).Nodup := by
  unfold gatherRelevantChunks
  split
  · exact List.nodup_nil
  · rw [(sortBy_perm _ _).nodup_iff, List.nodup_flatMap]
    constructor
    · intro dz _
      rw [List.nodup_flatMap]
      constructor
      · intro dx _
        split
        · exact List.nodup_nil
        · exact nodup_columnCoords _ _ _ _
      · apply (nodup_intRange _ _).imp
        intro dx dx' hNe coord hHere hThere
        dsimp only at hHere hThere
        split at hHere
        · cases hHere
        · split at hThere
          · cases hThere
          · have hX := (mem_columnCoords hHere).1
            have hX' := (mem_columnCoords hThere).1
            omega
    · apply (nodup_intRange _ _).imp
      intro dz dz' hNe coord hHere hThere
      simp only [List.mem_flatMap] at hHere hThere
      obtain ⟨dx, _, hColumn⟩ := hHere
      obtain ⟨dx', _, hColumn'⟩ := hThere
      split at hColumn
      · cases hColumn
      · split at hColumn'
        · cases hColumn'
        · have hZ := (mem_columnCoords hColumn).2.1
          have hZ' := (mem_columnCoords hColumn').2.1
          omega

/-- Forgetting a list of chunks. -/
theorem foldl_unsubscribe (coords : List ChunkCoord)
    (acc : PlayerReplicationState × PlayerWorldUpdate) :
    (∀ coord, (coords.foldl unsubscribe acc).1.subscribedChunks.find coord =
        if coord ∈ coords then none else acc.1.subscribedChunks.find coord) ∧
      (∀ coord, (coords.foldl unsubscribe acc).1.knownRevisions.find coord =
        if coord ∈ coords then none else acc.1.knownRevisions.find coord) ∧
      (coords.foldl unsubscribe acc).2 =
        { acc.2 with removed := acc.2.removed ++ coords.map fun coord => ⟨coord, 0⟩ } := by
  induction coords generalizing acc with
  | nil => simp
  | cons first rest ih =>
      obtain ⟨hSubscribed, hKnown, hUpdate⟩ := ih (unsubscribe acc first)
      rw [List.foldl_cons]
      refine ⟨?_, ?_, ?_⟩
      · intro coord
        rw [hSubscribed]
        simp only [unsubscribe, UnorderedMap.find_erase, List.mem_cons]
        split_ifs <;> simp_all
      · intro coord
        rw [hKnown]
        simp only [unsubscribe, UnorderedMap.find_erase, List.mem_cons]
        split_ifs <;> simp_all
      · rw [hUpdate]
        simp [unsubscribe]

end WorldReplication

/-- The player's two tables have the same keys. -/
def PlayerReplicationState.SameKeys (state : PlayerReplicationState) : Prop :=
  ∀ coord, (state.subscribedChunks.find coord).isSome = (state.knownRevisions.find coord).isSome

namespace WorldReplication

variable {F : Type} [SingleFloat F]

/-- What is known of a relevant chunk after an update: its revision, unless a greater one
was known. -/
def refreshed (revision : UInt32) : Option UInt32 → UInt32
  | none => revision
  | some known => if revision > known then revision else known

/-- A relevant chunk is reported again when its revision has grown. -/
def outdated (revision : UInt32) (known : Option UInt32) : Bool :=
  known.any fun known => decide (revision > known)

/-- A known revision is reported again exactly when the refreshed one differs. -/
theorem outdated_iff {revision known refreshedRevision : UInt32}
    (h : refreshed revision (some known) = refreshedRevision) :
    outdated revision (some known) = true ↔ known ≠ refreshedRevision := by
  subst h
  unfold refreshed outdated
  simp only [Option.any_some, decide_eq_true_eq]
  split
  · rename_i hNewer
    refine ⟨fun _ hSame => ?_, fun _ => hNewer⟩
    rw [hSame] at hNewer
    exact UInt32.lt_irrefl _ hNewer
  · rename_i hNotNewer
    exact ⟨fun hNewer => absurd hNewer hNotNewer, fun hNe => absurd rfl hNe⟩

/-- An outdated chunk is known at its new revision. -/
theorem refreshed_of_outdated {revision known : UInt32}
    (h : outdated revision (some known) = true) : refreshed revision (some known) = revision := by
  apply if_pos
  simpa [outdated] using h

/-- One relevant chunk, for a player whose tables agree. -/
theorem subscribe_spec (s : WorldReplication) (acc : PlayerReplicationState × PlayerWorldUpdate)
    (coord : ChunkCoord) (hKeys : acc.1.SameKeys) :
    (∀ other, (s.subscribe acc coord).1.knownRevisions.find other =
        if other = coord then
          some (refreshed (s.revisionFor coord) (acc.1.knownRevisions.find coord))
        else acc.1.knownRevisions.find other) ∧
      (s.subscribe acc coord).1.SameKeys ∧
      (s.subscribe acc coord).2 =
        { acc.2 with
          added := acc.2.added ++
            if acc.1.knownRevisions.find coord = none then [⟨coord, s.revisionFor coord⟩] else []
          deltas := acc.2.deltas ++
            if outdated (s.revisionFor coord) (acc.1.knownRevisions.find coord) = true then
              [⟨coord, s.revisionFor coord⟩]
            else [] } := by
  have hHere := hKeys coord
  unfold subscribe
  dsimp only
  cases hSubscribed : acc.1.subscribedChunks.find coord with
  | none =>
      rw [hSubscribed] at hHere
      have hKnown : acc.1.knownRevisions.find coord = none := by
        cases hFind : acc.1.knownRevisions.find coord with
        | none => rfl
        | some revision => rw [hFind] at hHere; cases hHere
      rw [hKnown]
      refine ⟨fun other => UnorderedMap.find_set _ _ _ _, fun other => ?_, by simp [outdated]⟩
      simp only [UnorderedMap.find_set]
      split
      · rfl
      · exact hKeys other
  | some _ =>
      rw [hSubscribed] at hHere
      obtain ⟨known, hKnown⟩ := Option.isSome_iff_exists.mp hHere.symm
      dsimp only
      rw [hKnown, Option.getD_some]
      by_cases hNewer : s.revisionFor coord > known
      · rw [if_pos hNewer]
        have hRefreshed : refreshed (s.revisionFor coord) (some known) = s.revisionFor coord :=
          if_pos hNewer
        rw [hRefreshed]
        refine ⟨fun other => UnorderedMap.find_set _ _ _ _, fun other => ?_, ?_⟩
        · simp only [UnorderedMap.find_set]
          split
          · rename_i hSame
            rw [hSame, hSubscribed]
            rfl
          · exact hKeys other
        · simp [outdated, hNewer]
      · rw [if_neg hNewer]
        have hRefreshed : refreshed (s.revisionFor coord) (some known) = known := if_neg hNewer
        rw [hRefreshed]
        refine ⟨fun other => ?_, hKeys, by simp [outdated, hNewer]⟩
        split
        · rename_i hSame
          rw [hSame, hKnown]
        · rfl

/-- The entries that are added and reported again are decided by the state before. -/
theorem foldl_subscribe (s : WorldReplication) (coords : List ChunkCoord) (hNodup : coords.Nodup)
    (acc : PlayerReplicationState × PlayerWorldUpdate) (hKeys : acc.1.SameKeys) :
    (∀ coord, (coords.foldl s.subscribe acc).1.knownRevisions.find coord =
        if coord ∈ coords then
          some (refreshed (s.revisionFor coord) (acc.1.knownRevisions.find coord))
        else acc.1.knownRevisions.find coord) ∧
      (coords.foldl s.subscribe acc).1.SameKeys ∧
      (coords.foldl s.subscribe acc).2 =
        { acc.2 with
          added := acc.2.added ++ (coords.filter fun coord =>
            acc.1.knownRevisions.find coord = none).map fun coord => ⟨coord, s.revisionFor coord⟩
          deltas := acc.2.deltas ++ (coords.filter fun coord =>
            outdated (s.revisionFor coord) (acc.1.knownRevisions.find coord)).map
              fun coord => ⟨coord, s.revisionFor coord⟩ } := by
  induction coords generalizing acc with
  | nil => simp [hKeys]
  | cons first rest ih =>
      obtain ⟨hNotMem, hRest⟩ := List.nodup_cons.mp hNodup
      obtain ⟨hFirst, hKeysFirst, hUpdateFirst⟩ := subscribe_spec s acc first hKeys
      obtain ⟨hKnown, hKeysRest, hUpdate⟩ := ih hRest (s.subscribe acc first) hKeysFirst
      have hOther : ∀ coord ∈ rest, (s.subscribe acc first).1.knownRevisions.find coord =
          acc.1.knownRevisions.find coord := by
        intro coord hMem
        rw [hFirst, if_neg]
        rintro rfl
        exact hNotMem hMem
      rw [List.foldl_cons]
      refine ⟨?_, hKeysRest, ?_⟩
      · intro coord
        rw [hKnown]
        by_cases hMem : coord ∈ rest
        · rw [if_pos hMem, if_pos (List.mem_cons_of_mem _ hMem), hOther coord hMem]
        · rw [if_neg hMem, hFirst]
          by_cases hSame : coord = first <;> simp [hMem, hSame]
      · have hAdded : (rest.filter fun coord =>
            (s.subscribe acc first).1.knownRevisions.find coord = none) =
            rest.filter fun coord => acc.1.knownRevisions.find coord = none :=
          List.filter_congr fun coord hMem => by rw [hOther coord hMem]
        have hDeltas : (rest.filter fun coord => outdated (s.revisionFor coord)
            ((s.subscribe acc first).1.knownRevisions.find coord)) =
            rest.filter fun coord =>
              outdated (s.revisionFor coord) (acc.1.knownRevisions.find coord) :=
          List.filter_congr fun coord hMem => by rw [hOther coord hMem]
        rw [hUpdate, hAdded, hDeltas, hUpdateFirst, List.filter_cons, List.filter_cons]
        simp only [List.append_assoc, decide_eq_true_eq]
        split_ifs <;> simp_all

theorem sameKeys_unsubscribed {state : PlayerReplicationState} (h : state.SameKeys)
    (coords : List ChunkCoord) (update : PlayerWorldUpdate) :
    (coords.foldl unsubscribe (state, update)).1.SameKeys := by
  obtain ⟨hSubscribed, hKnown, _⟩ := foldl_unsubscribe coords (state, update)
  intro coord
  rw [hSubscribed, hKnown]
  split
  · rfl
  · exact h coord

@[simp] theorem playerState_set (s : WorldReplication) (playerId : Nat)
    (state : PlayerReplicationState) :
    ({ s with playerStates := s.playerStates.set playerId state } : WorldReplication).playerState
      playerId = state := by
  simp [playerState]

end WorldReplication

/-- The three lists of an update are in strictly ascending order, so no chunk occurs
twice in one of them. -/
structure PlayerWorldUpdate.Ascending (update : PlayerWorldUpdate) : Prop where
  added : update.added.Pairwise fun a b => chunkEntryLess a b = true
  removed : update.removed.Pairwise fun a b => chunkEntryLess a b = true
  deltas : update.deltas.Pairwise fun a b => chunkEntryLess a b = true

/-- The update tells exactly how the new view differs from the old one. -/
def PlayerWorldUpdate.Describes (update : PlayerWorldUpdate)
    (old new : ChunkCoord → Option UInt32) : Prop :=
  DescribesChange old new (update.added.map fun entry => (entry.coord, entry.revision))
    (update.removed.map ChunkRevisionEntry.coord)
    (update.deltas.map fun entry => (entry.coord, entry.revision))

namespace WorldReplication

variable {F : Type} [SingleFloat F]

/-- Sorting the entries loses none. -/
theorem mem_map_entries {coords : List ChunkCoord} {revisionOf : ChunkCoord → UInt32}
    {entries : List ChunkRevisionEntry}
    (hEntries : entries = coords.map fun coord => ⟨coord, revisionOf coord⟩)
    (coord : ChunkCoord) (revision : UInt32) :
    (coord, revision) ∈ (sortBy chunkEntryLess entries).map
        (fun entry => (entry.coord, entry.revision)) ↔
      coord ∈ coords ∧ revisionOf coord = revision := by
  simp [hEntries]

/-- The revisions known after an update: those of the relevant chunks, none of others. -/
def knownAfter (s : WorldReplication) (relevant : List ChunkCoord)
    (known : ChunkCoord → Option UInt32) (coord : ChunkCoord) : Option UInt32 :=
  if coord ∈ relevant then some (refreshed (s.revisionFor coord) (known coord)) else none

/-- After an update exactly the relevant chunks are known. -/
theorem knownAfter_eq_none_iff (s : WorldReplication) (relevant : List ChunkCoord)
    (known : ChunkCoord → Option UInt32) (coord : ChunkCoord) :
    s.knownAfter relevant known coord = none ↔ coord ∉ relevant := by
  simp [knownAfter]

/-- A chunk that was unknown comes to be known at its current revision. -/
theorem relevant_unknown_iff (s : WorldReplication) (relevant : List ChunkCoord)
    (known : ChunkCoord → Option UInt32) (coord : ChunkCoord) (revision : UInt32) :
    (coord ∈ relevant ∧ known coord = none) ∧ s.revisionFor coord = revision ↔
      s.knownAfter relevant known coord = some revision ∧ known coord = none := by
  by_cases hMem : coord ∈ relevant
  · have hView : s.knownAfter relevant known coord =
        some (refreshed (s.revisionFor coord) (known coord)) := if_pos hMem
    rw [hView]
    constructor
    · rintro ⟨⟨_, hNew⟩, rfl⟩
      rw [hNew]
      exact ⟨rfl, rfl⟩
    · rintro ⟨hRevision, hNew⟩
      rw [hNew] at hRevision
      exact ⟨⟨hMem, hNew⟩, Option.some.inj hRevision⟩
  · have hView : s.knownAfter relevant known coord = none := if_neg hMem
    simp [hMem, hView]

/-- An outdated revision is replaced, and only an outdated one. -/
theorem relevant_outdated_iff (s : WorldReplication) (relevant : List ChunkCoord)
    (known : ChunkCoord → Option UInt32) (coord : ChunkCoord) (revision : UInt32) :
    (coord ∈ relevant ∧ outdated (s.revisionFor coord) (known coord) = true) ∧
        s.revisionFor coord = revision ↔
      s.knownAfter relevant known coord = some revision ∧ known coord ≠ none ∧
        known coord ≠ some revision := by
  by_cases hMem : coord ∈ relevant
  · have hView : s.knownAfter relevant known coord =
        some (refreshed (s.revisionFor coord) (known coord)) := if_pos hMem
    rw [hView]
    cases hKnown : known coord with
    | none => simp [outdated]
    | some old =>
        simp only [hMem, true_and, Option.some.injEq, ne_eq, reduceCtorEq, not_false_eq_true]
        constructor
        · rintro ⟨hOutdated, hRevision⟩
          have hRefreshed := (refreshed_of_outdated hOutdated).trans hRevision
          exact ⟨hRefreshed, (outdated_iff hRefreshed).mp hOutdated⟩
        · rintro ⟨hRefreshed, hNe⟩
          have hOutdated := (outdated_iff hRefreshed).mpr hNe
          exact ⟨hOutdated, (refreshed_of_outdated hOutdated).symm.trans hRefreshed⟩
  · have hView : s.knownAfter relevant known coord = none := if_neg hMem
    simp [hMem, hView]

/-- What an update does, for a player whose tables agree: the update describes how the
known revisions change. -/
theorem buildPlayerUpdate_spec (s : WorldReplication) (playerId : Nat) (worldX worldZ : F)
    (world : World F) (hKeys : (s.playerState playerId).SameKeys) :
    let before := (s.playerState playerId).knownRevisions.find
    let after := s.knownAfter (s.gatherRelevantChunks worldX worldZ world) before
    let result := s.buildPlayerUpdate playerId worldX worldZ world
    (result.2.playerState playerId).knownRevisions.find = after ∧
      (result.2.playerState playerId).SameKeys ∧
      result.2.chunkRevisions = s.chunkRevisions ∧
      result.1.Describes before after ∧ result.1.Ascending := by
  intro before after result
  let targets := s.gatherRelevantChunks worldX worldZ world
  let removedCoords := (s.playerState playerId).subscribedChunks.keys.filter fun coord =>
    !targets.contains coord
  let pruned := removedCoords.foldl unsubscribe
    (s.playerState playerId, ({ playerId := playerId } : PlayerWorldUpdate))
  have hNodup : targets.Nodup := nodup_gatherRelevantChunks s worldX worldZ world
  have hRemovedNodup : removedCoords.Nodup := (UnorderedMap.keys_nodup _).filter _
  obtain ⟨_, hPruned, hPrunedUpdate⟩ := foldl_unsubscribe removedCoords
    (s.playerState playerId, ({ playerId := playerId } : PlayerWorldUpdate))
  obtain ⟨hKnown, hKeysNew, hUpdate⟩ := foldl_subscribe s targets hNodup pruned
    (sameKeys_unsubscribed hKeys removedCoords _)
  have hMemRemoved : ∀ coord, coord ∈ removedCoords ↔ before coord ≠ none ∧ coord ∉ targets := by
    intro coord
    rw [List.mem_filter, UnorderedMap.mem_keys_iff, ← Option.isSome_iff_exists, hKeys coord]
    simp [before, Option.isSome_iff_ne_none]
  have hOnTargets : ∀ coord ∈ targets, pruned.1.knownRevisions.find coord = before coord := by
    intro coord hMem
    rw [hPruned, if_neg]
    exact fun hRemoved => ((hMemRemoved coord).mp hRemoved).2 hMem
  have hAfter : ∀ coord, (targets.foldl s.subscribe pruned).1.knownRevisions.find coord =
      after coord := by
    intro coord
    rw [hKnown]
    by_cases hMem : coord ∈ targets
    · rw [if_pos hMem, hOnTargets coord hMem]
      exact (if_pos hMem).symm
    · have hNone : after coord = none := if_neg hMem
      rw [if_neg hMem, hPruned, hNone]
      split
      · rfl
      · rename_i hNotRemoved
        by_contra hFind
        exact hNotRemoved ((hMemRemoved coord).mpr ⟨hFind, hMem⟩)
  have hResult : result = ({ (targets.foldl s.subscribe pruned).2 with
      added := sortBy chunkEntryLess (targets.foldl s.subscribe pruned).2.added
      removed := sortBy chunkEntryLess (targets.foldl s.subscribe pruned).2.removed
      deltas := sortBy chunkEntryLess (targets.foldl s.subscribe pruned).2.deltas },
      { s with playerStates := s.playerStates.set playerId (targets.foldl s.subscribe pruned).1 }) :=
    rfl
  have hAdded : (targets.foldl s.subscribe pruned).2.added =
      (targets.filter fun coord => pruned.1.knownRevisions.find coord = none).map
        fun coord => ⟨coord, s.revisionFor coord⟩ := by
    rw [hUpdate, hPrunedUpdate]
    rfl
  have hDeltas : (targets.foldl s.subscribe pruned).2.deltas =
      (targets.filter fun coord =>
        outdated (s.revisionFor coord) (pruned.1.knownRevisions.find coord)).map
          fun coord => ⟨coord, s.revisionFor coord⟩ := by
    rw [hUpdate, hPrunedUpdate]
    rfl
  have hRemoved : (targets.foldl s.subscribe pruned).2.removed =
      removedCoords.map fun coord => ⟨coord, 0⟩ := by
    rw [hUpdate, hPrunedUpdate]
    rfl
  rw [hResult]
  refine ⟨?_, ?_, rfl, ⟨?_, ?_, ?_⟩, ⟨?_, ?_, ?_⟩⟩
  · rw [playerState_set]
    exact funext hAfter
  · rw [playerState_set]
    exact hKeysNew
  · intro coord revision
    dsimp only
    rw [mem_map_entries hAdded, List.mem_filter, decide_eq_true_iff,
      ← relevant_unknown_iff s targets before coord revision]
    refine and_congr_left' (and_congr_right fun hMem => ?_)
    rw [hOnTargets coord hMem]
  · intro coord
    dsimp only
    rw [knownAfter_eq_none_iff, and_comm, ← hMemRemoved, hRemoved]
    simp
  · intro coord revision
    dsimp only
    rw [mem_map_entries hDeltas, List.mem_filter,
      ← relevant_outdated_iff s targets before coord revision]
    refine and_congr_left' (and_congr_right fun hMem => ?_)
    rw [hOnTargets coord hMem]
  · dsimp only
    apply ascending_sortBy
    rw [hAdded, List.map_map]
    simpa [Function.comp_def] using hNodup.filter _
  · dsimp only
    apply ascending_sortBy
    rw [hRemoved, List.map_map]
    simpa [Function.comp_def] using hRemovedNodup
  · dsimp only
    apply ascending_sortBy
    rw [hDeltas, List.map_map]
    simpa [Function.comp_def] using hNodup.filter _

/-- Every chunk that an update names has coordinates that the extents of a configuration
allow. -/
theorem coord_mem_gather_lt {s : WorldReplication} {worldX worldZ : F} {world : World F}
    {coord : ChunkCoord} (h : coord ∈ s.gatherRelevantChunks worldX worldZ world) :
    (0 ≤ coord.x ∧ coord.x < 2 ^ 31) ∧ (0 ≤ coord.y ∧ coord.y < 2 ^ 31) ∧
      (0 ≤ coord.z ∧ coord.z < 2 ^ 31) := by
  obtain ⟨hX, hY, hZ, _⟩ := mem_gatherRelevantChunks h
  have hRange := s.config.inRange
  omega

end WorldReplication

end DevyFps.Server
