import DevyFps.Foundations.Json
import DevyFps.Foundations.ViewChange
import DevyFps.Shared.Voxel.World

/-! The client's side of chunk replication: reading an update and applying it to the
client's world. -/

namespace DevyFps.Client

open Foundations Voxel

variable {D : Type} {F : Type} [SingleFloat F]

structure ChunkRevision where
  coord : ChunkCoord
  revision : UInt32 := 0
  deriving DecidableEq

structure ChunkSyncDelta where
  added : List ChunkRevision := []
  removed : List ChunkRevision := []
  deltas : List ChunkRevision := []

structure ChunkSyncApplyResult where
  changed : Bool := false
  addedOrUpdated : Nat := 0
  removed : Nat := 0

def jsonToU32 (value : Json D) : Option UInt32 :=
  match value with
  | .numberUnsigned raw => if raw ≤ 0xFFFFFFFF then some raw.toUInt32 else none
  | .numberInteger raw =>
      if 0 ≤ raw ∧ raw ≤ 0xFFFFFFFF then some raw.toUInt64.toUInt32 else none
  | _ => none

/-- An unsigned number is an integer too; read as a signed one it wraps around. -/
def jsonToI32 (value : Json D) : Option Int :=
  let narrow (raw : Int64) : Option Int :=
    if raw.toInt < -2 ^ 31 ∨ raw.toInt > 2 ^ 31 - 1 then none else some raw.toInt
  match value with
  | .numberInteger raw => narrow raw
  | .numberUnsigned raw => narrow raw.toInt64
  | _ => none

def parseRevision (value : Json D) : Option ChunkRevision :=
  if !value.isObject then none
  else
    match jsonToI32 (value.value "x" .null), jsonToI32 (value.value "y" .null),
      jsonToI32 (value.value "z" .null), jsonToU32 (value.value "revision" .null) with
    | some x, some y, some z, some revision =>
        if x < 0 ∨ y < 0 ∨ z < 0 then none else some ⟨⟨x, y, z⟩, revision⟩
    | _, _, _, _ => none

/-- The readable entries of an array member; a missing member gives none. -/
def parseArray (root : Json D) (field : String) : List ChunkRevision :=
  match root.member field with
  | none => []
  | some entries => entries.elements.filterMap parseRevision

def parseChunkSync (snapshotPayload : Json D) : Option ChunkSyncDelta :=
  match snapshotPayload.member "chunk_sync" with
  | none => none
  | some chunkSync =>
      if !chunkSync.isObject then none
      else
        some
          { added := parseArray chunkSync "added"
            removed := parseArray chunkSync "removed"
            deltas := parseArray chunkSync "deltas" }

/-- The client's world, the revisions of its chunks, and what has been counted. -/
structure SyncState (F : Type) [SingleFloat F] where
  world : World F
  revisions : UnorderedMap ChunkCoord UInt32
  result : ChunkSyncApplyResult := {}

/-- One entry to remove. -/
def applyRemoved (s : SyncState F) (entry : ChunkRevision) : SyncState F :=
  let removed := s.world.removeChunk entry.coord
  let erased := (s.revisions.find entry.coord).isSome
  { world := removed.2
    revisions := s.revisions.erase entry.coord
    result :=
      if removed.1 || erased then
        { s.result with changed := true, removed := s.result.removed + 1 }
      else s.result }

/-- One entry to add or to update; a revision that is known already is passed over. -/
def applyAddedLike (worldHeight : Int) (s : SyncState F) (entry : ChunkRevision) : SyncState F :=
  if s.revisions.find entry.coord = some entry.revision then s
  else
    { world := (s.world.ensureGeneratedChunk entry.coord worldHeight).2
      revisions := s.revisions.set entry.coord entry.revision
      result :=
        { s.result with changed := true, addedOrUpdated := s.result.addedOrUpdated + 1 } }

def applyChunkSync (world : World F) (worldHeight : Int) (delta : ChunkSyncDelta)
    (revisions : UnorderedMap ChunkCoord UInt32) : SyncState F :=
  let cleared := delta.removed.foldl applyRemoved { world := world, revisions := revisions }
  let added := delta.added.foldl (applyAddedLike worldHeight) cleared
  delta.deltas.foldl (applyAddedLike worldHeight) added

/-- A revision is read back. -/
theorem jsonToU32_numberUnsigned (n : UInt32) :
    jsonToU32 (.numberUnsigned n.toUInt64 : Json D) = some n := by
  have hFits : n.toUInt64 ≤ 0xFFFFFFFF := by
    rw [UInt64.le_iff_toNat_le]
    have := n.toNat_lt
    simp
    omega
  simp [jsonToU32, hFits]

/-- A coordinate that fits is read back. -/
theorem jsonToI32_numberInteger {n : Int} (hLow : -2 ^ 31 ≤ n) (hHigh : n < 2 ^ 31) :
    jsonToI32 (.numberInteger (Int64.ofInt n) : Json D) = some n := by
  have hValue : (Int64.ofInt n).toInt = n := Int64.toInt_ofInt_of_le (by omega) (by omega)
  unfold jsonToI32
  dsimp only
  rw [hValue, if_neg (by omega)]

namespace SyncState

/-- The client has exactly the chunks whose revisions it knows. -/
def Matched (s : SyncState F) : Prop :=
  ∀ coord, (s.revisions.find coord).isSome = (s.world.chunks.find coord).isSome

/-- The client has every chunk whose revision it knows. -/
def Held (s : SyncState F) : Prop :=
  ∀ coord, (s.revisions.find coord).isSome = true → (s.world.chunks.find coord).isSome = true

end SyncState

/-- A removed chunk has no revision any more. -/
theorem revisions_applyRemoved (s : SyncState F) (entry : ChunkRevision) (coord : ChunkCoord) :
    (applyRemoved s entry).revisions.find coord =
      if coord = entry.coord then none else s.revisions.find coord :=
  UnorderedMap.find_erase _ _ _

/-- A removed chunk is dropped from the world and from the revisions. -/
theorem matched_applyRemoved {s : SyncState F} (h : s.Matched) (entry : ChunkRevision) :
    (applyRemoved s entry).Matched := by
  intro coord
  rw [revisions_applyRemoved]
  simp only [applyRemoved, World.find_removeChunk]
  split
  · rfl
  · exact h coord

/-- An added or updated chunk has the revision of its entry. -/
theorem revisions_applyAddedLike (worldHeight : Int) (s : SyncState F) (entry : ChunkRevision)
    (coord : ChunkCoord) :
    (applyAddedLike worldHeight s entry).revisions.find coord =
      if coord = entry.coord then some entry.revision else s.revisions.find coord := by
  unfold applyAddedLike
  split
  · rename_i hKnown
    split
    · rename_i hSame
      rw [hSame, hKnown]
    · rfl
  · exact UnorderedMap.find_set _ _ _ _

/-- Its revision is noted along with the chunk. -/
theorem matched_applyAddedLike {s : SyncState F} (h : s.Matched) (worldHeight : Int)
    (entry : ChunkRevision) : (applyAddedLike worldHeight s entry).Matched := by
  intro coord
  rw [revisions_applyAddedLike]
  unfold applyAddedLike
  by_cases hKnown : s.revisions.find entry.coord = some entry.revision
  · rw [if_pos hKnown, ← h coord]
    split
    · rename_i hSame
      rw [hSame, hKnown]
    · rfl
  · rw [if_neg hKnown]
    dsimp only
    rw [World.find_ensureGeneratedChunk]
    split
    · rfl
    · exact h coord

theorem held_applyRemoved {s : SyncState F} (h : s.Held) (entry : ChunkRevision) :
    (applyRemoved s entry).Held := by
  intro coord
  rw [revisions_applyRemoved]
  simp only [applyRemoved, World.find_removeChunk]
  split
  · exact id
  · exact h coord

/-- The chunks with a revision are in the world. -/
theorem held_applyAddedLike {s : SyncState F} (h : s.Held) (worldHeight : Int)
    (entry : ChunkRevision) : (applyAddedLike worldHeight s entry).Held := by
  intro coord
  rw [revisions_applyAddedLike]
  unfold applyAddedLike
  by_cases hKnown : s.revisions.find entry.coord = some entry.revision
  · rw [if_pos hKnown]
    split
    · rename_i hSame
      intro _
      apply h coord
      rw [hSame, hKnown]
      rfl
    · exact h coord
  · rw [if_neg hKnown]
    dsimp only
    rw [World.find_ensureGeneratedChunk]
    split
    · exact id
    · exact h coord

/-- Removing a list of chunks. -/
theorem revisions_foldl_applyRemoved (entries : List ChunkRevision) (s : SyncState F)
    (coord : ChunkCoord) :
    (entries.foldl applyRemoved s).revisions.find coord =
      if coord ∈ entries.map ChunkRevision.coord then none else s.revisions.find coord := by
  induction entries generalizing s with
  | nil => simp
  | cons first rest ih =>
      rw [List.foldl_cons, ih, revisions_applyRemoved, List.map_cons]
      by_cases hRest : coord ∈ rest.map ChunkRevision.coord
      · rw [if_pos hRest, if_pos (List.mem_cons_of_mem _ hRest)]
      · by_cases hSame : coord = first.coord <;> simp [hRest, hSame]

/-- Adding a list of chunks whose revisions are those of one view. -/
theorem revisions_foldl_applyAddedLike (worldHeight : Int) (entries : List ChunkRevision)
    (view : ChunkCoord → Option UInt32)
    (hView : ∀ entry ∈ entries, view entry.coord = some entry.revision) (s : SyncState F)
    (coord : ChunkCoord) :
    (entries.foldl (applyAddedLike worldHeight) s).revisions.find coord =
      if coord ∈ entries.map ChunkRevision.coord then view coord
      else s.revisions.find coord := by
  induction entries generalizing s with
  | nil => simp
  | cons first rest ih =>
      have hFirst := hView first List.mem_cons_self
      rw [List.foldl_cons, ih fun entry hEntry => hView entry (List.mem_cons_of_mem _ hEntry),
        revisions_applyAddedLike, List.map_cons]
      by_cases hRest : coord ∈ rest.map ChunkRevision.coord
      · rw [if_pos hRest, if_pos (List.mem_cons_of_mem _ hRest)]
      · by_cases hSame : coord = first.coord
        · rw [if_neg hRest, if_pos hSame, hSame, hFirst, if_pos List.mem_cons_self]
        · simp [hRest, hSame]

/-- A fact that every single entry of the delta keeps. -/
theorem applyChunkSync_invariant {I : SyncState F → Prop} {world : World F}
    {revisions : UnorderedMap ChunkCoord UInt32} {worldHeight : Int} {delta : ChunkSyncDelta}
    (hRemoved : ∀ s entry, I s → I (applyRemoved s entry))
    (hAdded : ∀ s entry, entry ∈ delta.added ∨ entry ∈ delta.deltas → I s →
      I (applyAddedLike worldHeight s entry))
    (h : I { world := world, revisions := revisions }) :
    I (applyChunkSync world worldHeight delta revisions) := by
  have hFold : ∀ (entries : List ChunkRevision) (step : SyncState F → ChunkRevision → SyncState F),
      (∀ s, ∀ entry ∈ entries, I s → I (step s entry)) → ∀ s, I s → I (entries.foldl step s) := by
    intro entries step hStep
    induction entries with
    | nil => exact fun s hs => hs
    | cons first rest ih =>
        intro s hs
        exact ih (fun s entry hEntry => hStep s entry (List.mem_cons_of_mem _ hEntry)) _
          (hStep s first List.mem_cons_self hs)
  unfold applyChunkSync
  apply hFold _ _ fun s entry hEntry => hAdded s entry (Or.inr hEntry)
  apply hFold _ _ fun s entry hEntry => hAdded s entry (Or.inl hEntry)
  exact hFold _ _ (fun s entry _ => hRemoved s entry) _ h

/-- A client that held the old view and applies a delta that describes the change holds
the new view. -/
theorem revisions_applyChunkSync {world : World F} {revisions : UnorderedMap ChunkCoord UInt32}
    (worldHeight : Int) {delta : ChunkSyncDelta} {view : ChunkCoord → Option UInt32}
    (h : DescribesChange revisions.find view
      (delta.added.map fun entry => (entry.coord, entry.revision))
      (delta.removed.map ChunkRevision.coord)
      (delta.deltas.map fun entry => (entry.coord, entry.revision))) :
    (applyChunkSync world worldHeight delta revisions).revisions.find = view := by
  have hAdded : ∀ entry ∈ delta.added, view entry.coord = some entry.revision := fun entry hEntry =>
    ((h.mem_added _ _).mp (List.mem_map_of_mem hEntry)).1
  have hDeltas : ∀ entry ∈ delta.deltas, view entry.coord = some entry.revision :=
    fun entry hEntry => ((h.mem_replaced _ _).mp (List.mem_map_of_mem hEntry)).1
  have hFind : ∀ coord, (applyChunkSync world worldHeight delta revisions).revisions.find coord =
      if coord ∈ delta.deltas.map ChunkRevision.coord then view coord
      else if coord ∈ delta.added.map ChunkRevision.coord then view coord
      else if coord ∈ delta.removed.map ChunkRevision.coord then none
      else revisions.find coord := by
    intro coord
    unfold applyChunkSync
    dsimp only
    rw [revisions_foldl_applyAddedLike worldHeight _ view hDeltas,
      revisions_foldl_applyAddedLike worldHeight _ view hAdded, revisions_foldl_applyRemoved]
  have hKeys : ∀ entries : List ChunkRevision,
      (entries.map fun entry => (entry.coord, entry.revision)).map Prod.fst =
        entries.map ChunkRevision.coord := fun entries => by simp [Function.comp_def]
  apply h.followed
  · rintro coord revision (hMem | hMem)
    · have hCoord := List.mem_map_of_mem (f := Prod.fst) hMem
      rw [hKeys] at hCoord
      rw [hFind, if_pos hCoord, ((h.mem_added _ _).mp hMem).1]
      split <;> rfl
    · have hCoord := List.mem_map_of_mem (f := Prod.fst) hMem
      rw [hKeys] at hCoord
      rw [hFind, if_pos hCoord, ((h.mem_replaced _ _).mp hMem).1]
  · intro coord hMem
    have hDisjoint := h.disjoint coord
    rw [hKeys, hKeys] at hDisjoint
    rw [hFind, if_neg fun hDelta => hDisjoint.2.2 ⟨hMem, hDelta⟩,
      if_neg fun hNew => hDisjoint.1 ⟨hNew, hMem⟩, if_pos hMem]
  · intro coord hNotAdded hNotRemoved hNotDelta
    rw [hKeys] at hNotAdded hNotDelta
    rw [hFind, if_neg hNotDelta, if_neg hNotAdded, if_neg hNotRemoved]

end DevyFps.Client
