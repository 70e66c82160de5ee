import DevyFps.Client.ChunkSyncApplier
import DevyFps.Foundations.Run
import DevyFps.Server.PlayerUpdates

/-! The server and one client over whole runs: chunks change, the player moves, and every
update is written as JSON, read and applied. -/

namespace DevyFps.Replication

open Foundations Voxel Server Client

variable {F : Type} [SingleFloat F] {D : Type}

/-- An entry of an update as the client reads it. -/
def received (entry : ChunkRevisionEntry) : ChunkRevision := ⟨entry.coord, entry.revision⟩

/-- The coordinates that a chunk of a configured extent can have. -/
def Addressable (coord : ChunkCoord) : Prop :=
  (0 ≤ coord.x ∧ coord.x < 2 ^ 31) ∧ (0 ≤ coord.y ∧ coord.y < 2 ^ 31) ∧
    (0 ≤ coord.z ∧ coord.z < 2 ^ 31)

theorem parseRevision_written {entry : ChunkRevisionEntry} (h : Addressable entry.coord) :
    parseRevision (.object [("x", .numberInteger (Int64.ofInt entry.coord.x)),
      ("y", .numberInteger (Int64.ofInt entry.coord.y)),
      ("z", .numberInteger (Int64.ofInt entry.coord.z)),
      ("revision", .numberUnsigned entry.revision.toUInt64)] : Json D) =
        some (received entry) := by
  obtain ⟨hX, hY, hZ⟩ := h
  have hReadX := jsonToI32_numberInteger (D := D) (n := entry.coord.x) (by omega) (by omega)
  have hReadY := jsonToI32_numberInteger (D := D) (n := entry.coord.y) (by omega) (by omega)
  have hReadZ := jsonToI32_numberInteger (D := D) (n := entry.coord.z) (by omega) (by omega)
  have hNotNegative : ¬ (entry.coord.x < 0 ∨ entry.coord.y < 0 ∨ entry.coord.z < 0) := by omega
  simp [parseRevision, Json.value, Json.isObject, List.lookup_cons, hReadX, hReadY, hReadZ,
    jsonToU32_numberUnsigned, hNotNegative, received]

/-- A written list of entries is read back entry by entry. -/
theorem elements_written {entries : List ChunkRevisionEntry}
    (h : ∀ entry ∈ entries, Addressable entry.coord) :
    (chunkRevisionsToJson entries : Json D).elements.filterMap parseRevision =
      entries.map received := by
  induction entries with
  | nil => rfl
  | cons first rest ih =>
      have hRest := ih fun entry hEntry => h entry (List.mem_cons_of_mem _ hEntry)
      simp only [chunkRevisionsToJson, Json.elements, List.map_cons, List.filterMap_cons,
        parseRevision_written (h first List.mem_cons_self)] at hRest ⊢
      rw [hRest]

/-- The update as the client reads it. -/
def readUpdate (update : PlayerWorldUpdate) : ChunkSyncDelta where
  added := update.added.map received
  removed := update.removed.map received
  deltas := update.deltas.map received

/-- Writing an update and reading it again loses nothing. -/
theorem parseChunkSync_snapshotPayload (others : List (String × Json D))
    {update : PlayerWorldUpdate} (hAdded : ∀ entry ∈ update.added, Addressable entry.coord)
    (hRemoved : ∀ entry ∈ update.removed, Addressable entry.coord)
    (hDeltas : ∀ entry ∈ update.deltas, Addressable entry.coord) :
    parseChunkSync (snapshotPayload others update) = some (readUpdate update) := by
  have hReadAdded := elements_written (D := D) hAdded
  have hReadRemoved := elements_written (D := D) hRemoved
  have hReadDeltas := elements_written (D := D) hDeltas
  simp [parseChunkSync, snapshotPayload, parseArray, Json.isObject, List.lookup_cons, hReadAdded,
    hReadRemoved, hReadDeltas, readUpdate]

/-- The server's replication state and what the client has built from its updates. -/
structure Link (F : Type) [SingleFloat F] where
  server : WorldReplication
  world : World F
  revisions : UnorderedMap ChunkCoord UInt32

namespace Link

/-- The client reads a snapshot packet and applies the update in it. -/
def deliver (link : Link F) (worldHeight : Int) (payload : Json D) : Link F :=
  match parseChunkSync payload with
  | none => link
  | some delta =>
      let synced := applyChunkSync link.world worldHeight delta link.revisions
      { link with world := synced.world, revisions := synced.revisions }

/-- One update of the player, from the server to the client. -/
def exchange (link : Link F) (playerId : Nat) (worldHeight : Int) (worldX worldZ : F)
    (world : World F) (others : List (String × Json D)) : PlayerWorldUpdate × Link F :=
  let built := link.server.buildPlayerUpdate playerId worldX worldZ world
  (built.1, { link with server := built.2 }.deliver worldHeight (snapshotPayload others built.1))

/-- The client's part of an exchange leaves the server alone. -/
theorem server_exchange (link : Link F) (playerId : Nat) (worldHeight : Int) (worldX worldZ : F)
    (world : World F) (others : List (String × Json D)) :
    (link.exchange playerId worldHeight worldX worldZ world others).2.server =
      (link.server.buildPlayerUpdate playerId worldX worldZ world).2 := by
  unfold exchange deliver
  dsimp only
  split <;> rfl

end Link

/-- What happened in a step: a chunk changed, or the player was updated while these
chunks were relevant and had these revisions. -/
inductive Event where
  | marked (coord : ChunkCoord)
  | updated (relevant : List ChunkCoord) (revisionOf : ChunkCoord → UInt32)

/-- The steps: chunks are marked, and the player is updated at any position and over any
world. -/
inductive Step (D : Type) (playerId : Nat) (worldHeight : Int) :
    Link F → Event → Link F → Prop where
  | markChunkDirty (link : Link F) (coord : ChunkCoord) :
      Step D playerId worldHeight link (.marked coord)
        { link with server := link.server.markChunkDirty coord }
  | update (link : Link F) (worldX worldZ : F) (world : World F)
      (others : List (String × Json D)) :
      Step D playerId worldHeight link
        (.updated (link.server.gatherRelevantChunks worldX worldZ world) link.server.revisionFor)
        (link.exchange playerId worldHeight worldX worldZ world others).2

/-- How often a chunk has been marked. -/
def marks (trace : List Event) (coord : ChunkCoord) : Nat :=
  trace.countP fun event =>
    match event with
    | .marked other => decide (other = coord)
    | .updated _ _ => false

/-- The view that an event leaves behind. -/
def viewAfter (view : ChunkCoord → Option UInt32) : Event → ChunkCoord → Option UInt32
  | .marked _ => view
  | .updated relevant revisionOf => WorldReplication.viewOf relevant revisionOf

/-- The relevant chunks of the last update and their revisions then; before the first
update there are none. -/
def lastView (trace : List Event) : ChunkCoord → Option UInt32 :=
  trace.foldl viewAfter fun _ => none

theorem lastView_append (trace : List Event) (event : Event) :
    lastView (trace ++ [event]) = viewAfter (lastView trace) event := by
  simp [lastView]

theorem marks_append (trace : List Event) (event : Event) (coord : ChunkCoord) :
    marks (trace ++ [event]) coord = marks trace coord + marks [event] coord := by
  simp [marks]

theorem marks_marked (coord other : ChunkCoord) :
    marks [.marked other] coord = if other = coord then 1 else 0 := by
  by_cases hSame : other = coord <;> simp [marks, hSame]

/-- What holds between updates: the server's tables for the player and the client's
tables are the last view, and revisions count the marks of their chunks. -/
structure Agree (playerId : Nat) (trace : List Event) (link : Link F) : Prop where
  counted : ∀ coord, link.server.revisionFor coord = UInt32.ofNat (marks trace coord)
  viewCounted : ∀ coord revision, lastView trace coord = some revision →
    Addressable coord ∧ ∃ count ≤ marks trace coord, revision = UInt32.ofNat count
  sameKeys : (link.server.playerState playerId).SameKeys
  known : ∀ coord, (link.server.playerState playerId).knownRevisions.find coord =
    lastView trace coord
  client : ∀ coord, link.revisions.find coord = lastView trace coord
  matched : SyncState.Matched { world := link.world, revisions := link.revisions }

theorem agree_start (config : ReplicationConfig) (playerId : Nat) {client : World F}
    (hEmpty : client.chunks = ∅) :
    Agree playerId [] ⟨WorldReplication.create config, client, ∅⟩ where
  counted coord := by simp [WorldReplication.create, WorldReplication.revisionFor, marks]
  viewCounted coord revision h := by simp [lastView] at h
  sameKeys coord := by simp [WorldReplication.create, WorldReplication.playerState]
  known coord := by simp [WorldReplication.create, WorldReplication.playerState, lastView]
  client coord := by simp [lastView]
  matched coord := by simp [hEmpty]

theorem revisionFor_markChunkDirty (s : WorldReplication) (coord other : ChunkCoord) :
    (s.markChunkDirty coord).revisionFor other =
      if other = coord then s.revisionFor coord + 1 else s.revisionFor other := by
  unfold WorldReplication.markChunkDirty WorldReplication.revisionFor
  cases hFind : s.chunkRevisions.find coord with
  | none =>
      simp only [UnorderedMap.find_set]
      split <;> rfl
  | some revision =>
      simp only [UnorderedMap.find_set]
      split <;> rfl

/-- Fewer than 2^32 counted steps keep their order as 32-bit numbers. -/
theorem ofNat_le_ofNat {a b : Nat} (h : a ≤ b) (hBound : b < 2 ^ 32) :
    UInt32.ofNat a ≤ UInt32.ofNat b := by
  have hSize : b < UInt32.size := hBound
  rw [UInt32.le_iff_toNat_le, UInt32.toNat_ofNat_of_lt' (h.trans_lt hSize),
    UInt32.toNat_ofNat_of_lt' hSize]
  exact h

/-- Marking a chunk keeps the agreement. -/
theorem agree_markChunkDirty {playerId : Nat} {trace : List Event} {link : Link F}
    (h : Agree playerId trace link) (coord : ChunkCoord) :
    Agree playerId (trace ++ [.marked coord])
      { link with server := link.server.markChunkDirty coord } := by
  have hView : lastView (trace ++ [.marked coord]) = lastView trace := lastView_append _ _
  have hCounted : ∀ other, (link.server.markChunkDirty coord).revisionFor other =
      UInt32.ofNat (marks (trace ++ [.marked coord]) other) := by
    intro other
    rw [revisionFor_markChunkDirty, marks_append, marks_marked, h.counted, h.counted]
    by_cases hSame : other = coord
    · simp [hSame]
    · simp [hSame, Ne.symm hSame]
  have hMore : ∀ other, marks trace other ≤ marks (trace ++ [.marked coord]) other := fun other => by
    rw [marks_append]
    omega
  have hState : (link.server.markChunkDirty coord).playerState playerId =
      link.server.playerState playerId := by
    unfold WorldReplication.markChunkDirty
    cases link.server.chunkRevisions.find coord <;> rfl
  have hViewCounted : ∀ other revision, lastView trace other = some revision →
      Addressable other ∧ ∃ count ≤ marks (trace ++ [.marked coord]) other,
        revision = UInt32.ofNat count := by
    intro other revision hFind
    obtain ⟨hAddress, count, hCount, hRevision⟩ := h.viewCounted other revision hFind
    exact ⟨hAddress, count, hCount.trans (hMore other), hRevision⟩
  refine ⟨hCounted, ?_, ?_, ?_, ?_, h.matched⟩
  · rw [hView]
    exact hViewCounted
  · dsimp only
    rw [hState]
    exact h.sameKeys
  · dsimp only
    rw [hState, hView]
    exact h.known
  · rw [hView]
    exact h.client

/-- While no counter wraps around, an update leaves the player with the present view. -/
theorem knownAfter_eq_viewOf {playerId : Nat} {trace : List Event} {link : Link F}
    (h : Agree playerId trace link) (hBound : ∀ coord, marks trace coord < 2 ^ 32)
    (relevant : List ChunkCoord) :
    link.server.knownAfter relevant (link.server.playerState playerId).knownRevisions.find =
      WorldReplication.viewOf relevant link.server.revisionFor := by
  funext coord
  unfold WorldReplication.knownAfter WorldReplication.viewOf
  rw [h.known]
  cases hView : lastView trace coord with
  | none => rfl
  | some known =>
      obtain ⟨_, count, hCount, hKnown⟩ := h.viewCounted coord known hView
      have hLe : known ≤ link.server.revisionFor coord := by
        rw [hKnown, h.counted]
        exact ofNat_le_ofNat hCount (hBound coord)
      have hRefreshed : WorldReplication.refreshed (link.server.revisionFor coord) (some known) =
          link.server.revisionFor coord := by
        unfold WorldReplication.refreshed
        dsimp only
        split
        · rfl
        · rename_i hNotNewer
          exact UInt32.le_antisymm hLe (UInt32.not_lt.mp hNotNewer)
      rw [hRefreshed]

/-- In agreement the next update is the change from the last view to the present one. -/
theorem describes_update {playerId : Nat} {trace : List Event} {link : Link F}
    (h : Agree playerId trace link) (hBound : ∀ coord, marks trace coord < 2 ^ 32)
    (worldX worldZ : F) (world : World F) :
    (link.server.buildPlayerUpdate playerId worldX worldZ world).1.Describes (lastView trace)
      (WorldReplication.viewOf (link.server.gatherRelevantChunks worldX worldZ world)
        link.server.revisionFor) := by
  have hSpec := link.server.buildPlayerUpdate_spec playerId worldX worldZ world h.sameKeys
  have hKnown : (link.server.playerState playerId).knownRevisions.find = lastView trace :=
    funext h.known
  rw [← knownAfter_eq_viewOf h hBound, ← hKnown]
  exact hSpec.2.2.2.1

/-- An update between views of addressable chunks is readable for the client. -/
theorem parseChunkSync_describes {update : PlayerWorldUpdate}
    {old new : ChunkCoord → Option UInt32} (h : update.Describes old new)
    (hOld : ∀ coord revision, old coord = some revision → Addressable coord)
    (hNew : ∀ coord revision, new coord = some revision → Addressable coord)
    (others : List (String × Json D)) :
    parseChunkSync (snapshotPayload others update) = some (readUpdate update) := by
  apply parseChunkSync_snapshotPayload
  · intro entry hEntry
    have hAdded := (h.mem_added entry.coord entry.revision).mp
      (List.mem_map_of_mem (f := fun entry => (entry.coord, entry.revision)) hEntry)
    exact hNew _ _ hAdded.1
  · intro entry hEntry
    have hRemoved := (h.mem_removed entry.coord).mp (List.mem_map_of_mem hEntry)
    obtain ⟨revision, hRevision⟩ := Option.ne_none_iff_exists'.mp hRemoved.2
    exact hOld _ _ hRevision
  · intro entry hEntry
    have hDelta := (h.mem_replaced entry.coord entry.revision).mp
      (List.mem_map_of_mem (f := fun entry => (entry.coord, entry.revision)) hEntry)
    exact hNew _ _ hDelta.1

theorem parseChunkSync_update {playerId : Nat} {trace : List Event} {link : Link F}
    (h : Agree playerId trace link) (hBound : ∀ coord, marks trace coord < 2 ^ 32)
    (worldX worldZ : F) (world : World F) (others : List (String × Json D)) :
    parseChunkSync (snapshotPayload others
      (link.server.buildPlayerUpdate playerId worldX worldZ world).1) =
        some (readUpdate (link.server.buildPlayerUpdate playerId worldX worldZ world).1) := by
  apply parseChunkSync_describes (describes_update h hBound worldX worldZ world)
  · exact fun coord revision hView => (h.viewCounted coord revision hView).1
  · intro coord revision hView
    exact WorldReplication.coord_mem_gather_lt (WorldReplication.viewOf_eq_some.mp hView).1

/-- What the client holds after the exchange of an update. -/
theorem exchange_snd {playerId : Nat} {trace : List Event} {link : Link F}
    (h : Agree playerId trace link) (hBound : ∀ coord, marks trace coord < 2 ^ 32)
    (worldHeight : Int) (worldX worldZ : F) (world : World F)
    (others : List (String × Json D)) :
    (link.exchange playerId worldHeight worldX worldZ world others).2 =
      let built := link.server.buildPlayerUpdate playerId worldX worldZ world
      let synced := applyChunkSync link.world worldHeight (readUpdate built.1) link.revisions
      { server := built.2, world := synced.world, revisions := synced.revisions } := by
  unfold Link.exchange Link.deliver
  dsimp only
  rw [parseChunkSync_update h hBound]

/-- Exchanging an update establishes the agreement on the present view. -/
theorem agree_exchange {playerId : Nat} {trace : List Event} {link : Link F}
    (h : Agree playerId trace link) (hBound : ∀ coord, marks trace coord < 2 ^ 32)
    (worldHeight : Int) (worldX worldZ : F) (world : World F)
    (others : List (String × Json D)) :
    Agree playerId
      (trace ++ [.updated (link.server.gatherRelevantChunks worldX worldZ world)
        link.server.revisionFor])
      (link.exchange playerId worldHeight worldX worldZ world others).2 := by
  obtain ⟨hKnown, hSameKeys, hRevisions, _, _⟩ :=
    link.server.buildPlayerUpdate_spec playerId worldX worldZ world h.sameKeys
  have hSame : (link.server.buildPlayerUpdate playerId worldX worldZ world).2.revisionFor =
      link.server.revisionFor := by
    unfold WorldReplication.revisionFor
    rw [hRevisions]
  have hView : lastView (trace ++ [.updated (link.server.gatherRelevantChunks worldX worldZ world)
      link.server.revisionFor]) =
      WorldReplication.viewOf (link.server.gatherRelevantChunks worldX worldZ world)
        link.server.revisionFor := lastView_append _ _
  have hMarks : ∀ coord, marks (trace ++ [.updated
      (link.server.gatherRelevantChunks worldX worldZ world) link.server.revisionFor]) coord =
      marks trace coord := fun coord => by simp [marks]
  have hDescribes := describes_update h hBound worldX worldZ world
  have hClient : (applyChunkSync link.world worldHeight
      (readUpdate (link.server.buildPlayerUpdate playerId worldX worldZ world).1)
      link.revisions).revisions.find =
      WorldReplication.viewOf (link.server.gatherRelevantChunks worldX worldZ world)
        link.server.revisionFor := by
    apply revisions_applyChunkSync
    rw [show link.revisions.find = lastView trace from funext h.client]
    simpa only [readUpdate, List.map_map, Function.comp_def, received,
      PlayerWorldUpdate.Describes] using hDescribes
  rw [exchange_snd h hBound]
  refine ⟨?_, ?_, ?_, ?_, ?_, ?_⟩
  · intro coord
    rw [hMarks]
    exact (congrFun hSame coord).trans (h.counted coord)
  · intro coord revision hFind
    rw [hView, WorldReplication.viewOf_eq_some] at hFind
    refine ⟨WorldReplication.coord_mem_gather_lt hFind.1, marks trace coord, ?_, ?_⟩
    · rw [hMarks]
    · rw [← hFind.2, h.counted]
  · exact hSameKeys
  · intro coord
    rw [hView, ← knownAfter_eq_viewOf h hBound]
    exact congrFun hKnown coord
  · intro coord
    rw [hView]
    exact congrFun hClient coord
  · have hMatched : (applyChunkSync link.world worldHeight
        (readUpdate (link.server.buildPlayerUpdate playerId worldX worldZ world).1)
        link.revisions).Matched := applyChunkSync_invariant
      (fun s entry hs => matched_applyRemoved hs entry)
      (fun s entry _ hs => matched_applyAddedLike hs worldHeight entry) h.matched
    exact hMatched

/-- Every run keeps the agreement, as long as no revision counter wraps around. -/
theorem agree_run {config : ReplicationConfig} {playerId : Nat} {worldHeight : Int}
    {client : World F} (hEmpty : client.chunks = ∅) {trace : List Event} {link : Link F}
    (run : Run (Step D playerId worldHeight) ⟨WorldReplication.create config, client, ∅⟩ trace link)
    (hBound : ∀ coord, marks trace coord < 2 ^ 32) : Agree playerId trace link := by
  refine run.history (I := fun trace link =>
    (∀ coord, marks trace coord < 2 ^ 32) → Agree playerId trace link) ?_ ?_ hBound
  · intro trace link event next ih step hBound
    have hPriorBound : ∀ coord, marks trace coord < 2 ^ 32 := by
      intro coord
      have hTotal := hBound coord
      rw [marks_append] at hTotal
      omega
    have hPrior := ih hPriorBound
    cases step with
    | markChunkDirty coord => exact agree_markChunkDirty hPrior coord
    | update worldX worldZ world others =>
        exact agree_exchange hPrior hPriorBound worldHeight worldX worldZ world others
  · exact fun _ => agree_start config playerId hEmpty

/-- Along every run in which no chunk is marked 2^32 times, an update of the player leaves
the client with the revisions of exactly the relevant chunks and with exactly these chunks
in its world. The three lists of the update are ascending, so free of duplicates, and
disjoint, and they are empty when the view is that of the update before. -/
theorem revision_agreement (config : ReplicationConfig) (playerId : Nat) (worldHeight : Int)
    (client : World F) (hEmpty : client.chunks = ∅) {trace : List Event} {link : Link F}
    (run : Run (Step D playerId worldHeight) ⟨WorldReplication.create config, client, ∅⟩ trace link)
    (hBound : ∀ coord, marks trace coord < 2 ^ 32) (worldX worldZ : F) (world : World F)
    (others : List (String × Json D)) :
    let relevant := link.server.gatherRelevantChunks worldX worldZ world
    let view := WorldReplication.viewOf relevant link.server.revisionFor
    let update := (link.exchange playerId worldHeight worldX worldZ world others).1
    let after := (link.exchange playerId worldHeight worldX worldZ world others).2
    ((∀ coord, after.revisions.find coord = view coord) ∧
      ∀ coord, (after.world.getChunk coord).isSome = true ↔ coord ∈ relevant) ∧
    update.Ascending ∧
    (∀ coord, ¬ (coord ∈ update.added.map ChunkRevisionEntry.coord ∧
        coord ∈ update.removed.map ChunkRevisionEntry.coord) ∧
      ¬ (coord ∈ update.added.map ChunkRevisionEntry.coord ∧
        coord ∈ update.deltas.map ChunkRevisionEntry.coord) ∧
      ¬ (coord ∈ update.removed.map ChunkRevisionEntry.coord ∧
        coord ∈ update.deltas.map ChunkRevisionEntry.coord)) ∧
    (lastView trace = view → update.added = [] ∧ update.removed = [] ∧ update.deltas = []) := by
  intro relevant view update after
  have hAgree := agree_run hEmpty run hBound
  have hAfter := agree_exchange hAgree hBound worldHeight worldX worldZ world others
  have hDescribes : update.Describes (lastView trace) view :=
    describes_update hAgree hBound worldX worldZ world
  have hSpec := link.server.buildPlayerUpdate_spec playerId worldX worldZ world hAgree.sameKeys
  have hView : ∀ coord, after.revisions.find coord = view coord := fun coord => by
    rw [hAfter.client, lastView_append]
    rfl
  refine ⟨⟨hView, ?_⟩, hSpec.2.2.2.2, ?_, ?_⟩
  · intro coord
    have hMatched := hAfter.matched coord
    dsimp only at hMatched
    rw [World.getChunk, ← hMatched, hView, Option.isSome_iff_ne_none, ne_eq,
      WorldReplication.viewOf_eq_none, not_not]
  · intro coord
    have hDisjoint := hDescribes.disjoint coord
    simpa only [List.map_map, Function.comp_def] using hDisjoint
  · intro hSame
    obtain ⟨hAdded, hRemoved, hDeltas⟩ := hDescribes.eq_nil hSame
    exact ⟨List.map_eq_nil_iff.mp hAdded, List.map_eq_nil_iff.mp hRemoved,
      List.map_eq_nil_iff.mp hDeltas⟩

/-- A server on which one chunk has been marked, and an empty client. -/
def markedOnce : Link ℚ :=
  { server := (WorldReplication.create {}).markChunkDirty ⟨0, 0, 0⟩, world := {}, revisions := ∅ }

/-- A world of one chunk. -/
def oneChunk : World ℚ := World.generate 1 1 32 {}

theorem revision_agreement_markedOnce :
    (markedOnce.exchange 1 256 (0 : ℚ) (0 : ℚ) oneChunk
        ([] : List (String × Json ℚ))).2.revisions.find =
      WorldReplication.viewOf (markedOnce.server.gatherRelevantChunks (0 : ℚ) (0 : ℚ) oneChunk)
        markedOnce.server.revisionFor :=
  have hRun : Run (Step ℚ 1 256) ⟨WorldReplication.create {}, ({} : World ℚ), ∅⟩
      [.marked ⟨0, 0, 0⟩] markedOnce :=
    Run.single (Step.markChunkDirty _ _)
  have hBound : ∀ coord, marks [.marked ⟨0, 0, 0⟩] coord < 2 ^ 32 := by
    intro coord
    rw [marks_marked]
    split <;> decide
  funext (revision_agreement {} 1 256 {} rfl hRun hBound 0 0 oneChunk []).1.1

end DevyFps.Replication
