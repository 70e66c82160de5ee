import DevyFps.Replication.RevisionAgreement
import DevyFps.Server.BlockInteraction
import DevyFps.Shared.Voxel.SeamlessChunks

/-! Block contents on the server and on a client whose worlds come from the same
generator, while blocks are edited on the server. Updates carry revisions and no blocks,
so the client keeps what the generator made. -/

namespace DevyFps.Replication

open Foundations Voxel Server Client

variable {F : Type} [SingleFloat F] {D : Type}

/-- Every chunk of the world is as the generator makes it for this profile and height. -/
structure Pristine (profile : WorldGenerationProfile F) (worldHeight : Int) (world : World F) :
    Prop where
  sameProfile : world.generationProfile = profile
  height : world.maxHeight ≤ max 0 worldHeight
  content : ∀ coord chunk, world.chunks.find coord = some chunk →
    0 < worldHeight ∧ chunk = generateChunk hashWorld profile coord worldHeight

/-- A generated chunk of a pristine world is as the profile says. -/
theorem Pristine.ensureGeneratedChunk {profile : WorldGenerationProfile F} {worldHeight : Int}
    {world : World F} (h : Pristine profile worldHeight world) (hHeight : 0 < worldHeight)
    (coord : ChunkCoord) :
    Pristine profile worldHeight (world.ensureGeneratedChunk coord worldHeight).2 := by
  have hLimit : (world.ensureGeneratedChunk coord worldHeight).2.maxHeight = worldHeight := by
    have hLe := h.height
    rw [World.maxHeight_ensureGeneratedChunk, if_pos hHeight]
    omega
  refine ⟨?_, ?_, ?_⟩
  · rw [World.generationProfile_ensureGeneratedChunk]
    exact h.sameProfile
  · rw [hLimit]
    omega
  · intro other chunk hFind
    rw [World.find_ensureGeneratedChunk, hLimit, h.sameProfile] at hFind
    split at hFind
    · rename_i hSame
      rw [hSame]
      cases hOld : world.chunks.find coord with
      | none =>
          rw [hOld] at hFind
          injection hFind with hFind
          exact ⟨hHeight, hFind.symm⟩
      | some existing =>
          rw [hOld] at hFind
          injection hFind with hFind
          rw [← hFind]
          exact h.content coord existing hOld
    · exact h.content other chunk hFind

/-- The chunks that are left after a removal are as they were generated. -/
theorem Pristine.removeChunk {profile : WorldGenerationProfile F} {worldHeight : Int}
    {world : World F} (h : Pristine profile worldHeight world) (coord : ChunkCoord) :
    Pristine profile worldHeight (world.removeChunk coord).2 := by
  refine ⟨h.sameProfile, h.height, fun other chunk hFind => ?_⟩
  rw [World.find_removeChunk] at hFind
  split at hFind
  · cases hFind
  · exact h.content other chunk hFind

/-- A generated world is pristine. -/
theorem pristine_generate (chunksX chunksZ worldHeight : Int)
    (profile : WorldGenerationProfile F) :
    Pristine (sanitizeWorldGenerationProfile profile) worldHeight
      (World.generate chunksX chunksZ worldHeight profile) := by
  let chunksY := (worldHeight + kChunkSize - 1).tdiv kChunkSize
  have hHeight : ∀ coord ∈ World.generatedCoords chunksX chunksY chunksZ, 0 < worldHeight := by
    intro coord hCoord
    unfold World.generatedCoords at hCoord
    simp only [List.mem_flatMap, mem_intRange] at hCoord
    obtain ⟨cy, hCy, _⟩ := hCoord
    by_contra hLow
    have hZero : chunksY ≤ 0 := by
      have hQuotient : (worldHeight + 32 - 1).tdiv 32 ≤ Int.tdiv 31 32 :=
        Int.tdiv_le_tdiv (by decide) (by omega)
      exact hQuotient
    omega
  have hFold : ∀ (coords : List ChunkCoord), (∀ coord ∈ coords, 0 < worldHeight) →
      ∀ world : World F, Pristine (sanitizeWorldGenerationProfile profile) worldHeight world →
        Pristine (sanitizeWorldGenerationProfile profile) worldHeight
          (coords.foldl (fun world coord => (world.ensureGeneratedChunk coord worldHeight).2)
            world) := by
    intro coords hCoords
    induction coords with
    | nil => exact fun world hWorld => hWorld
    | cons first rest ih =>
        intro world hWorld
        exact ih (fun coord hCoord => hCoords coord (List.mem_cons_of_mem _ hCoord)) _
          (hWorld.ensureGeneratedChunk (hCoords first List.mem_cons_self) first)
  apply hFold _ hHeight
  refine ⟨rfl, le_max_right _ _, fun coord chunk hFind => ?_⟩
  rw [show _ = none from UnorderedMap.find_empty coord] at hFind
  cases hFind

/-- The server's world, and the link to one client. -/
structure Replica (F : Type) [SingleFloat F] where
  serverWorld : World F
  link : Link F

namespace Replica

/-- A block command; when it is applied, its chunk is marked. -/
def edit (s : Replica F) (interaction : BlockInteraction) (command : BlockUpdateCommand) :
    BlockUpdateOutcome × Replica F :=
  let outcome := interaction.apply command s.serverWorld
  let marked :=
    if outcome.1.applied then
      { s.link with
        server := s.link.server.markChunkDirty
          ⟨outcome.1.chunkX, outcome.1.chunkY, outcome.1.chunkZ⟩ }
    else s.link
  (outcome.1, { serverWorld := outcome.2, link := marked })

/-- One update of the player over the server's world. -/
def update (s : Replica F) (playerId : Nat) (worldHeight : Int) (worldX worldZ : F)
    (others : List (String × Json D)) : Replica F :=
  { s with link := (s.link.exchange playerId worldHeight worldX worldZ s.serverWorld others).2 }

theorem serverWorld_edit (s : Replica F) (interaction : BlockInteraction)
    (command : BlockUpdateCommand) :
    (s.edit interaction command).2.serverWorld = (interaction.apply command s.serverWorld).2 := rfl

/-- An update reads the world of the server. -/
theorem serverWorld_update (s : Replica F) (playerId : Nat) (worldHeight : Int)
    (worldX worldZ : F) (others : List (String × Json D)) :
    (s.update playerId worldHeight worldX worldZ others).serverWorld = s.serverWorld := rfl

theorem config_edit (s : Replica F) (interaction : BlockInteraction)
    (command : BlockUpdateCommand) :
    (s.edit interaction command).2.link.server.config = s.link.server.config := by
  unfold edit WorldReplication.markChunkDirty
  dsimp only
  split
  · cases s.link.server.chunkRevisions.find _ <;> rfl
  · rfl

end Replica

/-- What happened in a step, as far as blocks are concerned. -/
inductive EditEvent where
  | edited (position : BlockPos)
  | refused
  | updated

/-- The steps: any block commands, and updates of the player at any position. -/
inductive ReplicaStep (D : Type) (interaction : BlockInteraction) (playerId : Nat)
    (worldHeight : Int) : Replica F → EditEvent → Replica F → Prop where
  | edit (s : Replica F) (command : BlockUpdateCommand) :
      ReplicaStep D interaction playerId worldHeight s
        (if (s.edit interaction command).1.applied then
          .edited ⟨command.worldX, command.worldY, command.worldZ⟩ else .refused)
        (s.edit interaction command).2
  | update (s : Replica F) (worldX worldZ : F) (others : List (String × Json D)) :
      ReplicaStep D interaction playerId worldHeight s .updated
        (s.update playerId worldHeight worldX worldZ others)

/-- The worlds that a client can start with: generated from the same profile and height,
or empty with the profile set. -/
inductive ClientStart (profile : WorldGenerationProfile F) (worldHeight : Int) :
    World F → Prop where
  | generated (chunksX chunksZ : Int) :
      ClientStart profile worldHeight (World.generate chunksX chunksZ worldHeight profile)
  | profileSet : ClientStart profile worldHeight (({} : World F).setGenerationProfile profile)

/-- The world of a client starts pristine, generated or empty. -/
theorem ClientStart.pristine {profile : WorldGenerationProfile F} {worldHeight : Int}
    {client : World F} (h : ClientStart profile worldHeight client) :
    Pristine (sanitizeWorldGenerationProfile profile) worldHeight client := by
  cases h with
  | generated chunksX chunksZ => exact pristine_generate chunksX chunksZ worldHeight profile
  | profileSet => exact ⟨rfl, le_max_left _ _, fun coord chunk hFind => nomatch hFind⟩

/-- No command that was applied so far changed the block. -/
def Unedited (trace : List EditEvent) (position : BlockPos) : Prop :=
  .edited position ∉ trace

/-- What holds between steps: the client knows what the server thinks it knows and its
world is pristine, and the server's world differs from the generated one at edited
positions only. -/
structure Mirrors (profile : WorldGenerationProfile F) (worldHeight : Int) (playerId : Nat)
    (trace : List EditEvent) (s : Replica F) : Prop where
  sameKeys : (s.link.server.playerState playerId).SameKeys
  known : s.link.revisions.find = (s.link.server.playerState playerId).knownRevisions.find
  addressable : ∀ coord revision, s.link.revisions.find coord = some revision →
    Addressable coord
  held : SyncState.Held { world := s.link.world, revisions := s.link.revisions }
  client : Pristine profile worldHeight s.link.world
  server : ∀ coord chunk, s.serverWorld.chunks.find coord = some chunk →
    0 < worldHeight ∧ ∀ x y z, Chunk.isInside x y z = true →
      Unedited trace (worldPos coord x y z) →
        chunk.get x y z = (generateChunk hashWorld profile coord worldHeight).get x y z

/-- At the start no chunk is edited, so the worlds agree on all that is generated. -/
theorem mirrors_start (config : ReplicationConfig) (playerId : Nat) (chunksX chunksZ : Int)
    {worldHeight : Int} {profile : WorldGenerationProfile F} {client : World F}
    (hClient : ClientStart profile worldHeight client) :
    Mirrors (sanitizeWorldGenerationProfile profile) worldHeight playerId []
      { serverWorld := World.generate chunksX chunksZ worldHeight profile
        link := ⟨WorldReplication.create config, client, ∅⟩ } where
  sameKeys coord := by simp [WorldReplication.create, WorldReplication.playerState]
  known := by
    funext coord
    simp [WorldReplication.create, WorldReplication.playerState]
  addressable coord revision h := by simp at h
  held coord h := by simp at h
  client := hClient.pristine
  server coord chunk hFind := by
    obtain ⟨hHeight, hChunk⟩ :=
      (pristine_generate chunksX chunksZ worldHeight profile).content coord chunk hFind
    exact ⟨hHeight, fun x y z _ _ => by rw [hChunk]⟩

theorem playerState_markChunkDirty (s : WorldReplication) (coord : ChunkCoord) (playerId : Nat) :
    (s.markChunkDirty coord).playerState playerId = s.playerState playerId := by
  unfold WorldReplication.markChunkDirty
  cases s.chunkRevisions.find coord <;> rfl

/-- A block command touches the server's world at its own position only. -/
theorem mirrors_edit {profile : WorldGenerationProfile F} {worldHeight : Int} {playerId : Nat}
    {trace : List EditEvent} {s : Replica F}
    (h : Mirrors profile worldHeight playerId trace s) (interaction : BlockInteraction)
    (command : BlockUpdateCommand) :
    Mirrors profile worldHeight playerId
      (trace ++ [if (s.edit interaction command).1.applied then
        .edited ⟨command.worldX, command.worldY, command.worldZ⟩ else .refused])
      (s.edit interaction command).2 := by
  unfold Replica.edit
  dsimp only
  rcases interaction.apply_cases command s.serverWorld with ⟨hRefused, hSame⟩ |
    ⟨hApplied, ⟨previous, hBlock⟩, hWritten, _⟩
  · have hFlag : (interaction.apply command s.serverWorld).1.applied = false := by
      simp [BlockUpdateOutcome.applied, hRefused]
    rw [hFlag, hSame]
    refine ⟨h.sameKeys, h.known, h.addressable, h.held, h.client, fun coord chunk hFind => ?_⟩
    obtain ⟨hHeight, hContent⟩ := h.server coord chunk hFind
    refine ⟨hHeight, fun x y z hInside hUnedited => hContent x y z hInside ?_⟩
    exact fun hMem => hUnedited (List.mem_append_left _ hMem)
  · have hFlag : (interaction.apply command s.serverWorld).1.applied = true := by
      simp [BlockUpdateOutcome.applied, hApplied]
    obtain ⟨hNonneg, chunk₀, hChunk₀, hSet⟩ :=
      World.setBlock_of_blockAt hBlock command.blockId
    rw [hFlag, hWritten, hSet]
    simp only [if_true]
    refine ⟨?_, ?_, h.addressable, h.held, h.client, fun coord chunk hFind => ?_⟩
    · rw [playerState_markChunkDirty]
      exact h.sameKeys
    · rw [playerState_markChunkDirty]
      exact h.known
    · dsimp only at hFind
      rw [UnorderedMap.find_set] at hFind
      split at hFind
      · rename_i hSame
        injection hFind with hFind
        obtain ⟨hHeight, hContent⟩ := h.server _ chunk₀ hChunk₀
        refine ⟨hHeight, fun x y z hInside hUnedited => ?_⟩
        rw [hSame] at hUnedited ⊢
        rw [← hFind, Chunk.get_set, if_neg, hContent x y z hInside]
        · exact fun hMem => hUnedited (List.mem_append_left _ hMem)
        · rintro ⟨_, hX, hY, hZ⟩
          apply hUnedited
          have hHere : worldPos ⟨command.worldX / kChunkSize, command.worldY / kChunkSize,
              command.worldZ / kChunkSize⟩ x y z =
              ⟨command.worldX, command.worldY, command.worldZ⟩ := by
            simp only [worldPos, hX, hY, hZ, kChunkSize, BlockPos.mk.injEq]
            omega
          rw [hHere]
          exact List.mem_append_right _ (List.mem_singleton.mpr rfl)
      · obtain ⟨hHeight, hContent⟩ := h.server coord chunk hFind
        refine ⟨hHeight, fun x y z hInside hUnedited => hContent x y z hInside ?_⟩
        exact fun hMem => hUnedited (List.mem_append_left _ hMem)

/-- What an update leaves behind on both sides. -/
theorem mirrors_update {profile : WorldGenerationProfile F} {worldHeight : Int} {playerId : Nat}
    {trace : List EditEvent} {s : Replica F}
    (h : Mirrors profile worldHeight playerId trace s) (worldX worldZ : F)
    (others : List (String × Json D)) :
    Mirrors profile worldHeight playerId (trace ++ [.updated])
        (s.update playerId worldHeight worldX worldZ others) ∧
      ∀ coord revision,
        (s.update playerId worldHeight worldX worldZ others).link.revisions.find coord =
          some revision → (s.serverWorld.getChunk coord).isSome = true := by
  let relevant := s.link.server.gatherRelevantChunks worldX worldZ s.serverWorld
  let built := s.link.server.buildPlayerUpdate playerId worldX worldZ s.serverWorld
  let after := s.link.server.knownAfter relevant s.link.revisions.find
  let synced := applyChunkSync s.link.world worldHeight (readUpdate built.1) s.link.revisions
  obtain ⟨hKnown, hSameKeys, _, hDescribes, _⟩ :=
    s.link.server.buildPlayerUpdate_spec playerId worldX worldZ s.serverWorld h.sameKeys
  rw [← h.known] at hKnown hDescribes
  have hRelevant : ∀ coord revision, after coord = some revision → coord ∈ relevant := by
    intro coord revision hAfter
    by_contra hNot
    rw [show after coord = none from if_neg hNot] at hAfter
    cases hAfter
  have hAddressable : ∀ coord revision, after coord = some revision → Addressable coord :=
    fun coord revision hAfter =>
      WorldReplication.coord_mem_gather_lt (hRelevant coord revision hAfter)
  have hUpdate : s.update playerId worldHeight worldX worldZ others =
      { s with link := { server := built.2, world := synced.world,
                         revisions := synced.revisions } } := by
    unfold Replica.update Link.exchange Link.deliver
    dsimp only
    rw [parseChunkSync_describes hDescribes h.addressable hAddressable others]
  have hRevisions : synced.revisions.find = after := by
    apply revisions_applyChunkSync
    simpa only [readUpdate, List.map_map, Function.comp_def, received,
      PlayerWorldUpdate.Describes] using hDescribes
  have hHeight : ∀ coord ∈ relevant, 0 < worldHeight := by
    intro coord hMem
    obtain ⟨_, _, _, hChunk⟩ := WorldReplication.mem_gatherRelevantChunks hMem
    obtain ⟨chunk, hFind⟩ := Option.isSome_iff_exists.mp hChunk
    exact (h.server coord chunk hFind).1
  have hEntry : ∀ entry, entry ∈ (readUpdate built.1).added ∨ entry ∈ (readUpdate built.1).deltas →
      0 < worldHeight := by
    rintro entry (hMem | hMem)
    · obtain ⟨written, hWritten, rfl⟩ := List.mem_map.mp hMem
      have hNew := (hDescribes.mem_added written.coord written.revision).mp
        (List.mem_map_of_mem (f := fun entry => (entry.coord, entry.revision)) hWritten)
      exact hHeight _ (hRelevant _ _ hNew.1)
    · obtain ⟨written, hWritten, rfl⟩ := List.mem_map.mp hMem
      have hNew := (hDescribes.mem_replaced written.coord written.revision).mp
        (List.mem_map_of_mem (f := fun entry => (entry.coord, entry.revision)) hWritten)
      exact hHeight _ (hRelevant _ _ hNew.1)
  have hHeld : synced.Held := applyChunkSync_invariant
    (fun s entry hs => held_applyRemoved hs entry)
    (fun s entry _ hs => held_applyAddedLike hs worldHeight entry) h.held
  have hPristine : Pristine profile worldHeight synced.world :=
    applyChunkSync_invariant (I := fun s => Pristine profile worldHeight s.world)
      (fun s entry hs => hs.removeChunk entry.coord)
      (fun s entry hMem hs => by
        unfold applyAddedLike
        split
        · exact hs
        · exact hs.ensureGeneratedChunk (hEntry entry hMem) entry.coord)
      h.client
  rw [hUpdate]
  refine ⟨⟨hSameKeys, hRevisions.trans hKnown.symm, ?_, hHeld, hPristine, ?_⟩, ?_⟩
  · intro coord revision hFind
    exact hAddressable coord revision ((congrFun hRevisions coord).symm.trans hFind)
  · intro coord chunk hFind
    obtain ⟨hPositive, hContent⟩ := h.server coord chunk hFind
    refine ⟨hPositive, fun x y z hInside hUnedited => hContent x y z hInside ?_⟩
    exact fun hMem => hUnedited (List.mem_append_left _ hMem)
  · intro coord revision hFind
    have hMem := hRelevant coord revision ((congrFun hRevisions coord).symm.trans hFind)
    exact (WorldReplication.mem_gatherRelevantChunks hMem).2.2.2

/-- A run of one applied command. -/
theorem run_edit {interaction : BlockInteraction} {playerId : Nat} {worldHeight : Int}
    (s : Replica F) (command : BlockUpdateCommand)
    (hApplied : (interaction.apply command s.serverWorld).1.status = .applied) :
    Run (ReplicaStep D interaction playerId worldHeight) s
      [.edited ⟨command.worldX, command.worldY, command.worldZ⟩]
      (s.edit interaction command).2 := by
  have hFlag : (s.edit interaction command).1.applied = true := by
    simp [Replica.edit, BlockUpdateOutcome.applied, hApplied]
  have hStep : ReplicaStep D interaction playerId worldHeight s _
      (s.edit interaction command).2 := .edit s command
  rw [if_pos hFlag] at hStep
  exact Run.single hStep

/-- In every run the client mirrors the chunks that it knows at the revision of the server. -/
theorem mirrors_run {config : ReplicationConfig} {interaction : BlockInteraction} {playerId : Nat}
    {chunksX chunksZ worldHeight : Int} {profile : WorldGenerationProfile F} {client : World F}
    (hClient : ClientStart profile worldHeight client) {trace : List EditEvent} {s : Replica F}
    (run : Run (ReplicaStep D interaction playerId worldHeight)
      { serverWorld := World.generate chunksX chunksZ worldHeight profile
        link := ⟨WorldReplication.create config, client, ∅⟩ } trace s) :
    Mirrors (sanitizeWorldGenerationProfile profile) worldHeight playerId trace s := by
  refine run.history (I := Mirrors (sanitizeWorldGenerationProfile profile) worldHeight playerId)
    ?_ (mirrors_start config playerId chunksX chunksZ hClient)
  intro trace s event next ih step
  cases step with
  | edit command => exact mirrors_edit ih interaction command
  | update worldX worldZ others => exact (mirrors_update ih worldX worldZ others).1

/-- The chunk that the client has for a subscribed coordinate, next to the server's. -/
theorem subscribed_content {profile : WorldGenerationProfile F} {worldHeight : Int}
    {playerId : Nat} {trace : List EditEvent} {s : Replica F}
    (h : Mirrors profile worldHeight playerId trace s) (worldX worldZ : F)
    (others : List (String × Json D)) {coord : ChunkCoord}
    (hSubscribed : (((s.update playerId worldHeight worldX worldZ others).link.server.playerState
      playerId).subscribedChunks.find coord).isSome = true) :
    ∃ theirs, s.serverWorld.getChunk coord = some theirs ∧
      (s.update playerId worldHeight worldX worldZ others).link.world.getChunk coord =
        some (generateChunk hashWorld profile coord worldHeight) := by
  obtain ⟨hAfter, hServer⟩ := mirrors_update h worldX worldZ others
  rw [hAfter.sameKeys, ← hAfter.known] at hSubscribed
  obtain ⟨revision, hRevision⟩ := Option.isSome_iff_exists.mp hSubscribed
  obtain ⟨theirs, hTheirs⟩ := Option.isSome_iff_exists.mp (hServer coord revision hRevision)
  obtain ⟨mine, hMine⟩ := Option.isSome_iff_exists.mp (hAfter.held coord hSubscribed)
  refine ⟨theirs, hTheirs, hMine.trans ?_⟩
  rw [(hAfter.client.content coord mine hMine).2]

/-- After an update the player is subscribed to every relevant chunk. -/
theorem subscribed_of_relevant {profile : WorldGenerationProfile F} {worldHeight : Int}
    {playerId : Nat} {trace : List EditEvent} {s : Replica F}
    (h : Mirrors profile worldHeight playerId trace s) (worldX worldZ : F)
    (others : List (String × Json D)) {coord : ChunkCoord}
    (hRelevant : coord ∈ s.link.server.gatherRelevantChunks worldX worldZ s.serverWorld) :
    (((s.update playerId worldHeight worldX worldZ others).link.server.playerState
      playerId).subscribedChunks.find coord).isSome = true := by
  obtain ⟨hKnown, hSameKeys, _⟩ :=
    s.link.server.buildPlayerUpdate_spec playerId worldX worldZ s.serverWorld h.sameKeys
  have hServer : (s.update playerId worldHeight worldX worldZ others).link.server =
      (s.link.server.buildPlayerUpdate playerId worldX worldZ s.serverWorld).2 :=
    s.link.server_exchange playerId worldHeight worldX worldZ s.serverWorld others
  rw [hServer, hSameKeys, hKnown, WorldReplication.knownAfter, if_pos hRelevant]
  rfl

/-- Along every run of block commands and updates, after each update every subscribed
chunk is on the client with the content that the generator makes, and holds the server's
block at every position that no applied command changed. -/
theorem replica_content (config : ReplicationConfig) (interaction : BlockInteractionConfig)
    (playerId : Nat) (chunksX chunksZ worldHeight : Int) (profile : WorldGenerationProfile F)
    (client : World F) (hClient : ClientStart profile worldHeight client)
    {trace : List EditEvent} {s : Replica F}
    (run : Run (ReplicaStep D (BlockInteraction.create interaction) playerId worldHeight)
      { serverWorld := World.generate chunksX chunksZ worldHeight profile
        link := ⟨WorldReplication.create config, client, ∅⟩ } trace s)
    (worldX worldZ : F) (others : List (String × Json D)) (coord : ChunkCoord)
    (hSubscribed : (((s.update playerId worldHeight worldX worldZ others).link.server.playerState
      playerId).subscribedChunks.find coord).isSome = true) :
    ∃ mine theirs,
      (s.update playerId worldHeight worldX worldZ others).link.world.getChunk coord =
        some mine ∧
      (s.update playerId worldHeight worldX worldZ others).serverWorld.getChunk coord =
        some theirs ∧
      mine = generateChunk hashWorld (sanitizeWorldGenerationProfile profile) coord worldHeight ∧
      ∀ x y z, Chunk.isInside x y z = true → Unedited trace (worldPos coord x y z) →
        mine.get x y z = theirs.get x y z := by
  have hMirrors := mirrors_run hClient run
  obtain ⟨theirs, hTheirs, hMine⟩ :=
    subscribed_content hMirrors worldX worldZ others hSubscribed
  refine ⟨_, theirs, hMine, hTheirs, rfl, fun x y z hInside hUnedited => ?_⟩
  exact ((hMirrors.server coord theirs hTheirs).2 x y z hInside hUnedited).symm

/-- A flat world: terrain only, of height one. -/
def flatProfile : WorldGenerationProfile ℚ := { expansion := { enabled := false } }

section FlatWorld

variable (client : World ℚ)

/-- A server world of one flat chunk, and a client. -/
def flatStart : Replica ℚ where
  serverWorld := World.generate 1 1 1 flatProfile
  link :=
    { server := WorldReplication.create
        { chunksX := 1, chunksY := 1, chunksZ := 1, interestRadiusChunks := 0 }
      world := client
      revisions := ∅ }

def flatChunk : Chunk :=
  generateChunk hashWorld (sanitizeWorldGenerationProfile flatProfile) ⟨0, 0, 0⟩ 1

/-- The chunk of the flat world is loaded from the start. -/
theorem find_flatStart :
    (flatStart client).serverWorld.chunks.find ⟨0, 0, 0⟩ = some flatChunk := by
  have hCoords : World.generatedCoords 1 (((1 : Int) + kChunkSize - 1).tdiv kChunkSize) 1 =
      [⟨0, 0, 0⟩] := by decide
  unfold flatStart World.generate
  dsimp only
  rw [hCoords, List.foldl_cons, List.foldl_nil, World.find_ensureGeneratedChunk, if_pos rfl,
    World.maxHeight_ensureGeneratedChunk]
  dsimp only
  rw [UnorderedMap.find_empty, Option.getD_none, if_pos (by decide), max_self]
  rfl

/-- The flat chunk has grass at its lowest corner. -/
theorem get_flatChunk : flatChunk.get 0 0 0 = 3 := by
  have hGathered : gatherChunkCandidates hashWorld 0 0
      (sanitizeWorldGenerationProfile flatProfile) = [] := rfl
  unfold flatChunk
  rw [get_generateChunk ⟨by decide, by decide, by decide⟩ (by decide), hGathered,
    List.flatMap_nil, lastWrite_nil, Option.getD_none, terrainAt, sampleHeight_one]
  rfl

/-- Player 1 breaks the block at the origin. -/
def breakOrigin : BlockUpdateCommand := { playerId := 1 }

theorem blockAt_flatStart : (flatStart client).serverWorld.blockAt 0 0 0 = some 3 := by
  have hChunk : (flatStart client).serverWorld.getChunk ⟨0, 0, 0⟩ = some flatChunk :=
    find_flatStart client
  unfold World.blockAt
  rw [World.locate_eq, if_pos (by decide)]
  dsimp only
  rw [show (⟨0 / kChunkSize, 0 / kChunkSize, 0 / kChunkSize⟩ : ChunkCoord) = ⟨0, 0, 0⟩ from rfl,
    hChunk, Option.map_some]
  exact congrArg some get_flatChunk

/-- The world with the block at the origin broken. -/
def flatBroken : Replica ℚ :=
  ((flatStart client).edit (BlockInteraction.create {}) breakOrigin).2

/-- The break at the origin is applied. -/
theorem status_breakOrigin :
    ((BlockInteraction.create {}).apply breakOrigin (flatStart client).serverWorld).1.status =
      .applied :=
  BlockInteraction.apply_break _ (by decide) rfl (blockAt_flatStart client) (by decide)

/-- It leaves a hole there. -/
theorem find_flatBroken :
    (flatBroken client).serverWorld.getChunk ⟨0, 0, 0⟩ = some (flatChunk.set 0 0 0 0) := by
  rcases (BlockInteraction.create {}).apply_cases breakOrigin (flatStart client).serverWorld with
    ⟨hRefused, _⟩ | ⟨_, _, hWritten, _⟩
  · exact absurd (status_breakOrigin client) hRefused
  · obtain ⟨_, chunk, hChunk, hSet⟩ :=
      World.setBlock_of_blockAt (blockAt_flatStart client) breakOrigin.blockId
    have hQuotient : (0 : Int) / kChunkSize = 0 := by decide
    have hRemainder : (0 : Int) % kChunkSize = 0 := by decide
    rw [hQuotient] at hChunk hSet
    rw [hRemainder] at hSet
    rw [find_flatStart, Option.some.injEq] at hChunk
    rw [← hChunk] at hSet
    have hWorld : ((flatStart client).serverWorld.setBlock breakOrigin.worldX breakOrigin.worldY
        breakOrigin.worldZ breakOrigin.blockId) = _ := hSet
    rw [flatBroken, Replica.serverWorld_edit, hWritten, hWorld, World.getChunk]
    exact UnorderedMap.find_set_self _ _ _

/-- A run that breaks the block. -/
theorem run_flatBroken :
    Run (ReplicaStep ℚ (BlockInteraction.create {}) 1 1) (flatStart client) [.edited ⟨0, 0, 0⟩]
      (flatBroken client) :=
  run_edit (flatStart client) breakOrigin (status_breakOrigin client)

/-- The only chunk is relevant for a player at the origin. -/
theorem relevant_flatBroken :
    (⟨0, 0, 0⟩ : ChunkCoord) ∈
      (flatBroken client).link.server.gatherRelevantChunks (0 : ℚ) (0 : ℚ)
        (flatBroken client).serverWorld := by
  have hConfig : (flatBroken client).link.server.config =
      { chunksX := 1, chunksY := 1, chunksZ := 1, interestRadiusChunks := 0 } := by
    rw [flatBroken, Replica.config_edit]
    rfl
  have hFloor : floorDivChunk (0 : ℚ) = 0 := by decide +kernel
  apply WorldReplication.mem_gather_of_center
  · rw [hConfig]
  · rw [hConfig, hFloor]
    rfl
  · rw [hConfig]
    exact ⟨le_rfl, one_pos⟩
  · rw [hConfig, hFloor]
    rfl
  · rw [hConfig]
    exact ⟨one_pos, one_pos⟩
  · rw [find_flatBroken]
    rfl

end FlatWorld

/-- The world of the client, made like the server's. -/
def flatClient : World ℚ := World.generate 1 1 1 flatProfile

theorem replica_content_flatBroken :
    ∃ mine theirs,
      ((flatBroken flatClient).update 1 1 (0 : ℚ) (0 : ℚ)
        ([] : List (String × Json ℚ))).link.world.getChunk ⟨0, 0, 0⟩ = some mine ∧
      ((flatBroken flatClient).update 1 1 (0 : ℚ) (0 : ℚ)
        ([] : List (String × Json ℚ))).serverWorld.getChunk ⟨0, 0, 0⟩ = some theirs ∧
          mine.get 1 0 0 = theirs.get 1 0 0 := by
  have hMirrors := mirrors_run (.generated 1 1) (run_flatBroken flatClient)
  have hSubscribed := subscribed_of_relevant hMirrors (0 : ℚ) (0 : ℚ)
    ([] : List (String × Json ℚ)) (relevant_flatBroken flatClient)
  obtain ⟨mine, theirs, hMine, hTheirs, _, hSame⟩ :=
    replica_content { chunksX := 1, chunksY := 1, chunksZ := 1, interestRadiusChunks := 0 } {} 1
      1 1 1 flatProfile _ (.generated 1 1) (run_flatBroken flatClient) 0 0 [] ⟨0, 0, 0⟩ hSubscribed
  refine ⟨mine, theirs, hMine, hTheirs, hSame 1 0 0 (by decide) ?_⟩
  simp [Unedited, worldPos, kChunkSize]

/-- After every update a client that starts so has the blocks of the server. -/
def ContentMirrored
    (start : Int → Int → Int → WorldGenerationProfile ℚ → World ℚ) : Prop :=
  ∀ (config : ReplicationConfig) (interaction : BlockInteractionConfig) (playerId : Nat)
    (chunksX chunksZ worldHeight : Int) (profile : WorldGenerationProfile ℚ)
    (trace : List EditEvent) (s : Replica ℚ),
    Run (ReplicaStep ℚ (BlockInteraction.create interaction) playerId worldHeight)
      { serverWorld := World.generate chunksX chunksZ worldHeight profile
        link := ⟨WorldReplication.create config, start chunksX chunksZ worldHeight profile, ∅⟩ }
      trace s →
    ∀ (worldX worldZ : ℚ) (others : List (String × Json ℚ)) (coord : ChunkCoord),
      (((s.update playerId worldHeight worldX worldZ others).link.server.playerState
        playerId).subscribedChunks.find coord).isSome = true →
      ∃ mine theirs,
        (s.update playerId worldHeight worldX worldZ others).link.world.getChunk coord =
          some mine ∧
        (s.update playerId worldHeight worldX worldZ others).serverWorld.getChunk coord =
          some theirs ∧
        ∀ x y z, Chunk.isInside x y z = true → mine.get x y z = theirs.get x y z

/-- A broken block stays on the client: the update carries only the new revision. -/
theorem not_contentMirrored {start : Int → Int → Int → WorldGenerationProfile ℚ → World ℚ}
    (hClient : ClientStart flatProfile 1 (start 1 1 1 flatProfile)) : ¬ContentMirrored start := by
  intro hAll
  have hMirrors := mirrors_run hClient (run_flatBroken _)
  have hSubscribed := subscribed_of_relevant hMirrors (0 : ℚ) (0 : ℚ)
    ([] : List (String × Json ℚ)) (relevant_flatBroken _)
  obtain ⟨_, _, hMine⟩ := subscribed_content hMirrors (0 : ℚ) (0 : ℚ)
    ([] : List (String × Json ℚ)) hSubscribed
  obtain ⟨mine, theirs, hMine', hServer, hSame⟩ :=
    hAll { chunksX := 1, chunksY := 1, chunksZ := 1, interestRadiusChunks := 0 } {} 1 1 1 1
      flatProfile _ (flatBroken _) (run_flatBroken _) 0 0 [] ⟨0, 0, 0⟩ hSubscribed
  have hBlock := hSame 0 0 0 (by decide)
  rw [hMine, ← flatChunk, Option.some.injEq] at hMine'
  rw [Replica.serverWorld_update, find_flatBroken, Option.some.injEq] at hServer
  rw [← hMine', ← hServer, get_flatChunk, Chunk.get_set, if_pos (by decide)] at hBlock
  exact absurd hBlock (by decide)

/-- Neither a client that generated the same world nor one that set the profile follows. -/
theorem content_not_mirrored : ¬ContentMirrored World.generate ∧
    ¬ContentMirrored fun _ _ _ profile => ({} : World ℚ).setGenerationProfile profile :=
  ⟨not_contentMirrored (.generated 1 1), not_contentMirrored .profileSet⟩

end DevyFps.Replication
