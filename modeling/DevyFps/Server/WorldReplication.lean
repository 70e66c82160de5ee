import DevyFps.Foundations.Json
import DevyFps.Shared.Voxel.World

/-! Which chunks a player is told about, and the revisions by which changed chunks are
recognised. The server's own chunk coordinate has the fields of the shared one, which
stands for both. -/

namespace DevyFps.Server

open Foundations FloatFormat Voxel

variable {F : Type} [SingleFloat F]

/-- The extents are `int`s. -/
structure ReplicationConfig where
  chunksX : Int := 64
  chunksY : Int := 8
  chunksZ : Int := 64
  interestRadiusChunks : Int := 2
  inRange : chunksX < 2 ^ 31 ∧ chunksY < 2 ^ 31 ∧ chunksZ < 2 ^ 31 := by decide

structure ChunkRevisionEntry where
  coord : ChunkCoord
  revision : UInt32 := 0
  deriving DecidableEq

structure PlayerWorldUpdate where
  playerId : Nat := 0
  added : List ChunkRevisionEntry := []
  removed : List ChunkRevisionEntry := []
  deltas : List ChunkRevisionEntry := []

structure PlayerReplicationState where
  subscribedChunks : UnorderedMap ChunkCoord Unit := ∅
  knownRevisions : UnorderedMap ChunkCoord UInt32 := ∅

structure WorldReplication where
  config : ReplicationConfig
  playerStates : UnorderedMap Nat PlayerReplicationState := ∅
  chunkRevisions : UnorderedMap ChunkCoord UInt32 := ∅

def floorDivChunk (worldAxis : F) : Int :=
  if !isFinite worldAxis then 0 else truncate (floor (worldAxis / ofInt kChunkSize))

def chunkCoordLess (lhs rhs : ChunkCoord) : Bool :=
  if lhs.x ≠ rhs.x then decide (lhs.x < rhs.x)
  else if lhs.z ≠ rhs.z then decide (lhs.z < rhs.z)
  else decide (lhs.y < rhs.y)

def chunkEntryLess (lhs rhs : ChunkRevisionEntry) : Bool := chunkCoordLess lhs.coord rhs.coord

namespace WorldReplication

def sanitizeConfig (config : ReplicationConfig) : ReplicationConfig where
  chunksX := if config.chunksX ≤ 0 then 64 else config.chunksX
  chunksY := if config.chunksY ≤ 0 then 8 else config.chunksY
  chunksZ := if config.chunksZ ≤ 0 then 64 else config.chunksZ
  interestRadiusChunks :=
    if config.interestRadiusChunks < 0 then 2 else config.interestRadiusChunks
  inRange := by
    have hRange := config.inRange
    refine ⟨?_, ?_, ?_⟩ <;> split <;> omega

/-- The constructor. -/
def create (config : ReplicationConfig) : WorldReplication := { config := sanitizeConfig config }

def reset (s : WorldReplication) : WorldReplication :=
  { s with playerStates := ∅, chunkRevisions := ∅ }

def removePlayer (s : WorldReplication) (playerId : Nat) : WorldReplication :=
  { s with playerStates := s.playerStates.erase playerId }

def markChunkDirty (s : WorldReplication) (coord : ChunkCoord) : WorldReplication :=
  match s.chunkRevisions.find coord with
  | none => { s with chunkRevisions := s.chunkRevisions.set coord 1 }
  | some revision => { s with chunkRevisions := s.chunkRevisions.set coord (revision + 1) }

def revisionFor (s : WorldReplication) (coord : ChunkCoord) : UInt32 :=
  (s.chunkRevisions.find coord).getD 0

/-- The materialised chunks of one column, from the bottom. -/
def columnCoords (s : WorldReplication) (world : World F) (cx cz : Int) : List ChunkCoord :=
  if cx < 0 ∨ cx ≥ s.config.chunksX ∨ cz < 0 ∨ cz ≥ s.config.chunksZ then []
  else
    ((intRange 0 (s.config.chunksY - 1)).filter fun cy => (world.getChunk ⟨cx, cy, cz⟩).isSome).map
      fun cy => ⟨cx, cy, cz⟩

def gatherRelevantChunks (s : WorldReplication) (worldX worldZ : F) (world : World F) :
    List ChunkCoord :=
  if s.config.chunksX ≤ 0 ∨ s.config.chunksY ≤ 0 ∨ s.config.chunksZ ≤ 0 then []
  else
    let centerChunkX := max 0 (min (floorDivChunk worldX) (max 0 (s.config.chunksX - 1)))
    let centerChunkZ := max 0 (min (floorDivChunk worldZ) (max 0 (s.config.chunksZ - 1)))
    let radius := s.config.interestRadiusChunks
    sortBy chunkCoordLess <|
      (intRange (-radius) radius).flatMap fun dz =>
        (intRange (-radius) radius).flatMap fun dx =>
          if dx * dx + dz * dz > radius * radius then []
          else s.columnCoords world (centerChunkX + dx) (centerChunkZ + dz)

/-- A chunk that is no longer relevant is forgotten and reported. -/
def unsubscribe (acc : PlayerReplicationState × PlayerWorldUpdate) (coord : ChunkCoord) :
    PlayerReplicationState × PlayerWorldUpdate :=
  ({ acc.1 with
      subscribedChunks := acc.1.subscribedChunks.erase coord
      knownRevisions := acc.1.knownRevisions.erase coord },
    { acc.2 with removed := acc.2.removed ++ [⟨coord, 0⟩] })

/-- A relevant chunk is added, or reported again when its revision has grown. -/
def subscribe (s : WorldReplication) (acc : PlayerReplicationState × PlayerWorldUpdate)
    (coord : ChunkCoord) : PlayerReplicationState × PlayerWorldUpdate :=
  let revision := s.revisionFor coord
  match acc.1.subscribedChunks.find coord with
  | none =>
      ({ acc.1 with
          subscribedChunks := acc.1.subscribedChunks.set coord ()
          knownRevisions := acc.1.knownRevisions.set coord revision },
        { acc.2 with added := acc.2.added ++ [⟨coord, revision⟩] })
  | some _ =>
      if revision > (acc.1.knownRevisions.find coord).getD 0 then
        ({ acc.1 with knownRevisions := acc.1.knownRevisions.set coord revision },
          { acc.2 with deltas := acc.2.deltas ++ [⟨coord, revision⟩] })
      else acc

def playerState (s : WorldReplication) (playerId : Nat) : PlayerReplicationState :=
  (s.playerStates.find playerId).getD {}

def buildPlayerUpdate (s : WorldReplication) (playerId : Nat) (worldX worldZ : F)
    (world : World F) : PlayerWorldUpdate × WorldReplication :=
  let playerState := s.playerState playerId
  let targetChunks := s.gatherRelevantChunks worldX worldZ world
  let removedCoords := playerState.subscribedChunks.keys.filter fun coord =>
    !targetChunks.contains coord
  let pruned := removedCoords.foldl unsubscribe (playerState, { playerId := playerId })
  let filled := targetChunks.foldl s.subscribe pruned
  ({ filled.2 with
      added := sortBy chunkEntryLess filled.2.added
      removed := sortBy chunkEntryLess filled.2.removed
      deltas := sortBy chunkEntryLess filled.2.deltas },
    { s with playerStates := s.playerStates.set playerId filled.1 })

end WorldReplication

/-- How main writes revision entries for the wire. -/
def chunkRevisionsToJson {D : Type} (entries : List ChunkRevisionEntry) : Json D :=
  .array <| entries.map fun entry =>
    .object [("x", .numberInteger (Int64.ofInt entry.coord.x)),
      ("y", .numberInteger (Int64.ofInt entry.coord.y)),
      ("z", .numberInteger (Int64.ofInt entry.coord.z)),
      ("revision", .numberUnsigned entry.revision.toUInt64)]

/-- The snapshot packet that carries an update, next to its other members. -/
def snapshotPayload {D : Type} (others : List (String × Json D)) (update : PlayerWorldUpdate) :
    Json D :=
  .object <|
    ("chunk_sync", .object [("added", chunkRevisionsToJson update.added),
      ("removed", chunkRevisionsToJson update.removed),
      ("deltas", chunkRevisionsToJson update.deltas)]) :: others

end DevyFps.Server
