import DevyFps.Server.BlockInteraction

/-! Block commands and their histories: which are applied, what they change, and that
placing and breaking take turns at every position. -/

namespace DevyFps.Server

open Foundations Voxel

variable {F : Type} [SingleFloat F]

/-- The ids that a configuration allows: air always, and the default ids if it lists none. -/
def BlockInteractionConfig.Allows (config : BlockInteractionConfig) (blockId : BlockId) : Prop :=
  if config.validBlockIds = [] then blockId ∈ ([0, 1, 2, 3] : List BlockId)
  else blockId = kAirBlockId ∨ blockId ∈ config.validBlockIds

/-- The position lies in the chunk. -/
def Covers (coord : ChunkCoord) (position : BlockPos) : Prop :=
  ∃ x y z, Chunk.isInside x y z = true ∧ position = worldPos coord x y z

theorem covers_iff {coord : ChunkCoord} {position : BlockPos} :
    Covers coord position ↔
      coord = ⟨position.x / kChunkSize, position.y / kChunkSize, position.z / kChunkSize⟩ := by
  constructor
  · rintro ⟨x, y, z, hInside, rfl⟩
    rw [Chunk.isInside_iff] at hInside
    obtain ⟨cx, cy, cz⟩ := coord
    simp only [worldPos, kChunkSize, ChunkCoord.mk.injEq]
    omega
  · rintro rfl
    refine ⟨position.x % kChunkSize, position.y % kChunkSize, position.z % kChunkSize, ?_, ?_⟩
    · rw [Chunk.isInside_iff]
      simp only [kChunkSize]
      omega
    · obtain ⟨x, y, z⟩ := position
      simp only [worldPos, kChunkSize, BlockPos.mk.injEq]
      omega

namespace BlockUpdateCommand

def position (command : BlockUpdateCommand) : BlockPos :=
  ⟨command.worldX, command.worldY, command.worldZ⟩

/-- Whether the command places a block; otherwise it breaks one. -/
def places (command : BlockUpdateCommand) : Bool := command.blockId != kAirBlockId

end BlockUpdateCommand

def BlockUpdateOutcome.chunk (outcome : BlockUpdateOutcome) : ChunkCoord :=
  ⟨outcome.chunkX, outcome.chunkY, outcome.chunkZ⟩

/-- The block at a position. -/
def blockOf (world : World F) (position : BlockPos) : Option BlockId :=
  world.blockAt position.x position.y position.z

/-- Whether there is a block other than air at the position. -/
def solidAt (world : World F) (position : BlockPos) : Bool :=
  (blockOf world position).any (· != kAirBlockId)

/-- The command is one that the rules of placing and breaking allow. -/
structure Permits (config : BlockInteractionConfig) (world : World F)
    (command : BlockUpdateCommand) : Prop where
  valid : config.Allows command.blockId
  nonneg : 0 ≤ command.worldX ∧ 0 ≤ command.worldY ∧ 0 ≤ command.worldZ
  materialised : ∃ coord chunk, world.chunks.find coord = some chunk ∧
    Covers coord command.position
  oneAir : ∃ current, blockOf world command.position = some current ∧
    (current = kAirBlockId ↔ command.blockId ≠ kAirBlockId)

/-- The command was carried out: its block is written, the reported chunk holds its
position, and the rest of the world is as before. -/
structure CarriedOut (world : World F) (command : BlockUpdateCommand)
    (outcome : BlockUpdateOutcome) (after : World F) : Prop where
  written : blockOf after command.position = some command.blockId
  elsewhere : ∀ position, position ≠ command.position →
    blockOf after position = blockOf world position
  chunks : ∀ coord, (after.chunks.find coord).isSome = (world.chunks.find coord).isSome
  profile : after.maxHeight = world.maxHeight ∧ after.generationProfile = world.generationProfile
  reported : Covers outcome.chunk command.position
  previous : blockOf world command.position = some outcome.previousBlockId

namespace BlockInteraction

theorem isValidBlockId_create (config : BlockInteractionConfig) (blockId : BlockId) :
    (create config).isValidBlockId blockId = true ↔ config.Allows blockId := by
  unfold create isValidBlockId sanitizeConfig BlockInteractionConfig.Allows
  by_cases hEmpty : config.validBlockIds = []
  · rw [if_pos hEmpty, if_pos (by rw [hEmpty]; rfl), List.contains_iff_mem]
  · rw [if_neg hEmpty, if_neg (by rwa [List.isEmpty_iff]), List.contains_iff_mem,
      List.mem_insert_iff]

section Apply

variable {s : BlockInteraction} {world : World F} {command : BlockUpdateCommand}

theorem valid_of_applied (h : (s.apply command world).1.status = .applied) :
    s.isValidBlockId command.blockId = true := by
  unfold apply at h
  split at h
  · cases h
  · rename_i hValid
    simpa using hValid

/-- A valid command, by the block that it finds. -/
theorem apply_of_valid (hValid : s.isValidBlockId command.blockId = true) {current : BlockId}
    (hBlock : blockOf world command.position = some current) :
    (s.apply command world).1.previousBlockId = current ∧
      ((s.apply command world).1.status = .applied ↔
        (current = kAirBlockId ↔ command.blockId ≠ kAirBlockId)) := by
  have hFound : world.blockAt command.worldX command.worldY command.worldZ = some current := hBlock
  obtain ⟨hNonneg, chunk, -, hWritten⟩ := World.setBlock_of_blockAt hFound command.blockId
  have hAxis : ∀ axis, 0 ≤ axis → worldToChunkAxis axis = some (axis / kChunkSize) :=
    fun axis hAxis => if_neg (by omega)
  unfold apply
  rw [hValid, hFound]
  dsimp only
  rw [hWritten, hAxis _ hNonneg.1, hAxis _ hNonneg.2.1, hAxis _ hNonneg.2.2]
  by_cases hAir : current = kAirBlockId
  · by_cases hNew : command.blockId = kAirBlockId
    · simp [hAir, hNew]
    · simp [hAir, hNew]
  · by_cases hNew : command.blockId = kAirBlockId
    · simp [hAir, hNew]
    · by_cases hSame : current = command.blockId
      · simp [hSame, hNew]
      · simp [hAir, hNew, hSame]

theorem exists_block_of_applied (h : (s.apply command world).1.status = .applied) :
    ∃ current, blockOf world command.position = some current := by
  rcases s.apply_cases command world with ⟨hNot, -⟩ | ⟨-, hBlock, -⟩
  · exact absurd h hNot
  · exact hBlock

/-- What an applied command leaves. -/
theorem carriedOut_of_applied (h : (s.apply command world).1.status = .applied) :
    CarriedOut world command (s.apply command world).1 (s.apply command world).2 := by
  obtain ⟨current, hBlock⟩ := exists_block_of_applied h
  have hFound : world.blockAt command.worldX command.worldY command.worldZ = some current := hBlock
  rcases s.apply_cases command world with ⟨hNot, -⟩ | ⟨-, -, hAfter, hX, hY, hZ⟩
  · exact absurd h hNot
  obtain ⟨-, chunk, hChunk, hWritten⟩ := World.setBlock_of_blockAt hFound command.blockId
  have hRead : ∀ position, blockOf (s.apply command world).2 position =
      if position = command.position then some command.blockId else blockOf world position := by
    rintro ⟨x, y, z⟩
    rw [hAfter]
    unfold blockOf BlockUpdateCommand.position
    rw [World.blockAt_setBlock hFound]
    simp only [BlockPos.mk.injEq]
  refine ⟨?_, fun position hOther => ?_, fun coord => ?_, ?_, ?_, ?_⟩
  · rw [hRead, if_pos rfl]
  · rw [hRead, if_neg hOther]
  · rw [hAfter, hWritten]
    dsimp only
    rw [UnorderedMap.find_set]
    split
    · rename_i hCoord
      rw [hCoord, hChunk]
      rfl
    · rfl
  · rw [hAfter, hWritten]
    exact ⟨rfl, rfl⟩
  · rw [covers_iff, BlockUpdateOutcome.chunk, hX, hY, hZ]
    rfl
  · rw [(apply_of_valid (valid_of_applied h) hBlock).1]
    exact hBlock

end Apply

/-- A command is applied exactly when the rules permit it. -/
theorem applied_iff_permits (config : BlockInteractionConfig) (world : World F)
    (command : BlockUpdateCommand) :
    ((create config).apply command world).1.status = .applied ↔ Permits config world command := by
  constructor
  · intro h
    have hValid := valid_of_applied h
    obtain ⟨current, hBlock⟩ := exists_block_of_applied h
    have hFound : world.blockAt command.worldX command.worldY command.worldZ = some current :=
      hBlock
    obtain ⟨hNonneg, chunk, hChunk, -⟩ := World.setBlock_of_blockAt hFound command.blockId
    exact ⟨(isValidBlockId_create config _).mp hValid, hNonneg, ⟨_, chunk, hChunk, covers_iff.mpr rfl⟩,
      ⟨current, hBlock, (apply_of_valid hValid hBlock).2.mp h⟩⟩
  · intro h
    obtain ⟨current, hBlock, hOneAir⟩ := h.oneAir
    exact (apply_of_valid ((isValidBlockId_create config _).mpr h.valid) hBlock).2.mpr hOneAir

/-- The applied commands at a position, in the order of the history. -/
def appliedAt (s : BlockInteraction) (position : BlockPos) :
    World F → List BlockUpdateCommand → List BlockUpdateCommand
  | _, [] => []
  | world, command :: rest =>
      let result := s.apply command world
      if result.1.status = .applied ∧ command.position = position then
        command :: s.appliedAt position result.2 rest
      else s.appliedAt position result.2 rest

/-- An applied command turns air into a block or a block into air. -/
theorem solidAt_of_applied {s : BlockInteraction} {world : World F} {command : BlockUpdateCommand}
    (h : (s.apply command world).1.status = .applied) :
    solidAt world command.position = !command.places ∧
      solidAt (s.apply command world).2 command.position = command.places := by
  obtain ⟨current, hBlock⟩ := exists_block_of_applied h
  have hOneAir := (apply_of_valid (valid_of_applied h) hBlock).2.mp h
  unfold solidAt BlockUpdateCommand.places
  rw [hBlock, (carriedOut_of_applied h).written, Option.any_some, Option.any_some]
  refine ⟨?_, rfl⟩
  by_cases hAir : current = kAirBlockId
  · simp [hAir, hOneAir.mp hAir]
  · have hNew : command.blockId = kAirBlockId := by
      by_contra hPlaced
      exact hAir (hOneAir.mpr hPlaced)
    simp [hAir, hNew]

/-- At every position, placing and breaking take turns, beginning with the one that the
world at the start allows. -/
theorem alternates (s : BlockInteraction) (position : BlockPos) (commands : List BlockUpdateCommand)
    (world : World F) :
    (solidAt world position ::
      (s.appliedAt position world commands).map BlockUpdateCommand.places).IsChain (· ≠ ·) := by
  induction commands generalizing world with
  | nil => exact List.isChain_singleton _
  | cons command rest ih =>
      have hLater := ih (s.apply command world).2
      unfold appliedAt
      dsimp only
      by_cases hHere : (s.apply command world).1.status = .applied ∧ command.position = position
      · obtain ⟨hApplied, rfl⟩ := hHere
        obtain ⟨hBefore, hAfter⟩ := solidAt_of_applied hApplied
        rw [hAfter] at hLater
        rw [if_pos ⟨hApplied, rfl⟩, List.map_cons, hBefore]
        exact List.IsChain.cons_cons (Bool.not_ne_self _) hLater
      · have hSame : solidAt (s.apply command world).2 position = solidAt world position := by
          rcases s.apply_cases command world with ⟨-, hWorld⟩ | ⟨hApplied, -⟩
          · rw [hWorld]
          · have hOther : position ≠ command.position := fun hPos => hHere ⟨hApplied, hPos.symm⟩
            rw [solidAt, (carriedOut_of_applied hApplied).elsewhere position hOther, solidAt]
        rw [if_neg hHere, ← hSame]
        exact hLater

/-- A command is applied exactly when the rules permit it, and then its block is written and
nothing else changes; a command that is not applied changes nothing. In every history of
commands the applied ones at a position alternate between placing and breaking. -/
theorem block_interaction (config : BlockInteractionConfig) (world : World F) :
    (∀ command : BlockUpdateCommand,
      let result := (create config).apply command world
      (result.1.status = .applied ↔ Permits config world command) ∧
        (result.1.status = .applied → CarriedOut world command result.1 result.2) ∧
        (result.1.status ≠ .applied → result.2 = world)) ∧
    ∀ (commands : List BlockUpdateCommand) (position : BlockPos),
      (solidAt world position ::
        ((create config).appliedAt position world commands).map
          BlockUpdateCommand.places).IsChain (· ≠ ·) := by
  refine ⟨fun command => ⟨applied_iff_permits config world command, carriedOut_of_applied, ?_⟩,
    fun commands position => (create config).alternates position commands world⟩
  intro hNot
  rcases (create config).apply_cases command world with ⟨-, hWorld⟩ | ⟨hApplied, -⟩
  · exact hWorld
  · exact absurd hApplied hNot

end BlockInteraction

end DevyFps.Server
