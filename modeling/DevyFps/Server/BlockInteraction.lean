import DevyFps.Shared.Voxel.World

/-! Breaking and placing blocks: which commands are applied, and what they change. -/

namespace DevyFps.Server

open Foundations Voxel

variable {F : Type} [SingleFloat F]

/-- The valid block ids, a set. -/
structure BlockInteractionConfig where
  validBlockIds : List BlockId := []

inductive BlockUpdateStatus where
  | applied
  | outOfBounds
  | invalidBlockId
  | conflictAlreadyEmpty
  | conflictAlreadyOccupied
  | noChange
  deriving DecidableEq, Repr

structure BlockUpdateCommand where
  playerId : Nat := 0
  worldX : Int := 0
  worldY : Int := 0
  worldZ : Int := 0
  blockId : BlockId := 0

structure BlockUpdateOutcome where
  status : BlockUpdateStatus := .outOfBounds
  previousBlockId : BlockId := 0
  chunkX : Int := 0
  chunkY : Int := 0
  chunkZ : Int := 0
  deriving DecidableEq

def BlockUpdateOutcome.applied (outcome : BlockUpdateOutcome) : Bool :=
  decide (outcome.status = .applied)

structure BlockInteraction where
  config : BlockInteractionConfig

def kAirBlockId : BlockId := 0

def worldToChunkAxis (worldAxis : Int) : Option Int :=
  if worldAxis < 0 then none else some (worldAxis / kChunkSize)

namespace BlockInteraction

def sanitizeConfig (config : BlockInteractionConfig) : BlockInteractionConfig :=
  if config.validBlockIds.isEmpty then { config with validBlockIds := [0, 1, 2, 3] }
  else { config with validBlockIds := config.validBlockIds.insert kAirBlockId }

/-- The constructor. -/
def create (config : BlockInteractionConfig) : BlockInteraction where
  config := sanitizeConfig config

def isValidBlockId (s : BlockInteraction) (blockId : BlockId) : Bool :=
  s.config.validBlockIds.contains blockId

def apply (s : BlockInteraction) (command : BlockUpdateCommand) (world : World F) :
    BlockUpdateOutcome × World F :=
  if !s.isValidBlockId command.blockId then ({ status := .invalidBlockId }, world)
  else
    match world.blockAt command.worldX command.worldY command.worldZ with
    | none => ({ status := .outOfBounds }, world)
    | some previous =>
        let outcome : BlockUpdateOutcome := { previousBlockId := previous }
        if command.blockId = kAirBlockId ∧ previous = kAirBlockId then
          ({ outcome with status := .conflictAlreadyEmpty }, world)
        else if command.blockId ≠ kAirBlockId ∧ previous ≠ kAirBlockId then
          if previous = command.blockId then ({ outcome with status := .noChange }, world)
          else ({ outcome with status := .conflictAlreadyOccupied }, world)
        else
          let written :=
            world.setBlock command.worldX command.worldY command.worldZ command.blockId
          if !written.1 then ({ outcome with status := .outOfBounds }, written.2)
          else
            match worldToChunkAxis command.worldX, worldToChunkAxis command.worldY,
              worldToChunkAxis command.worldZ with
            | some cx, some cy, some cz =>
                ({ outcome with status := .applied, chunkX := cx, chunkY := cy, chunkZ := cz },
                  written.2)
            | _, _, _ => ({ outcome with status := .outOfBounds }, written.2)

/-- A command either leaves the world alone and is not applied, or is applied: then the
outcome names the chunk of its position, where its block is written. -/
theorem apply_cases (s : BlockInteraction) (command : BlockUpdateCommand) (world : World F) :
    ((s.apply command world).1.status ≠ .applied ∧ (s.apply command world).2 = world) ∨
      (s.apply command world).1.status = .applied ∧
        (∃ previous, world.blockAt command.worldX command.worldY command.worldZ = some previous) ∧
        (s.apply command world).2 =
          (world.setBlock command.worldX command.worldY command.worldZ command.blockId).2 ∧
        (s.apply command world).1.chunkX = command.worldX / kChunkSize ∧
        (s.apply command world).1.chunkY = command.worldY / kChunkSize ∧
        (s.apply command world).1.chunkZ = command.worldZ / kChunkSize := by
  unfold apply
  split
  · exact Or.inl ⟨by simp, rfl⟩
  · cases hBlock : world.blockAt command.worldX command.worldY command.worldZ with
    | none => exact Or.inl ⟨by simp, rfl⟩
    | some previous =>
        obtain ⟨hNonneg, chunk, _, hWritten⟩ := World.setBlock_of_blockAt hBlock command.blockId
        dsimp only
        split
        · exact Or.inl ⟨by simp, rfl⟩
        · split
          · split
            · exact Or.inl ⟨by simp, rfl⟩
            · exact Or.inl ⟨by simp, rfl⟩
          · have hAxis : ∀ axis, 0 ≤ axis → worldToChunkAxis axis = some (axis / kChunkSize) :=
              fun axis hAxis => if_neg (by omega)
            rw [hWritten, hAxis _ hNonneg.1, hAxis _ hNonneg.2.1, hAxis _ hNonneg.2.2]
            exact Or.inr ⟨rfl, ⟨previous, rfl⟩, rfl, rfl, rfl, rfl⟩

/-- Breaking a block that is there is applied. -/
theorem apply_break (s : BlockInteraction) {command : BlockUpdateCommand} {world : World F}
    {previous : BlockId} (hValid : s.isValidBlockId kAirBlockId = true)
    (hAir : command.blockId = kAirBlockId)
    (hBlock : world.blockAt command.worldX command.worldY command.worldZ = some previous)
    (hSolid : previous ≠ kAirBlockId) : (s.apply command world).1.status = .applied := by
  obtain ⟨hNonneg, chunk, _, hWritten⟩ := World.setBlock_of_blockAt hBlock command.blockId
  have hAxis : ∀ axis, 0 ≤ axis → worldToChunkAxis axis = some (axis / kChunkSize) :=
    fun axis hAxis => if_neg (by omega)
  unfold apply
  rw [hAir] at hWritten ⊢
  rw [hValid, hBlock]
  dsimp only
  rw [hWritten, hAxis _ hNonneg.1, hAxis _ hNonneg.2.1, hAxis _ hNonneg.2.2]
  simp [hSolid]

end BlockInteraction

end DevyFps.Server
