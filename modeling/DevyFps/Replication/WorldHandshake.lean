import DevyFps.Foundations.BoundedRat
import DevyFps.Replication.ReplicaContent
import DevyFps.Shared.Voxel.ProfileJson

/-! The worlds after a join. The client receives a profile and no blocks, and makes each chunk
when it needs it; the chunk is the one that the server generated. -/

namespace DevyFps

open Foundations FloatFormat Net Voxel

variable {F : Type} [SingleFloat F]

namespace Voxel.World

/-- The coordinates of a generated world. -/
structure Within (chunksX chunksZ worldHeight : Int) (coord : ChunkCoord) : Prop where
  x : 0 ≤ coord.x ∧ coord.x < chunksX
  y : 0 ≤ coord.y ∧ coord.y < (worldHeight + kChunkSize - 1).tdiv kChunkSize
  z : 0 ≤ coord.z ∧ coord.z < chunksZ

end Voxel.World

namespace Replication

/-- The world of a client and the profile that it goes by. -/
structure ClientWorld (F : Type) [SingleFloat F] where
  worldGenerationProfile : WorldGenerationProfile F
  world : World F

namespace ClientWorld

/-- A client that goes by its own settings. -/
def start (settings : WorldGenerationProfile F) : ClientWorld F where
  worldGenerationProfile := sanitizeWorldGenerationProfile settings
  world := ({} : World F).setGenerationProfile (sanitizeWorldGenerationProfile settings)

/-- What a join accept does to the world. -/
def acceptWorldGen (s : ClientWorld F) (payload : Document F) : ClientWorld F :=
  let received :=
    match payload.member "world_gen" with
    | some worldGen => (worldGenerationProfileFromJson worldGen).getD s.worldGenerationProfile
    | none => s.worldGenerationProfile
  let profile := sanitizeWorldGenerationProfile received
  { worldGenerationProfile := profile
    world := (s.world.setGenerationProfile profile).clear }

def materialise (s : ClientWorld F) (coord : ChunkCoord) (worldHeight : Int) : ClientWorld F :=
  { s with world := (s.world.ensureGeneratedChunk coord worldHeight).2 }

def remove (s : ClientWorld F) (coord : ChunkCoord) : ClientWorld F :=
  { s with world := (s.world.removeChunk coord).2 }

end ClientWorld

inductive WorldEvent where
  | joined
  | materialised (coord : ChunkCoord)
  | removed (coord : ChunkCoord)

/-- What happens to the world of a client of one server: joins, and requests and removals of
chunks in any order. -/
inductive WorldStep (profile : WorldGenerationProfile F) (worldHeight : Int) :
    ClientWorld F → WorldEvent → ClientWorld F → Prop where
  | join (s : ClientWorld F) (payload worldGen : Document F)
      (hMember : payload.member "world_gen" = some worldGen)
      (hSent : worldGen.Equal (worldGenerationProfileToJson profile)) :
      WorldStep profile worldHeight s .joined (s.acceptWorldGen payload)
  | materialise (s : ClientWorld F) (coord : ChunkCoord) :
      WorldStep profile worldHeight s (.materialised coord) (s.materialise coord worldHeight)
  | remove (s : ClientWorld F) (coord : ChunkCoord) :
      WorldStep profile worldHeight s (.removed coord) (s.remove coord)

/-- The height limit was never raised above the server's, and since the last join the chunks
are those of the server's profile. -/
structure Handshaken (profile : WorldGenerationProfile F) (worldHeight : Int)
    (trace : List WorldEvent) (s : ClientWorld F) : Prop where
  height : s.world.maxHeight ≤ worldHeight
  pristine : .joined ∈ trace →
    Pristine (sanitizeWorldGenerationProfile profile) worldHeight s.world

/-- After a join the world is empty and goes by the server's profile. -/
theorem pristine_acceptWorldGen [KeepsFinite F] {profile : WorldGenerationProfile F}
    (hFits : profile.Fits) {worldHeight : Int} {s : ClientWorld F}
    (hHeight : s.world.maxHeight ≤ worldHeight) {payload worldGen : Document F}
    (hMember : payload.member "world_gen" = some worldGen)
    (hSent : worldGen.Equal (worldGenerationProfileToJson profile)) :
    Pristine (sanitizeWorldGenerationProfile profile) worldHeight
      (s.acceptWorldGen payload).world := by
  have hReceived : (s.acceptWorldGen payload).world.generationProfile =
      sanitizeWorldGenerationProfile (sanitizeWorldGenerationProfile
        (sanitizeWorldGenerationProfile profile)) := by
    unfold ClientWorld.acceptWorldGen
    rw [hMember]
    dsimp only
    rw [fromJson_of_equal_toJson hFits hSent]
    rfl
  refine ⟨?_, ?_, ?_⟩
  · rw [hReceived, sanitize_sanitize, sanitize_sanitize]
  · exact hHeight.trans (le_max_right 0 worldHeight)
  · intro coord chunk hFind
    have hNone : (∅ : UnorderedMap ChunkCoord Chunk).find coord = none :=
      UnorderedMap.find_empty coord
    exact absurd (hNone.symm.trans hFind) (Option.some_ne_none chunk).symm

theorem Handshaken.step [KeepsFinite F] {profile : WorldGenerationProfile F}
    (hFits : profile.Fits) {worldHeight : Int} (hPositive : 0 < worldHeight)
    {trace : List WorldEvent} {s t : ClientWorld F} {event : WorldEvent}
    (h : Handshaken profile worldHeight trace s) (hStep : WorldStep profile worldHeight s event t) :
    Handshaken profile worldHeight (trace ++ [event]) t := by
  have hBefore : ∀ {last : WorldEvent}, .joined ≠ last → .joined ∈ trace ++ [last] →
      Pristine (sanitizeWorldGenerationProfile profile) worldHeight s.world := by
    intro last hOther hMem
    refine h.pristine ((List.mem_append.mp hMem).resolve_right fun hLast => ?_)
    exact hOther (List.mem_singleton.mp hLast)
  cases hStep with
  | join payload worldGen hMember hSent =>
      exact ⟨h.height, fun _ => pristine_acceptWorldGen hFits h.height hMember hSent⟩
  | materialise coord =>
      refine ⟨?_, fun hJoined => (hBefore (by simp) hJoined).ensureGeneratedChunk hPositive coord⟩
      change (s.world.ensureGeneratedChunk coord worldHeight).2.maxHeight ≤ worldHeight
      rw [World.maxHeight_ensureGeneratedChunk, if_pos hPositive]
      exact max_le h.height le_rfl
  | remove coord =>
      exact ⟨h.height, fun hJoined => (hBefore (by simp) hJoined).removeChunk coord⟩

instance : KeepsFinite BoundedRat where
  narrow_widen x _ := BoundedRat.cut_val x
  not_below x _ := decide_eq_false (not_lt.mpr x.property.1)
  not_above x _ := decide_eq_false (not_lt.mpr x.property.2)
  finite _ _ := rfl
  default_finite := rfl
  default_positive := by decide +kernel

end Replication

end DevyFps
