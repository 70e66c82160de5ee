import DevyFps.Foundations.Floating

/-! The parameters of world generation and the values they are brought back to when
they make no sense. -/

namespace DevyFps.Voxel

open Foundations FloatFormat

inductive PoiDensity where
  | low
  | medium
  | high
  deriving DecidableEq, Repr

structure PoiTypeToggles where
  outpost : Bool := true
  ruins : Bool := true
  lootShrine : Bool := true
  deriving DecidableEq

variable {F : Type} [SingleFloat F]

structure WorldExpansionProfile (F : Type) [SingleFloat F] where
  enabled : Bool := true
  poiDensity : PoiDensity := .medium
  cellSizeChunks : Int := 4
  jitterUnits : Int := 24
  minPoiSpacingUnits : Int := 96
  poiTypes : PoiTypeToggles := {}
  lootBiasMultiplier : F := ofRat 1.25

structure WorldGenerationProfile (F : Type) [SingleFloat F] where
  worldSeed : UInt32 := 1337
  expansion : WorldExpansionProfile F := {}

def kDefaultCellSizeChunks : Int := 4

def kDefaultJitterUnits : Int := 24

def kDefaultMinPoiSpacingUnits : Int := 96

def kDefaultLootBiasMultiplier : F := ofRat 1.25

/-- Sanitising one group of parameters; the jitter bound uses the cell size already set. -/
def sanitizeExpansion (expansion : WorldExpansionProfile F) : WorldExpansionProfile F :=
  let cellSizeChunks :=
    if expansion.cellSizeChunks ≤ 0 then kDefaultCellSizeChunks else expansion.cellSizeChunks
  let jitterUnits :=
    if expansion.jitterUnits < 0 then kDefaultJitterUnits else expansion.jitterUnits
  let maxJitterUnits := max 0 (cellSizeChunks * 32 / 2 - 1)
  let poiTypes := expansion.poiTypes
  { expansion with
    cellSizeChunks := cellSizeChunks
    jitterUnits := max 0 (min jitterUnits maxJitterUnits)
    minPoiSpacingUnits :=
      if expansion.minPoiSpacingUnits < 0 then kDefaultMinPoiSpacingUnits
      else expansion.minPoiSpacingUnits
    lootBiasMultiplier :=
      if !isFinite expansion.lootBiasMultiplier || le expansion.lootBiasMultiplier (ofRat 0) then
        kDefaultLootBiasMultiplier
      else expansion.lootBiasMultiplier
    poiTypes :=
      if !poiTypes.outpost && !poiTypes.ruins && !poiTypes.lootShrine then
        { poiTypes with outpost := true }
      else poiTypes }

def sanitizeWorldGenerationProfile (profile : WorldGenerationProfile F) :
    WorldGenerationProfile F :=
  { profile with expansion := sanitizeExpansion profile.expansion }

def poiDensitySpawnProbability (density : PoiDensity) : F :=
  match density with
  | .low => ofRat 0.18
  | .medium => ofRat 0.32
  | .high => ofRat 0.52

/-- What sanitising guarantees: cells have a size, jitter keeps every centre inside its
own cell, and some type is enabled. -/
structure WorldExpansionProfile.Sane (expansion : WorldExpansionProfile F) : Prop where
  cellSize : 0 < expansion.cellSizeChunks
  jitter : 0 ≤ expansion.jitterUnits
  jitterInCell : 2 * expansion.jitterUnits + 2 ≤ expansion.cellSizeChunks * 32
  spacing : 0 ≤ expansion.minPoiSpacingUnits
  someType : (expansion.poiTypes.outpost || expansion.poiTypes.ruins ||
    expansion.poiTypes.lootShrine) = true

theorem sane_sanitize (profile : WorldGenerationProfile F) :
    (sanitizeWorldGenerationProfile profile).expansion.Sane where
  cellSize := by
    simp only [sanitizeWorldGenerationProfile, sanitizeExpansion, kDefaultCellSizeChunks]
    split <;> omega
  jitter := by
    simp only [sanitizeWorldGenerationProfile, sanitizeExpansion]
    omega
  jitterInCell := by
    simp only [sanitizeWorldGenerationProfile, sanitizeExpansion, kDefaultCellSizeChunks,
      kDefaultJitterUnits]
    split <;> split <;> omega
  spacing := by
    simp only [sanitizeWorldGenerationProfile, sanitizeExpansion, kDefaultMinPoiSpacingUnits]
    split <;> omega
  someType := by
    simp only [sanitizeWorldGenerationProfile, sanitizeExpansion]
    split
    · rfl
    · rename_i hSome
      revert hSome
      cases profile.expansion.poiTypes.outpost <;> cases profile.expansion.poiTypes.ruins <;>
        cases profile.expansion.poiTypes.lootShrine <;> decide

end DevyFps.Voxel
