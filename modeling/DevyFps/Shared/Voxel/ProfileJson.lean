import DevyFps.Foundations.Bytes
import DevyFps.Shared.Net.JsonNumbers
import DevyFps.Shared.Voxel.WorldGenerationProfile

/-! A generation profile as a JSON document. What is written is sanitised, and reading it back
gives the sanitised profile, in whatever form its integers arrive. -/

namespace DevyFps.Voxel

open Foundations FloatFormat Net

variable {F : Type} [SingleFloat F]

def PoiDensity.toString : PoiDensity → String
  | .low => "low"
  | .medium => "medium"
  | .high => "high"

def parsePoiDensity (value : Bytes) : Option PoiDensity :=
  let lowered := Bytes.lowercase value
  if lowered = Bytes.ofString "low" then some .low
  else if lowered = Bytes.ofString "medium" then some .medium
  else if lowered = Bytes.ofString "high" then some .high
  else none

def worldGenerationProfileToJson (rawProfile : WorldGenerationProfile F) : Document F :=
  let profile := sanitizeWorldGenerationProfile rawProfile
  let expansion := profile.expansion
  .object
    [("cell_size_chunks", .numberInteger (Int64.ofInt expansion.cellSizeChunks)),
      ("expansion_enabled", .boolean expansion.enabled),
      ("jitter_units", .numberInteger (Int64.ofInt expansion.jitterUnits)),
      ("loot_bias_multiplier", .numberFloat (SingleFloat.widen expansion.lootBiasMultiplier)),
      ("min_poi_spacing_units", .numberInteger (Int64.ofInt expansion.minPoiSpacingUnits)),
      ("poi_density", .string expansion.poiDensity.toString),
      ("poi_types", .object
        [("loot_shrine", .boolean expansion.poiTypes.lootShrine),
          ("outpost", .boolean expansion.poiTypes.outpost),
          ("ruins", .boolean expansion.poiTypes.ruins)]),
      ("seed", .numberUnsigned profile.worldSeed.toUInt64)]

/-- An unsigned number is an integer too and is converted without a look at its size. -/
def jsonToI64 : Document F → Option Int
  | .numberInteger raw => some raw.toInt
  | .numberUnsigned raw => some raw.toInt64.toInt
  | _ => none

def jsonToFloat (value : Document F) : Option F :=
  if !value.isNumber then none
  else
    value.getDouble.toOption.bind fun raw =>
      if lt raw (lowestFloat (F := F)) || lt (maxFloat (F := F)) raw || !isFinite raw then none
      else some (SingleFloat.narrow raw)

/-- The member of a document as it is read, or the default where there is none. -/
def readField {α : Type} (value : Document F) (field : String) (fallback : α)
    (read : Document F → Option α) : Option α :=
  match value.member field with
  | some written => read written
  | none => some fallback

def readBetween (low high : Int) (value : Document F) : Option Int :=
  (jsonToI64 value).bind fun parsed =>
    if parsed < low ∨ high < parsed then none else some parsed

def readFlag : Document F → Option Bool
  | .boolean flag => some flag
  | _ => none

def readDensity : Document F → Option PoiDensity
  | .string text => parsePoiDensity (Bytes.ofString text)
  | _ => none

def readPoiTypes (value : Document F) : Option PoiTypeToggles :=
  if !value.isObject then none
  else do
    let outpost ← readField value "outpost" true readFlag
    let ruins ← readField value "ruins" true readFlag
    let lootShrine ← readField value "loot_shrine" true readFlag
    return { outpost, ruins, lootShrine }

def readMultiplier (value : Document F) : Option F :=
  (jsonToFloat value).bind fun parsed => if le parsed (ofRat 0) then none else some parsed

def worldGenerationProfileFromJson (value : Document F) : Option (WorldGenerationProfile F) :=
  if !value.isObject then none
  else do
    let seed ← readField value "seed" 1337 (readBetween 0 (2 ^ 32 - 1))
    let enabled ← readField value "expansion_enabled" true readFlag
    let poiDensity ← readField value "poi_density" .medium readDensity
    let cellSizeChunks ← readField value "cell_size_chunks" 4 (readBetween 1 (2 ^ 31 - 1))
    let jitterUnits ← readField value "jitter_units" 24 (readBetween 0 (2 ^ 31 - 1))
    let minPoiSpacingUnits ←
      readField value "min_poi_spacing_units" 96 (readBetween 0 (2 ^ 31 - 1))
    let poiTypes ← readField value "poi_types" {} readPoiTypes
    let lootBiasMultiplier ←
      readField value "loot_bias_multiplier" (ofRat 1.25) readMultiplier
    return sanitizeWorldGenerationProfile
      { worldSeed := UInt32.ofNat seed.toNat
        expansion :=
          { enabled, poiDensity, cellSizeChunks, jitterUnits, minPoiSpacingUnits, poiTypes
            lootBiasMultiplier } }

/-- The values fit the types of their fields, and the size of a cell can be computed. -/
structure WorldGenerationProfile.Fits (profile : WorldGenerationProfile F) : Prop where
  cellSize : -2 ^ 31 ≤ profile.expansion.cellSizeChunks * 32 ∧
    profile.expansion.cellSizeChunks * 32 < 2 ^ 31
  jitter : -2 ^ 31 ≤ profile.expansion.jitterUnits ∧ profile.expansion.jitterUnits < 2 ^ 31
  spacing : -2 ^ 31 ≤ profile.expansion.minPoiSpacingUnits ∧
    profile.expansion.minPoiSpacingUnits < 2 ^ 31

/-- The values of a sanitised profile can be read back. -/
structure WorldGenerationProfile.Readable (profile : WorldGenerationProfile F) : Prop where
  cellSize : 1 ≤ profile.expansion.cellSizeChunks ∧ profile.expansion.cellSizeChunks ≤ 2 ^ 31 - 1
  jitter : 0 ≤ profile.expansion.jitterUnits ∧ profile.expansion.jitterUnits ≤ 2 ^ 31 - 1
  spacing : 0 ≤ profile.expansion.minPoiSpacingUnits ∧
    profile.expansion.minPoiSpacingUnits ≤ 2 ^ 31 - 1

/-- A sanitized profile can be read back. -/
theorem WorldGenerationProfile.Fits.bounds_sanitize {profile : WorldGenerationProfile F}
    (h : profile.Fits) : (sanitizeWorldGenerationProfile profile).Readable := by
  have hSane := sane_sanitize profile
  have hCell := h.cellSize
  have hJitter := h.jitter
  have hSpacing := h.spacing
  refine ⟨⟨hSane.cellSize, ?_⟩, ⟨hSane.jitter, ?_⟩, ⟨hSane.spacing, ?_⟩⟩
  · simp only [sanitizeWorldGenerationProfile, sanitizeExpansion, kDefaultCellSizeChunks]
    split <;> omega
  · simp only [sanitizeWorldGenerationProfile, sanitizeExpansion, kDefaultCellSizeChunks,
      kDefaultJitterUnits]
    split <;> split <;> omega
  · simp only [sanitizeWorldGenerationProfile, sanitizeExpansion, kDefaultMinPoiSpacingUnits]
    split <;> omega

/-- A format whose finite values keep their value on the way through double precision, and in
which the default multiplier is a positive number. -/
class KeepsFinite (F : Type) [SingleFloat F] : Prop where
  narrow_widen (x : F) : isFinite x = true → SingleFloat.narrow (SingleFloat.widen x) = x
  not_below (x : F) : isFinite x = true →
    lt (SingleFloat.widen x) (lowestFloat (F := F)) = false
  not_above (x : F) : isFinite x = true → lt (maxFloat (F := F)) (SingleFloat.widen x) = false
  finite (x : F) : isFinite x = true → isFinite (SingleFloat.widen x) = true
  default_finite : isFinite (kDefaultLootBiasMultiplier : F) = true
  default_positive : le (kDefaultLootBiasMultiplier : F) (ofRat 0) = false

/-- The multiplier after sanitising. -/
def sanitizeMultiplier (lootBiasMultiplier : F) : F :=
  if !isFinite lootBiasMultiplier || le lootBiasMultiplier (ofRat 0) then
    kDefaultLootBiasMultiplier
  else lootBiasMultiplier

/-- To sanitize a multiplier twice does no more than once. -/
theorem sanitizeMultiplier_idem (x : F) :
    sanitizeMultiplier (sanitizeMultiplier x) = sanitizeMultiplier x := by
  unfold sanitizeMultiplier
  split_ifs <;> rfl

/-- Parameters that make sense are left alone. -/
theorem sanitizeExpansion_of_sane {expansion : WorldExpansionProfile F} (h : expansion.Sane)
    (hMultiplier : sanitizeMultiplier expansion.lootBiasMultiplier = expansion.lootBiasMultiplier) :
    sanitizeExpansion expansion = expansion := by
  have hCell := h.cellSize
  have hJitter := h.jitter
  have hInCell := h.jitterInCell
  have hClamped : max 0 (min expansion.jitterUnits (max 0 (expansion.cellSizeChunks * 32 / 2 - 1))) =
      expansion.jitterUnits := by omega
  have hTypes : ¬ (!expansion.poiTypes.outpost && !expansion.poiTypes.ruins &&
      !expansion.poiTypes.lootShrine) = true := by
    have hSome := h.someType
    revert hSome
    cases expansion.poiTypes.outpost <;> cases expansion.poiTypes.ruins <;>
      cases expansion.poiTypes.lootShrine <;> decide
  unfold sanitizeExpansion
  dsimp only
  rw [if_neg (not_le.mpr hCell), if_neg (not_lt.mpr hJitter), if_neg (not_lt.mpr h.spacing),
    if_neg hTypes, hClamped]
  unfold sanitizeMultiplier at hMultiplier
  rw [hMultiplier]

/-- Sanitising again changes nothing. -/
theorem sanitize_sanitize (profile : WorldGenerationProfile F) :
    sanitizeWorldGenerationProfile (sanitizeWorldGenerationProfile profile) =
      sanitizeWorldGenerationProfile profile := by
  have hSame : sanitizeExpansion (sanitizeExpansion profile.expansion) =
      sanitizeExpansion profile.expansion :=
    sanitizeExpansion_of_sane (sane_sanitize profile) (sanitizeMultiplier_idem _)
  exact congrArg (WorldGenerationProfile.mk profile.worldSeed) hSame

/-! Reading a value that is equal to a written one. -/

/-- An integer that fits is read as it is. -/
theorem jsonToI64_of_integer {value : Document F} {n : Int} (h : value.integer = some n)
    (hBound : n < 2 ^ 63) : jsonToI64 value = some n := by
  cases value with
  | numberInteger raw => exact h
  | numberUnsigned raw =>
      have hRaw : (raw.toNat : Int) = n := Option.some.inj h
      have hSame : raw.toInt64.toInt = raw.toNat := Json.toInt_toInt64_of_lt (by omega)
      exact congrArg some (hSame.trans hRaw)
  | _ => cases h

/-- An integer in its range is read from any equal document. -/
theorem readBetween_of_equal {value : Document F} {n low high : Int}
    (h : value.integer = some n) (hRange : low ≤ n ∧ n ≤ high) (hHigh : high < 2 ^ 63) :
    readBetween low high value = some n := by
  unfold readBetween
  rw [jsonToI64_of_integer h (by omega)]
  exact if_neg (by omega)

theorem eq_of_equal_boolean {value : Document F} {flag : Bool} (h : value.Equal (.boolean flag)) :
    value = .boolean flag := by
  unfold Json.Equal at h
  cases value with
  | numberInteger raw =>
      simp only [Json.canonical] at h
      split at h <;> cases h
  | boolean other => exact h
  | _ => cases h

theorem eq_of_equal_string {value : Document F} {text : String} (h : value.Equal (.string text)) :
    value = .string text := by
  unfold Json.Equal at h
  cases value with
  | numberInteger raw =>
      simp only [Json.canonical] at h
      split at h <;> cases h
  | string other => exact h
  | _ => cases h

theorem eq_of_equal_numberFloat {value : Document F} {x : SingleFloat.Double F}
    (h : value.Equal (.numberFloat x)) : value = .numberFloat x := by
  unfold Json.Equal at h
  cases value with
  | numberInteger raw =>
      simp only [Json.canonical] at h
      split at h <;> cases h
  | numberFloat other => exact h
  | _ => cases h

/-- A field is read from any document that equals the written one. -/
theorem readField_of_equal {α : Type} {value root written : Document F} (h : value.Equal root)
    {field : String} (hMember : root.member field = some written) {read : Document F → Option α}
    {a : α} (hRead : ∀ other : Document F, other.Equal written → read other = some a)
    (fallback : α) : readField value field fallback read = some a := by
  obtain ⟨other, hOther, hSame⟩ := h.member hMember
  unfold readField
  rw [hOther]
  exact hRead other hSame

/-- The values of a profile are read back from equal ones. -/
theorem readFlag_of_equal {flag : Bool} (value : Document F) (h : value.Equal (.boolean flag)) :
    readFlag value = some flag := by
  rw [eq_of_equal_boolean h]
  rfl

theorem readDensity_of_equal {density : PoiDensity} (value : Document F)
    (h : value.Equal (.string density.toString)) : readDensity value = some density := by
  rw [eq_of_equal_string h]
  change parsePoiDensity (Bytes.ofString density.toString) = some density
  cases density <;> decide

theorem readPoiTypes_of_equal {toggles : PoiTypeToggles} (value : Document F)
    (h : value.Equal (.object [("loot_shrine", .boolean toggles.lootShrine),
      ("outpost", .boolean toggles.outpost), ("ruins", .boolean toggles.ruins)])) :
    readPoiTypes value = some toggles := by
  unfold readPoiTypes
  rw [h.isObject, readField_of_equal h rfl readFlag_of_equal true,
    readField_of_equal h rfl readFlag_of_equal true,
    readField_of_equal h rfl readFlag_of_equal true]
  rfl

/-- A finite positive multiplier is read back. -/
theorem readMultiplier_of_equal [KeepsFinite F] {x : F} (hFinite : isFinite x = true)
    (hPositive : le x (ofRat 0) = false) (value : Document F)
    (h : value.Equal (.numberFloat (SingleFloat.widen x))) : readMultiplier value = some x := by
  rw [eq_of_equal_numberFloat h]
  have hRange : (lt (SingleFloat.widen x) (lowestFloat (F := F)) ||
      lt (maxFloat (F := F)) (SingleFloat.widen x) || !isFinite (SingleFloat.widen x)) = false := by
    rw [KeepsFinite.not_below x hFinite, KeepsFinite.not_above x hFinite,
      KeepsFinite.finite x hFinite]
    rfl
  have hRead : jsonToFloat (.numberFloat (SingleFloat.widen x) : Document F) = some x := by
    change (if _ then none else some (SingleFloat.narrow (SingleFloat.widen x))) = _
    rw [hRange, KeepsFinite.narrow_widen x hFinite]
    rfl
  unfold readMultiplier
  rw [hRead]
  change (if le x (ofRat 0) = true then none else some x) = some x
  rw [hPositive]
  rfl

/-- The multiplier that sanitising leaves is a positive number. -/
theorem sanitizeMultiplier_good [KeepsFinite F] (x : F) :
    isFinite (sanitizeMultiplier x) = true ∧ le (sanitizeMultiplier x) (ofRat 0) = false := by
  unfold sanitizeMultiplier
  split_ifs with hBad
  · exact ⟨KeepsFinite.default_finite, KeepsFinite.default_positive⟩
  · simpa using hBad

/-- Reading a document that is equal to a written profile gives the sanitised profile. -/
theorem fromJson_of_equal_toJson [KeepsFinite F] {profile : WorldGenerationProfile F}
    (hFits : profile.Fits) {value : Document F}
    (h : value.Equal (worldGenerationProfileToJson profile)) :
    worldGenerationProfileFromJson value = some (sanitizeWorldGenerationProfile profile) := by
  have hBounds := hFits.bounds_sanitize
  generalize hSanitized : sanitizeWorldGenerationProfile profile = sanitized at hBounds ⊢
  obtain ⟨hFinite, hPositive⟩ : isFinite sanitized.expansion.lootBiasMultiplier = true ∧
      le sanitized.expansion.lootBiasMultiplier (ofRat 0) = false := by
    rw [← hSanitized]
    exact sanitizeMultiplier_good _
  obtain ⟨hCell, hJitter, hSpacing⟩ := hBounds
  have hInteger : ∀ {low high n : Int} (_ : low ≤ n ∧ n ≤ high) (_ : 0 ≤ n ∧ n < 2 ^ 31)
      (_ : high < 2 ^ 63) (other : Document F), other.Equal (.numberInteger (Int64.ofInt n)) →
      readBetween low high other = some n := by
    intro low high n hRange hInt hHigh other hOther
    have hWritten : (Int64.ofInt n).toInt = n := Int64.toInt_ofInt_of_le (by omega) (by omega)
    refine readBetween_of_equal ?_ hRange hHigh
    rw [hOther.integer]
    exact congrArg some hWritten
  have hSeed : ∀ other : Document F, other.Equal (.numberUnsigned sanitized.worldSeed.toUInt64) →
      readBetween 0 (2 ^ 32 - 1) other = some (sanitized.worldSeed.toNat : Int) := by
    intro other hOther
    have hNat := sanitized.worldSeed.toNat_lt
    refine readBetween_of_equal ?_ (by omega) (by decide)
    rw [hOther.integer]
    exact congrArg some (congrArg Nat.cast (UInt32.toNat_toUInt64 _))
  unfold worldGenerationProfileToJson at h
  rw [hSanitized] at h
  unfold worldGenerationProfileFromJson
  rw [h.isObject, readField_of_equal h rfl hSeed, readField_of_equal h rfl readFlag_of_equal,
    readField_of_equal h rfl readDensity_of_equal,
    readField_of_equal h rfl (hInteger hCell (by omega) (by decide)),
    readField_of_equal h rfl (hInteger hJitter (by omega) (by decide)),
    readField_of_equal h rfl (hInteger hSpacing (by omega) (by decide)),
    readField_of_equal h rfl readPoiTypes_of_equal,
    readField_of_equal h rfl (readMultiplier_of_equal hFinite hPositive)]
  have hSeedBack : UInt32.ofNat (sanitized.worldSeed.toNat : Int).toNat = sanitized.worldSeed :=
    UInt32.ofNat_toNat
  have hSame : sanitizeWorldGenerationProfile sanitized = sanitized := by
    rw [← hSanitized, sanitize_sanitize]
  change some (sanitizeWorldGenerationProfile
    { sanitized with worldSeed := UInt32.ofNat (sanitized.worldSeed.toNat : Int).toNat }) = _
  rw [hSeedBack]
  exact congrArg some hSame

end DevyFps.Voxel
