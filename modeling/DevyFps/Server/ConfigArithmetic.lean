import DevyFps.Foundations.IntRange
import DevyFps.Server.ConfigFidelity
import DevyFps.Server.WorldReplication

/-! What `main` and the components compute from the settings of a valid configuration. The
ticks are computed in 64 bits and cut off; the other products are products of `int`s. -/

namespace DevyFps.Server

open Foundations FloatFormat Recording Reading Voxel
open Net (Document)

variable {F : Type} [SingleFloat F]

/-- `seconds_to_ticks` at a tick rate. -/
def secondsToTicks (tickRateHz seconds : Int) (floorTicks : UInt32) : UInt32 :=
  if seconds ≤ 0 ∨ tickRateHz ≤ 0 then floorTicks
  else
    let rawTicks := Int64.ofInt seconds * Int64.ofInt tickRateHz
    if rawTicks.toInt ≤ 0 then floorTicks
    else if rawTicks.toInt > 2 ^ 32 - 1 then UInt32.ofNat (2 ^ 32 - 1)
    else UInt32.ofNat rawTicks.toInt.toNat

/-- `map_chunks_y`. -/
def MapSettings.chunksY (map : MapSettings F) : Int :=
  let chunksY := (map.worldHeight + kChunkSize - 1).tdiv kChunkSize
  if chunksY ≤ 0 then 1 else chunksY

/-- A narrowed integer fits 32 bits. -/
theorem toInt_ofInt_lt (n : Int) : (Int32.ofInt n).toInt < 2 ^ 31 := Int32.toInt_lt _

/-- The replication as `main` constructs it, of the settings as `int`s. -/
def MapSettings.replication (map : MapSettings F) : WorldReplication :=
  WorldReplication.create
    { chunksX := (Int32.ofInt map.chunksX).toInt
      chunksY := (Int32.ofInt map.chunksY).toInt
      chunksZ := (Int32.ofInt map.chunksZ).toInt
      interestRadiusChunks := (Int32.ofInt map.drawDistanceChunks).toInt
      inRange := ⟨toInt_ofInt_lt _, toInt_ofInt_lt _, toInt_ofInt_lt _⟩ }

/-- The square that `gatherRelevantChunks` compares the distances with. -/
def WorldReplication.radiusSquared (s : WorldReplication) : Int :=
  s.config.interestRadiusChunks * s.config.interestRadiusChunks

/-- The distances that it compares, of all columns of the square around the centre. -/
def WorldReplication.distancesSquared (s : WorldReplication) : List Int :=
  (intRange (-s.config.interestRadiusChunks) s.config.interestRadiusChunks).flatMap fun dz =>
    (intRange (-s.config.interestRadiusChunks) s.config.interestRadiusChunks).map fun dx =>
      dx * dx + dz * dz

/-- The product in seconds and ticks, or the largest tick count. -/
def ExactOrSaturated (ticks : UInt32) (seconds tickRateHz : Int) : Prop :=
  (ticks.toNat : Int) = min (seconds * tickRateHz) (2 ^ 32 - 1)

/-- What is computed from the settings, and from the minutes of a match, fits its type. -/
structure ArithmeticFits (minutes : Int) (settings : ServerSettings F) : Prop where
  matchDuration : FitsInt (minutes * 60)
  worldHeight : FitsInt (settings.map.worldHeight + 31)
  worldWidth : FitsInt (settings.map.chunksX * 32)
  worldDepth : FitsInt (settings.map.chunksZ * 32)
  interestRadius : FitsInt settings.map.replication.radiusSquared
  preMatchTicks : ExactOrSaturated
    (secondsToTicks settings.runtime.tickRateHz settings.matchSettings.preMatchSeconds 0)
    settings.matchSettings.preMatchSeconds settings.runtime.tickRateHz
  respawnDelayTicks : ExactOrSaturated
    (secondsToTicks settings.runtime.tickRateHz settings.matchSettings.respawnDelaySeconds 1)
    settings.matchSettings.respawnDelaySeconds settings.runtime.tickRateHz

/-- With the sums that are formed on the way. -/
structure StepsFit (minutes : Int) (settings : ServerSettings F) : Prop
    extends ArithmeticFits minutes settings where
  heightStep : FitsInt (settings.map.worldHeight + 32)
  distances : ∀ distance ∈ settings.map.replication.distancesSquared, FitsInt distance

/-- The settings are read, and a condition holds of the minutes of a match and of them. -/
def Startup (config : Document F) (post : Int → ServerSettings F → Prop) : Prop :=
  ∃ minutes read settings events,
    readInt config "match_time_minutes" 60 = .ok (minutes, read) ∧
      readServerSettings config = .ok (settings, events) ∧ post minutes settings

/-- The integer that a configuration writes at a path, or the default. -/
def settingAt : Document F → List String → Int → Int
  | value, [], fallback => value.integer.getD fallback
  | value, field :: path, fallback =>
      match value.member field with
      | some inner => settingAt inner path fallback
      | none => fallback

/-- The sizes whose products fit an `int`. -/
structure ModestSizes (config : Document F) : Prop where
  minutes : settingAt config ["match_time_minutes"] 60 ≤ 35791394
  worldHeight : settingAt config ["map", "world_height"] 256 ≤ 2147483616
  chunksX : settingAt config ["map", "chunks_x"] 64 ≤ 67108863
  chunksZ : settingAt config ["map", "chunks_z"] 64 ≤ 67108863
  drawDistance : settingAt config ["map", "draw_distance_chunks"] 2 ≤ 46340

/-- The sizes for which no sum on the way is too large either. -/
structure ModestSteps (config : Document F) : Prop extends ModestSizes config where
  heightStep : settingAt config ["map", "world_height"] 256 ≤ 2147483615
  distances : settingAt config ["map", "draw_distance_chunks"] 2 ≤ 32767

/-- The ticks of two `int`s are exact or cut off; the floor is what no seconds amount to, or
less than any. -/
theorem exactOrSaturated_secondsToTicks {tickRateHz seconds : Int} {floorTicks : UInt32}
    (hRate : 1 ≤ tickRateHz) (hRateFits : tickRateHz < 2 ^ 31) (hSeconds : 0 ≤ seconds)
    (hSecondsFit : seconds < 2 ^ 31) (hFloor : seconds = 0 → floorTicks = 0) :
    ExactOrSaturated (secondsToTicks tickRateHz seconds floorTicks) seconds tickRateHz := by
  unfold ExactOrSaturated secondsToTicks
  by_cases hNone : seconds ≤ 0
  · have hZero : seconds = 0 := by omega
    rw [if_pos (Or.inl hNone), hFloor hZero, hZero]
    simp
  · have hTicks : ¬ (seconds ≤ 0 ∨ tickRateHz ≤ 0) := by omega
    rw [if_neg hTicks]
    have hPositive : 0 < seconds * tickRateHz := Int.mul_pos (by omega) (by omega)
    have hBelow : seconds * tickRateHz < 2 ^ 31 * 2 ^ 31 :=
      mul_lt_mul'' hSecondsFit hRateFits hSeconds (by omega)
    have hRaw : (Int64.ofInt seconds * Int64.ofInt tickRateHz).toInt = seconds * tickRateHz := by
      rw [← Int64.ofInt_mul]
      exact Int64.toInt_ofInt_of_le (by omega) (by omega)
    dsimp only
    rw [hRaw, if_neg (by omega)]
    by_cases hLarge : seconds * tickRateHz > 2 ^ 32 - 1
    · rw [if_pos hLarge, min_eq_right (by omega)]
      rfl
    · rw [if_neg hLarge, min_eq_left (by omega), UInt32.toNat_ofNat_of_lt' (by
        change (seconds * tickRateHz).toNat < 2 ^ 32
        omega)]
      omega

/-- The squared distances that the rings of chunks are sorted by. -/
theorem mem_distancesSquared_iff {s : WorldReplication} {distance : Int} :
    distance ∈ s.distancesSquared ↔ ∃ dx dz,
      (-s.config.interestRadiusChunks ≤ dx ∧ dx ≤ s.config.interestRadiusChunks) ∧
        (-s.config.interestRadiusChunks ≤ dz ∧ dz ≤ s.config.interestRadiusChunks) ∧
          dx * dx + dz * dz = distance := by
  simp only [WorldReplication.distancesSquared, List.mem_flatMap, List.mem_map, mem_intRange]
  constructor
  · rintro ⟨dz, hZ, dx, hX, hSum⟩
    exact ⟨dx, dz, hX, hZ, hSum⟩
  · rintro ⟨dx, dz, hX, hZ, hSum⟩
    exact ⟨dz, hZ, dx, hX, hSum⟩

/-- The corner of the square is the farthest column. -/
theorem distances_fit_iff {s : WorldReplication} (h : 0 ≤ s.config.interestRadiusChunks) :
    (∀ distance ∈ s.distancesSquared, FitsInt distance) ↔
      s.config.interestRadiusChunks ≤ 32767 := by
  constructor
  · intro hFits
    have hCorner := hFits _ (mem_distancesSquared_iff.mpr
      ⟨s.config.interestRadiusChunks, s.config.interestRadiusChunks, by omega, by omega, rfl⟩)
    rw [fitsInt_sum_sq_iff] at hCorner
    by_contra hLarge
    have hSquare : 32768 * 32768 ≤
        s.config.interestRadiusChunks * s.config.interestRadiusChunks := by nlinarith
    omega
  · intro hSmall distance hMem
    obtain ⟨dx, dz, hX, hZ, rfl⟩ := mem_distancesSquared_iff.mp hMem
    rw [fitsInt_sum_sq_iff]
    exact sum_sq_le 32767 (by omega) (by omega) (by decide)

section Settings

variable {root config : Document F} {key : String} {path : List String} {fallback : Int}

theorem settingAt_singleton :
    settingAt root [key] fallback = (integerAt root key).getD fallback := by
  unfold settingAt integerAt
  cases root.member key <;> rfl

/-- A setting in a section that is there is looked up in it. -/
theorem settingAt_of_member {inner : Document F} (h : root.member key = some inner) :
    settingAt root (key :: path) fallback = settingAt inner path fallback := by
  rw [settingAt, h]

/-- Without the section its settings have their fallbacks. -/
theorem settingAt_of_absent (h : root.member key = none) :
    settingAt root (key :: path) fallback = fallback := by
  rw [settingAt, h]

/-- A setting that fits is below the limit of an `int`. -/
theorem settingAt_lt (h : FitsAt root path) (hFallback : fallback < 2 ^ 31) :
    settingAt root path fallback < 2 ^ 31 := by
  induction path generalizing root with
  | nil =>
      unfold settingAt
      cases hInteger : root.integer with
      | none => exact hFallback
      | some n => exact h n hInteger
  | cons field path ih =>
      cases hMember : root.member field with
      | none =>
          rw [settingAt_of_absent hMember]
          exact hFallback
      | some inner =>
          rw [settingAt_of_member hMember]
          exact ih (h inner hMember)

/-- An honest reading of an integer field gives the setting. -/
theorem ensures_readInt {low high : Int} (h : IntegerField root key low high)
    (hObject : root.isObject = true) (hLow : 0 ≤ low) :
    Ensures SettingEvent.Honest (readInt root key fallback)
      (· = settingAt root [key] fallback) := by
  apply ensures_of_clean
  intro value hClean
  rw [settingAt_singleton]
  exact ((clean_readInt_iff h hObject hLow).mp hClean).2.symm

/-- An honest reading replaces nothing. -/
theorem ensures_replaceIf {α : Type} {bad : Bool} {message : String} {replacement value : α} :
    Ensures SettingEvent.Honest (replaceIf bad message replacement value)
      (fun a => bad = false ∧ a = value) := by
  apply ensures_of_clean
  intro a hClean
  obtain ⟨hGood, hSame⟩ := clean_replaceIf_iff.mp hClean
  exact ⟨hGood, hSame.symm⟩

/-- A section is read by its reader if it is there. -/
theorem ensures_readObject {α : Type} {absent : α} {read : Document F → Reading α}
    {post : α → Prop} {validate : Document F → List String}
    (h : ObjectField root key validate) (hAbsent : root.member key = none → post absent)
    (hRead : ∀ inner, root.member key = some inner → inner.isObject = true →
      validate inner = [] → Ensures SettingEvent.Honest (read inner) post) :
    Ensures SettingEvent.Honest (readObject root key absent read) post := by
  apply ensures_of_clean
  intro a hClean
  obtain ⟨hNone, hSome⟩ := (clean_readObject_iff fun inner hMember => (h inner hMember).1).mp hClean
  cases hMember : root.member key with
  | none =>
      rw [← hNone hMember]
      exact hAbsent hMember
  | some inner =>
      obtain ⟨hObject, hValid⟩ := h inner hMember
      obtain ⟨b, steps, hResult, hSteps, rfl⟩ := hSome inner hMember
      exact hRead inner hMember hObject hValid b steps hResult hSteps

/-- The map settings are what is written. -/
structure MapSettings.Written (map : MapSettings F) (config : Document F) : Prop where
  chunksX : map.chunksX = settingAt config ["map", "chunks_x"] 64
  chunksZ : map.chunksZ = settingAt config ["map", "chunks_z"] 64
  worldHeight : map.worldHeight = settingAt config ["map", "world_height"] 256
  drawDistance : map.drawDistanceChunks = settingAt config ["map", "draw_distance_chunks"] 2

/-- The map settings that are not replaced. -/
structure MapSettings.Proper (map : MapSettings F) : Prop where
  chunksX : 1 ≤ map.chunksX
  chunksZ : 1 ≤ map.chunksZ
  worldHeight : 1 ≤ map.worldHeight
  drawDistance : 0 ≤ map.drawDistanceChunks

/-- An honest reading of the map gives the settings as they are written, and a proper map. -/
theorem ensures_readMapFields {map : Document F} (hObject : map.isObject = true)
    (hValid : validateMap map = []) (hMember : config.member "map" = some map) :
    Ensures SettingEvent.Honest (readMapFields map) (·.Written config) := by
  simp only [validateMap, List.append_eq_nil_iff] at hValid
  obtain ⟨⟨⟨⟨⟨hChunksX, hChunksZ⟩, hHeight⟩, hDistance⟩, -⟩, -⟩ := hValid
  unfold readMapFields
  refine ensures_bind (ensures_readInt (integerField_of_positive hChunksX) hObject (by decide))
    fun chunksX hX => ?_
  refine ensures_bind (ensures_readInt (integerField_of_positive hChunksZ) hObject (by decide))
    fun chunksZ hZ => ?_
  refine ensures_bind (ensures_readInt (integerField_of_positive hHeight) hObject (by decide))
    fun worldHeight hWorld => ?_
  refine ensures_bind
    (ensures_readInt (integerField_of_nonNegative hDistance) hObject (by decide))
    fun drawDistance hDraw => ?_
  refine ensures_bind ensures_true fun worldSeed _ => ensures_bind ensures_true fun expansion _ =>
    ensures_pure ?_
  constructor
  · rw [settingAt_of_member hMember]
    exact hX
  · rw [settingAt_of_member hMember]
    exact hZ
  · rw [settingAt_of_member hMember]
    exact hWorld
  · rw [settingAt_of_member hMember]
    exact hDraw

theorem ensures_readMap (h : ObjectField config "map" validateMap) :
    Ensures SettingEvent.Honest (readMap config)
      (fun map => map.Written config ∧ map.Proper) := by
  unfold readMap
  have hFields : Ensures SettingEvent.Honest (readObject config "map" {} readMapFields)
      (·.Written config) := by
    refine ensures_readObject h (fun hAbsent => ?_) fun map hMember hObject hValid =>
      ensures_readMapFields hObject hValid hMember
    constructor <;> rw [settingAt_of_absent hAbsent]
  refine ensures_bind hFields fun map hWritten =>
    ensures_bind ensures_replaceIf fun chunksX hX =>
      ensures_bind ensures_replaceIf fun chunksZ hZ =>
        ensures_bind ensures_replaceIf fun worldHeight hHeight =>
          ensures_bind ensures_replaceIf fun drawDistance hDraw => ensures_pure ?_
  obtain ⟨hX, rfl⟩ := hX
  obtain ⟨hZ, rfl⟩ := hZ
  obtain ⟨hHeight, rfl⟩ := hHeight
  obtain ⟨hDraw, rfl⟩ := hDraw
  rw [decide_eq_false_iff_not] at hX hZ hHeight hDraw
  exact ⟨⟨hWritten.chunksX, hWritten.chunksZ, hWritten.worldHeight, hWritten.drawDistance⟩,
    Int.not_le.mp hX, Int.not_le.mp hZ, Int.not_le.mp hHeight, Int.not_lt.mp hDraw⟩

/-- An honest reading of the runtime section has a positive tick rate. -/
theorem ensures_readRuntime (h : ObjectField config "runtime" validateRuntime) :
    Ensures SettingEvent.Honest (readRuntime config) (fun runtime =>
      runtime.tickRateHz = settingAt config ["runtime", "tick_rate_hz"] 30 ∧
        1 ≤ runtime.tickRateHz) := by
  unfold readRuntime
  have hFields : Ensures SettingEvent.Honest (readObject config "runtime" {} readRuntimeFields)
      (fun runtime => runtime.tickRateHz = settingAt config ["runtime", "tick_rate_hz"] 30) := by
    refine ensures_readObject h (fun hAbsent => ?_) fun runtime hMember hObject hValid => ?_
    · rw [settingAt_of_absent hAbsent]
    · simp only [validateRuntime, List.append_eq_nil_iff] at hValid
      obtain ⟨⟨⟨⟨⟨⟨⟨⟨hRate, -⟩, -⟩, -⟩, -⟩, -⟩, -⟩, -⟩, -⟩ := hValid
      unfold readRuntimeFields
      refine ensures_bind (ensures_readInt (integerField_of_positive hRate) hObject (by decide))
        fun tickRateHz hRead => ?_
      refine ensures_bind ensures_true fun _ _ => ensures_bind ensures_true fun _ _ =>
        ensures_bind ensures_true fun _ _ => ensures_bind ensures_true fun _ _ =>
          ensures_bind ensures_true fun _ _ => ensures_bind ensures_true fun _ _ =>
            ensures_bind ensures_true fun _ _ => ensures_pure ?_
      rw [settingAt_of_member hMember]
      exact hRead
  refine ensures_bind hFields fun runtime hWritten =>
    ensures_bind ensures_replaceIf fun tickRateHz hRate =>
      ensures_bind ensures_true fun _ _ => ensures_bind ensures_true fun _ _ =>
        ensures_bind ensures_true fun _ _ => ensures_pure ?_
  obtain ⟨hRate, rfl⟩ := hRate
  rw [decide_eq_false_iff_not] at hRate
  exact ⟨hWritten, Int.not_le.mp hRate⟩

/-- The seconds that are turned into ticks are what is written, and are not replaced. -/
structure MatchSettings.Written (settings : MatchSettings) (config : Document F) : Prop where
  preMatch : settings.preMatchSeconds = settingAt config ["match", "pre_match_seconds"] 5
  respawnDelay :
    settings.respawnDelaySeconds = settingAt config ["match", "respawn_delay_seconds"] 3

theorem ensures_readMatchFields {matchSection : Document F} {defaults : MatchSettings}
    (hObject : matchSection.isObject = true) (hValid : validateMatch matchSection = [])
    (hMember : config.member "match" = some matchSection) (hPre : defaults.preMatchSeconds = 5)
    (hDelay : defaults.respawnDelaySeconds = 3) :
    Ensures SettingEvent.Honest (readMatchFields matchSection defaults) (·.Written config) := by
  simp only [validateMatch, List.append_eq_nil_iff] at hValid
  obtain ⟨⟨⟨⟨hPreField, -⟩, -⟩, hDelayField⟩, -⟩ := hValid
  unfold readMatchFields
  refine ensures_bind
    (ensures_readInt (integerField_of_nonNegative hPreField) hObject (by decide))
    fun preMatchSeconds hPreRead => ?_
  refine ensures_bind
    (ensures_readInt (integerField_of_positive hDelayField) hObject (by decide))
    fun respawnDelaySeconds hDelayRead => ?_
  refine ensures_bind ensures_true fun _ _ => ensures_bind ensures_true fun _ _ =>
    ensures_bind ensures_true fun _ _ => ensures_pure ?_
  constructor
  · rw [settingAt_of_member hMember, ← hPre]
    exact hPreRead
  · rw [settingAt_of_member hMember, ← hDelay]
    exact hDelayRead

/-- An honest reading of the match settings gives them as they are written, with times that are
not negative. -/
theorem ensures_readMatch (h : ObjectField config "match" validateMatch) :
    Ensures SettingEvent.Honest (readMatch config) (fun settings => settings.Written config ∧
      0 ≤ settings.preMatchSeconds ∧ 1 ≤ settings.respawnDelaySeconds) := by
  unfold readMatch
  refine ensures_bind ensures_true fun minutes _ => ensures_bind ensures_true fun respawns _ => ?_
  have hFields : Ensures SettingEvent.Honest
      (readObject config "match"
        { durationSeconds := matchDurationSeconds minutes, respawnsPerPlayer := respawns }
        fun matchSection => readMatchFields matchSection
          { durationSeconds := matchDurationSeconds minutes, respawnsPerPlayer := respawns })
      (·.Written config) := by
    refine ensures_readObject h (fun hAbsent => ?_) fun matchSection hMember hObject hValid =>
      ensures_readMatchFields hObject hValid hMember rfl rfl
    constructor <;> rw [settingAt_of_absent hAbsent]
  refine ensures_bind hFields fun settings hWritten =>
    ensures_bind ensures_true fun _ _ => ensures_bind ensures_true fun _ _ =>
      ensures_bind ensures_replaceIf fun preMatchSeconds hPre =>
        ensures_bind ensures_replaceIf fun respawnDelaySeconds hDelay =>
          ensures_bind ensures_true fun _ _ => ensures_pure ?_
  obtain ⟨hPre, rfl⟩ := hPre
  obtain ⟨hDelay, rfl⟩ := hDelay
  rw [decide_eq_false_iff_not] at hPre hDelay
  exact ⟨⟨hWritten.preMatch, hWritten.respawnDelay⟩, Int.not_lt.mp hPre, Int.not_le.mp hDelay⟩

/-- The settings of the products and ticks are what is written, and are not replaced. -/
structure ServerSettings.Written (settings : ServerSettings F) (config : Document F) : Prop where
  map : settings.map.Written config
  mapProper : settings.map.Proper
  tickRate : settings.runtime.tickRateHz = settingAt config ["runtime", "tick_rate_hz"] 30
  tickRatePositive : 1 ≤ settings.runtime.tickRateHz
  seconds : settings.matchSettings.Written config
  preMatchNonneg : 0 ≤ settings.matchSettings.preMatchSeconds
  respawnDelayPositive : 1 ≤ settings.matchSettings.respawnDelaySeconds

/-- An honest reading of a whole document gives all its settings as they are written. -/
theorem ensures_readServerSettings (hRuntime : ObjectField config "runtime" validateRuntime)
    (hMatch : ObjectField config "match" validateMatch)
    (hMap : ObjectField config "map" validateMap) :
    Ensures SettingEvent.Honest (readServerSettings config) (·.Written config) := by
  unfold readServerSettings
  refine ensures_bind ensures_true fun network _ =>
    ensures_bind (ensures_readRuntime hRuntime) fun runtime hRate =>
      ensures_bind ensures_true fun combat _ => ensures_bind ensures_true fun inventory _ =>
        ensures_bind ensures_true fun lootDrop _ =>
          ensures_bind (ensures_readMatch hMatch) fun matchSettings hSeconds =>
            ensures_bind (ensures_readMap hMap) fun map hRead => ensures_pure ?_
  exact ⟨hRead.1, hRead.2, hRate.1, hRate.2, hSeconds.1, hSeconds.2.1, hSeconds.2.2⟩

end Settings

section Startups

variable {config : Document F}

/-- The sections of a valid configuration that are looked at here. -/
structure ValidSections (config : Document F) : Prop where
  isObject : config.isObject = true
  minutes : IntegerField config "match_time_minutes" 1 (2 ^ 63)
  runtime : ObjectField config "runtime" validateRuntime
  matchSection : ObjectField config "match" validateMatch
  map : ObjectField config "map" validateMap

/-- In a valid document each section passes its own check. -/
theorem validSections (h : validateServerConfig config = []) : ValidSections config := by
  unfold validateServerConfig at h
  split at h
  · exact absurd h (addError_ne_nil _ _)
  · rename_i hRoot
    simp only [List.append_eq_nil_iff] at h
    obtain ⟨⟨⟨⟨⟨⟨⟨⟨⟨⟨⟨-, -⟩, -⟩, -⟩, -⟩, hRuntime⟩, -⟩, -⟩, hMinutes⟩, -⟩, hMatch⟩, hMap⟩ := h
    exact ⟨by simpa using hRoot, integerField_of_positive hMinutes,
      readObjectField_eq_nil hRuntime, readObjectField_eq_nil hMatch, readObjectField_eq_nil hMap⟩

/-- A valid match lasts one minute at least. -/
theorem ValidSections.le_minutes (h : ValidSections config) :
    1 ≤ settingAt config ["match_time_minutes"] 60 := by
  rw [settingAt_singleton]
  exact le_getD_integerAt h.minutes (by decide)

/-- The minutes of a valid document are read as they are written, if they fit. -/
theorem readInt_minutes (h : ValidSections config) (hFits : FitsAll config integerPaths) :
    ∃ read, readInt config "match_time_minutes" 60 =
      .ok (settingAt config ["match_time_minutes"] 60, read) := by
  have hClean : Clean SettingEvent.Honest (readInt config "match_time_minutes" 60)
      (· = settingAt config ["match_time_minutes"] 60) :=
    (clean_readInt_iff h.minutes h.isObject (by decide)).mpr
      ⟨hFits _ (by decide), settingAt_singleton.symm⟩
  obtain ⟨minutes, read, hRead, -, rfl⟩ := hClean
  exact ⟨read, hRead⟩

/-- Minutes whose seconds fit are a positive duration. -/
theorem durationFits_of_minutes (h : ValidSections config)
    (hMinutes : settingAt config ["match_time_minutes"] 60 ≤ 35791394) : DurationFits config := by
  right
  have hPositive := h.le_minutes
  rw [settingAt_singleton] at hMinutes hPositive
  unfold matchDurationSeconds
  rw [Int.bmod_eq_of_le] <;> omega

/-- A condition on what is computed is one on what is written, if it settles that the minutes
of a match fit. -/
theorem startup_iff [PlainLiterals (SingleFloat.Double F)] {p : Int → ServerSettings F → Prop}
    {q : Prop} (hValid : validateServerConfig config = []) (hFits : FitsAll config integerPaths)
    (hFit : ∀ minutes settings, p minutes settings → FitsInt (minutes * 60))
    (hMinutes : q → settingAt config ["match_time_minutes"] 60 ≤ 35791394)
    (hSettings : ∀ settings : ServerSettings F, settings.Written config →
      (p (settingAt config ["match_time_minutes"] 60) settings ↔ q)) :
    Startup config p ↔ q := by
  have hSections := validSections hValid
  obtain ⟨firstRead, hRead⟩ := readInt_minutes hSections hFits
  have hStarts : settingAt config ["match_time_minutes"] 60 ≤ 35791394 →
      ∃ settings events, readServerSettings config = .ok (settings, events) ∧
        settings.Written config := by
    intro hBelow
    have hClean := (clean_readServerSettings_iff hValid).mpr
      ⟨hFits, durationFits_of_minutes hSections hBelow⟩
    obtain ⟨settings, events, hSettingsRead, -, -, hWritten⟩ := hClean.and_ensures
      (ensures_readServerSettings hSections.runtime hSections.matchSection hSections.map)
    exact ⟨settings, events, hSettingsRead, hWritten⟩
  constructor
  · rintro ⟨minutes, read, settings, events, hMinutesRead, hSettingsRead, hHolds⟩
    rw [hRead] at hMinutesRead
    injection hMinutesRead with hMinutesRead
    injection hMinutesRead with hSame _
    rw [← hSame] at hHolds
    have hProduct := hFit _ _ hHolds
    rw [fitsInt_iff] at hProduct
    obtain ⟨found, foundEvents, hFound, hWritten⟩ := hStarts (by omega)
    rw [hSettingsRead] at hFound
    injection hFound with hFound
    injection hFound with hSettingsSame _
    rw [hSettingsSame] at hHolds
    exact (hSettings found hWritten).mp hHolds
  · intro hHolds
    obtain ⟨settings, events, hSettingsRead, hWritten⟩ := hStarts (hMinutes hHolds)
    exact ⟨_, firstRead, settings, events, hRead, hSettingsRead,
      (hSettings settings hWritten).mpr hHolds⟩

/-- An integer within the range survives the narrowing. -/
theorem toInt_ofInt {n : Int} (hLow : 0 ≤ n) (hHigh : n < 2 ^ 31) :
    (Int32.ofInt n).toInt = n :=
  Int32.toInt_ofInt_of_le (by omega) hHigh

/-- The radius of interest is the draw distance, as long as that fits. -/
theorem interestRadius_replication {map : MapSettings F} (hLow : 0 ≤ map.drawDistanceChunks)
    (hHigh : map.drawDistanceChunks < 2 ^ 31) :
    map.replication.config.interestRadiusChunks = map.drawDistanceChunks := by
  change (if (Int32.ofInt map.drawDistanceChunks).toInt < 0 then (2 : Int)
    else (Int32.ofInt map.drawDistanceChunks).toInt) = _
  rw [toInt_ofInt hLow hHigh, if_neg (by omega)]

/-- What is computed fits exactly if the sizes that are written are modest. -/
theorem ServerSettings.Written.arithmeticFits_iff {settings : ServerSettings F}
    (h : settings.Written config) (hSections : ValidSections config)
    (hFits : FitsAll config integerPaths) :
    ArithmeticFits (settingAt config ["match_time_minutes"] 60) settings ↔ ModestSizes config := by
  have hMinutesAbove := hSections.le_minutes
  have hRateBelow := settingAt_lt (hFits ["runtime", "tick_rate_hz"] (by decide))
    (show (30 : Int) < 2 ^ 31 by decide)
  have hPreBelow := settingAt_lt (hFits ["match", "pre_match_seconds"] (by decide))
    (show (5 : Int) < 2 ^ 31 by decide)
  have hDelayBelow := settingAt_lt (hFits ["match", "respawn_delay_seconds"] (by decide))
    (show (3 : Int) < 2 ^ 31 by decide)
  have hDrawBelow := settingAt_lt (hFits ["map", "draw_distance_chunks"] (by decide))
    (show (2 : Int) < 2 ^ 31 by decide)
  have hX := h.mapProper.chunksX
  have hZ := h.mapProper.chunksZ
  have hHeight := h.mapProper.worldHeight
  have hRadius : settings.map.replication.radiusSquared =
      settings.map.drawDistanceChunks * settings.map.drawDistanceChunks := by
    unfold WorldReplication.radiusSquared
    rw [interestRadius_replication h.mapProper.drawDistance (h.map.drawDistance ▸ hDrawBelow)]
  constructor
  · intro hAll
    have hMinutes := hAll.matchDuration
    have hWorld := hAll.worldHeight
    have hWidth := hAll.worldWidth
    have hDepth := hAll.worldDepth
    have hSquare := hAll.interestRadius
    rw [hRadius, fitsInt_mul_self_iff h.mapProper.drawDistance] at hSquare
    rw [fitsInt_iff] at hMinutes hWorld hWidth hDepth
    constructor
    · omega
    · rw [← h.map.worldHeight]
      omega
    · rw [← h.map.chunksX]
      omega
    · rw [← h.map.chunksZ]
      omega
    · rw [← h.map.drawDistance]
      exact hSquare
  · intro hModest
    have hMinutes := hModest.minutes
    have hWorld := h.map.worldHeight ▸ hModest.worldHeight
    have hWidth := h.map.chunksX ▸ hModest.chunksX
    have hDepth := h.map.chunksZ ▸ hModest.chunksZ
    constructor
    · rw [fitsInt_iff]
      omega
    · rw [fitsInt_iff]
      omega
    · rw [fitsInt_iff]
      omega
    · rw [fitsInt_iff]
      omega
    · rw [hRadius, fitsInt_mul_self_iff h.mapProper.drawDistance, h.map.drawDistance]
      exact hModest.drawDistance
    · exact exactOrSaturated_secondsToTicks h.tickRatePositive (h.tickRate ▸ hRateBelow)
        h.preMatchNonneg (h.seconds.preMatch ▸ hPreBelow) fun _ => rfl
    · have hDelay := h.respawnDelayPositive
      exact exactOrSaturated_secondsToTicks h.tickRatePositive (h.tickRate ▸ hRateBelow)
        (by omega) (h.seconds.respawnDelay ▸ hDelayBelow) (by omega)

/-- Of settings that were read as written, the steps of the arithmetic fit exactly if those of the
document are modest. -/
theorem ServerSettings.Written.stepsFit_iff {settings : ServerSettings F}
    (h : settings.Written config) (hSections : ValidSections config)
    (hFits : FitsAll config integerPaths) :
    StepsFit (settingAt config ["match_time_minutes"] 60) settings ↔ ModestSteps config := by
  have hDrawBelow := settingAt_lt (hFits ["map", "draw_distance_chunks"] (by decide))
    (show (2 : Int) < 2 ^ 31 by decide)
  have hRadius := interestRadius_replication h.mapProper.drawDistance
    (h.map.drawDistance ▸ hDrawBelow)
  have hHeight := h.mapProper.worldHeight
  have hDistances : (∀ distance ∈ settings.map.replication.distancesSquared, FitsInt distance) ↔
      settingAt config ["map", "draw_distance_chunks"] 2 ≤ 32767 := by
    rw [distances_fit_iff (hRadius ▸ h.mapProper.drawDistance), hRadius, h.map.drawDistance]
  constructor
  · intro hAll
    have hStep := hAll.heightStep
    rw [fitsInt_iff, h.map.worldHeight] at hStep
    exact ⟨(h.arithmeticFits_iff hSections hFits).mp hAll.toArithmeticFits, by omega,
      hDistances.mp hAll.distances⟩
  · intro hModest
    have hStep := h.map.worldHeight ▸ hModest.heightStep
    refine ⟨(h.arithmeticFits_iff hSections hFits).mpr hModest.toModestSizes, ?_,
      hDistances.mpr hModest.distances⟩
    rw [fitsInt_iff]
    omega

/-- The products of a valid configuration of `int`s fit, and its ticks are exact or saturate,
exactly if the sizes are modest. For the sums on the way there is less room. -/
theorem config_arithmetic_iff [PlainLiterals (SingleFloat.Double F)]
    (hValid : validateServerConfig config = []) (hFits : FitsAll config integerPaths) :
    (Startup config ArithmeticFits ↔ ModestSizes config) ∧
      (Startup config StepsFit ↔ ModestSteps config) := by
  have hSections := validSections hValid
  constructor
  · exact startup_iff hValid hFits (fun _ _ hAll => hAll.matchDuration) (fun hModest => hModest.minutes)
      fun settings hWritten => hWritten.arithmeticFits_iff hSections hFits
  · exact startup_iff hValid hFits (fun _ _ hAll => hAll.matchDuration) (fun hModest => hModest.minutes)
      fun settings hWritten => hWritten.stepsFit_iff hSections hFits

end Startups

/-- A small document starts the server and fits in both ways. -/
theorem startup_small : Startup smallConfig ArithmeticFits ∧ Startup smallConfig StepsFit := by
  have hValid : validateServerConfig smallConfig = [] := by decide +kernel
  have hFits : FitsAll smallConfig integerPaths := by decide +kernel
  have hIff := config_arithmetic_iff hValid hFits
  have hModest : ModestSizes smallConfig :=
    ⟨by decide, by decide, by decide, by decide, by decide⟩
  exact ⟨hIff.1.mpr hModest, hIff.2.mpr ⟨hModest, by decide, by decide⟩⟩

/-- A map whose width in units does not fit an `int`. -/
def wideConfig : Document ℚ := .object [("map", .object [("chunks_x", .numberUnsigned 67108864)])]

/-- A draw distance whose square does not fit an `int`. -/
def farConfig : Document ℚ :=
  .object [("map", .object [("draw_distance_chunks", .numberUnsigned 46341)])]

/-- A valid configuration of `int`s whose products do not all fit. -/
def Overflows (config : Document ℚ) : Prop :=
  validateServerConfig config = [] ∧ FitsAll config integerPaths ∧ ¬ Startup config ArithmeticFits

/-- A valid document whose sizes are not modest overflows a step. -/
theorem overflows_of_large {config : Document ℚ} (hValid : validateServerConfig config = [])
    (hFits : FitsAll config integerPaths) (hLarge : ¬ ModestSizes config) : Overflows config := by
  refine ⟨hValid, hFits, fun hStartup => hLarge ?_⟩
  have hSections := validSections hValid
  exact (startup_iff hValid hFits (fun _ _ hAll => hAll.matchDuration)
    (fun hModest => hModest.minutes) fun settings hWritten =>
      hWritten.arithmeticFits_iff hSections hFits).mp hStartup

/-- A match that is too long, a map that is too wide, and a draw distance that is too far. -/
theorem products_overflow : Overflows longConfig ∧ Overflows wideConfig ∧ Overflows farConfig := by
  refine ⟨?_, ?_, ?_⟩
  · exact overflows_of_large (by decide +kernel) (by decide +kernel) fun hModest =>
      absurd hModest.minutes (by decide)
  · exact overflows_of_large (by decide +kernel) (by decide +kernel) fun hModest =>
      absurd hModest.chunksX (by decide)
  · exact overflows_of_large (by decide +kernel) (by decide +kernel) fun hModest =>
      absurd hModest.drawDistance (by decide)

end DevyFps.Server
