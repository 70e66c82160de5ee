import DevyFps.Foundations.PlainLiterals
import DevyFps.Server.SettingReads

/-! A configuration that passed the validation is read as it is written, as long as its
integers fit the type that they are read into. -/

namespace DevyFps.Server

open Foundations FloatFormat Recording Reading
open Net (Document)

variable {F : Type} [SingleFloat F] {config : Document F}

/-- Each of the next lemmas follows one reader of `main.cpp` over a section that has passed its
check, and finds the integers that the reader narrows. -/
theorem clean_readConnection_iff {connection : Document F} {network : NetworkSettings}
    {post : Prop} (hObject : connection.isObject = true)
    (h : validateConnection connection = []) :
    Clean SettingEvent.Honest (readConnection connection network) (fun _ => post) ↔ post := by
  obtain ⟨hAuto, hFile⟩ := List.append_eq_nil_iff.mp h
  unfold readConnection
  simp only [clean_bind_iff, clean_pure_iff, clean_readBool_iff (boolField_of_read hAuto) hObject,
    clean_readString_iff (stringField_of_reject hFile) hObject]

def networkPaths : List (List String) := [["max_players"], ["session", "heartbeat_timeout_ms"]]

/-- The network settings are read as written exactly if their integers fit. -/
theorem clean_readNetwork_iff (hObject : config.isObject = true)
    (hPlayers : IntegerField config "max_players" 1 (2 ^ 63))
    (hPort : IntegerField config "port" 1 65536)
    (hConnection : ObjectField config "connection" validateConnection)
    (hSession : ObjectField config "session" validateSession) :
    Clean SettingEvent.Honest (readNetwork config) (fun _ => True) ↔
      FitsAll config networkPaths := by
  have hManyPlayers : ¬ (integerAt config "max_players").getD 64 ≤ 0 :=
    Int.not_le.mpr (le_getD_integerAt hPlayers (by decide))
  have hHeartbeat : Clean SettingEvent.Honest
      (readObject config "session" 10000 fun session =>
        readInt session "heartbeat_timeout_ms" 10000) (fun timeout => ¬ timeout ≤ 0) ↔
      FitsAll config ([["heartbeat_timeout_ms"]].map ("session" :: ·)) := by
    refine clean_readObject_fits_iff hSession (by decide) fun session hInner hValid => ?_
    have hTimeout := integerField_of_positive hValid
    rw [clean_readInt_iff hTimeout hInner (by decide), fitsAll_cons_iff, fitsAll_nil_iff]
    exact and_congr_right fun _ =>
      iff_true_intro (Int.not_le.mpr (le_getD_integerAt hTimeout (by decide)))
  unfold readNetwork
  simp only [clean_bind_iff, clean_readInt_iff hPlayers hObject (by decide),
    clean_readInt_iff hPort hObject (by decide), clean_replaceIf_iff, clean_pure_iff, and_true,
    decide_eq_false_iff_not, hManyPlayers, not_false_eq_true, true_and, hHeartbeat]
  rw [clean_readObject_const_iff hConnection fun connection hInner hValid =>
    clean_readConnection_iff hInner hValid, and_iff_right (hPort.fitsAt (by decide))]
  exact fitsAll_cons_iff.symm

theorem clean_readMovement_iff {movement : Document F} {tuning : Game.MovementTuning F}
    {post : Prop} (hObject : movement.isObject = true) (h : validateMovement movement = []) :
    Clean SettingEvent.Honest (readMovement movement tuning) (fun _ => post) ↔ post := by
  simp only [validateMovement, List.append_eq_nil_iff] at h
  obtain ⟨⟨⟨⟨⟨⟨⟨hGround, hAir⟩, hFriction⟩, hWalk⟩, hSprint⟩, hCrouch⟩, hJump⟩, hGravity⟩ := h
  unfold readMovement
  simp only [clean_bind_iff, clean_pure_iff,
    clean_readFloat_iff (numberField_of_reject hGround) hObject,
    clean_readFloat_iff (numberField_of_reject hAir) hObject,
    clean_readFloat_iff (numberField_of_reject hFriction) hObject,
    clean_readFloat_iff (numberField_of_reject hWalk) hObject,
    clean_readFloat_iff (numberField_of_reject hSprint) hObject,
    clean_readFloat_iff (numberField_of_reject hCrouch) hObject,
    clean_readFloat_iff (numberField_of_reject hJump) hObject,
    clean_readFloat_iff (numberField_of_reject hGravity) hObject]

/-- An alert rate that is not clamped. -/
def Rate (rate : SingleFloat.Double F) : Prop :=
  isFinite rate = true ∧ (lt rate (ofRat 0) || lt (ofRat 1) rate) = false

/-- The settings of the profiling that are not replaced. -/
structure ProfilingSettings.Proper (profiling : ProfilingSettings F) : Prop where
  report : 1 ≤ profiling.reportIntervalTicks
  history : profiling.reportIntervalTicks ≤ profiling.historySizeTicks
  tolerance : isFinite profiling.tickLagToleranceMs = true ∧
    lt profiling.tickLagToleranceMs (ofRat 0) = false
  tickLag : Rate (F := F) profiling.alertMaxTickLagRate
  packetDrop : Rate (F := F) profiling.alertMaxPacketDropRate
  parseError : Rate (F := F) profiling.alertMaxParseErrorRate
  players : 0 ≤ profiling.alertMinActivePlayers

theorem clean_checkProfiling_iff {profiling : ProfilingSettings F} {post : Prop} :
    Clean SettingEvent.Honest (checkProfiling profiling) (fun _ => post) ↔
      profiling.Proper ∧ post := by
  unfold checkProfiling clampRate
  simp only [clean_bind_iff, clean_replaceIf_iff, clean_pure_iff, decide_eq_false_iff_not,
    not_or_eq_false_iff, Bool.or_assoc]
  constructor
  · rintro ⟨hReport, hHistory, hOrder, hTolerance, hTickLag, hPacketDrop, hParseError, hPlayers,
      hPost⟩
    exact ⟨⟨by omega, by omega, hTolerance, hTickLag, hPacketDrop, hParseError, by omega⟩, hPost⟩
  · rintro ⟨⟨hReport, hOrder, hTolerance, hTickLag, hPacketDrop, hParseError, hPlayers⟩, hPost⟩
    exact ⟨by omega, by omega, by omega, hTolerance, hTickLag, hPacketDrop, hParseError, by omega,
      hPost⟩

def alertsPaths : List (List String) := [["min_active_players"]]

/-- The alerts are read as written exactly if their integers fit. -/
theorem clean_readAlerts_iff {alerts : Document F} {settings : ProfilingSettings F}
    (hObject : alerts.isObject = true) (h : validateAlerts alerts = [])
    (hSettings : settings.Proper) :
    Clean SettingEvent.Honest (readAlerts alerts settings) ProfilingSettings.Proper ↔
      FitsAll alerts alertsPaths := by
  simp only [validateAlerts, List.append_eq_nil_iff] at h
  obtain ⟨⟨⟨hTickLag, hPacketDrop⟩, hParseError⟩, hPlayers⟩ := h
  have hTickLag := numberField_of_reject hTickLag
  have hPacketDrop := numberField_of_reject hPacketDrop
  have hParseError := numberField_of_reject hParseError
  have hPlayers := integerField_of_nonNegative hPlayers
  unfold readAlerts
  simp only [clean_bind_iff, clean_pure_iff, clean_readDouble_iff hTickLag hObject,
    clean_readDouble_iff hPacketDrop hObject, clean_readDouble_iff hParseError hObject,
    clean_readInt_iff hPlayers hObject (by decide), alertsPaths, fitsAll_cons_iff,
    fitsAll_nil_iff, and_true]
  exact and_iff_left
    { hSettings with
      tickLag := good_getD_numberAt hTickLag hSettings.tickLag
      packetDrop := good_getD_numberAt hPacketDrop hSettings.packetDrop
      parseError := good_getD_numberAt hParseError hSettings.parseError
      players := le_getD_integerAt hPlayers hSettings.players }

def matchPaths : List (List String) :=
  [["pre_match_seconds"], ["respawn_delay_seconds"], ["min_players_to_start"],
    ["respawns_per_player"], ["duration_seconds"]]

/-- The duration of the match is given in seconds, or the minutes amount to a positive `int`
of seconds. -/
def DurationFits (config : Document F) : Prop :=
  (∃ matchSection, config.member "match" = some matchSection ∧
      matchSection.contains "duration_seconds" = true) ∨
    0 < matchDurationSeconds ((integerAt config "match_time_minutes").getD 60)

/-- The duration of a match is positive unless it is left out with a fallback that is not. -/
theorem duration_pos_iff {matchSection : Document F} {fallback : Int}
    (h : IntegerField matchSection "duration_seconds" 1 (2 ^ 63)) :
    ¬ (integerAt matchSection "duration_seconds").getD fallback ≤ 0 ↔
      matchSection.contains "duration_seconds" = true ∨ 0 < fallback := by
  rw [Int.not_le]
  unfold integerAt Json.contains
  cases hMember : matchSection.member "duration_seconds" with
  | none => simp
  | some value =>
      obtain ⟨n, hInteger, hAbove, -⟩ := h value hMember
      simp only [Option.bind_some, hInteger, Option.getD_some, Option.isSome_some, true_or, iff_true]
      omega

/-- The match settings, where the duration in seconds takes the place of the minutes. -/
theorem clean_readMatchFields_iff {matchSection : Document F} {defaults : MatchSettings}
    (hObject : matchSection.isObject = true) (h : validateMatch matchSection = [])
    (hPre : 0 ≤ defaults.preMatchSeconds) (hRespawns : 0 ≤ defaults.respawnsPerPlayer)
    (hDelay : 1 ≤ defaults.respawnDelaySeconds) (hPlayers : 1 ≤ defaults.minPlayersToStart) :
    Clean SettingEvent.Honest (readMatchFields matchSection defaults) (fun settings =>
        ¬ settings.durationSeconds ≤ 0 ∧ ¬ settings.respawnsPerPlayer < 0 ∧
          ¬ settings.preMatchSeconds < 0 ∧ ¬ settings.respawnDelaySeconds ≤ 0 ∧
            ¬ settings.minPlayersToStart ≤ 0) ↔
      FitsAll matchSection matchPaths ∧
        (matchSection.contains "duration_seconds" = true ∨ 0 < defaults.durationSeconds) := by
  simp only [validateMatch, List.append_eq_nil_iff] at h
  obtain ⟨⟨⟨⟨hPreField, hDuration⟩, hRespawnsField⟩, hDelayField⟩, hPlayersField⟩ := h
  have hPreField := integerField_of_nonNegative hPreField
  have hDuration := integerField_of_positive hDuration
  have hRespawnsField := integerField_of_nonNegative hRespawnsField
  have hDelayField := integerField_of_positive hDelayField
  have hPlayersField := integerField_of_positive hPlayersField
  unfold readMatchFields
  simp only [clean_bind_iff, clean_pure_iff, clean_readInt_iff hPreField hObject (by decide),
    clean_readInt_iff hDelayField hObject (by decide),
    clean_readInt_iff hPlayersField hObject (by decide),
    clean_readInt_iff hRespawnsField hObject (by decide),
    clean_readInt_iff hDuration hObject (by decide), getD_integerAt_neg_iff hPreField hPre,
    getD_integerAt_neg_iff hRespawnsField hRespawns, getD_integerAt_nonpos_iff hDelayField hDelay,
    getD_integerAt_nonpos_iff hPlayersField hPlayers, duration_pos_iff hDuration, matchPaths,
    fitsAll_cons_iff, fitsAll_nil_iff, not_false_eq_true, and_true, and_assoc]

/-- The match settings are read as written exactly if their integers fit and the minutes make a
duration that does. -/
theorem clean_readMatch_iff (hObject : config.isObject = true)
    (hMinutes : IntegerField config "match_time_minutes" 1 (2 ^ 63))
    (hRespawns : IntegerField config "respawns" 0 (2 ^ 63))
    (hMatch : ObjectField config "match" validateMatch) :
    Clean SettingEvent.Honest (readMatch config) (fun _ => True) ↔
      FitsAt config ["match_time_minutes"] ∧ FitsAt config ["respawns"] ∧
        FitsAll config (matchPaths.map ("match" :: ·)) ∧ DurationFits config := by
  have hRespawnsAbove : 0 ≤ (integerAt config "respawns").getD 2 :=
    le_getD_integerAt hRespawns (by decide)
  unfold readMatch
  simp only [clean_bind_iff, clean_readInt_iff hMinutes hObject (by decide),
    clean_readInt_iff hRespawns hObject (by decide), clean_replaceIf_iff, clean_pure_iff, and_true,
    decide_eq_false_iff_not]
  rw [clean_readObject_iff fun inner hMember => (hMatch inner hMember).1, fitsAll_under_iff]
  refine and_congr_right fun _ => and_congr_right fun _ => ?_
  unfold DurationFits
  cases hMember : config.member "match" with
  | none =>
      simp only [true_implies, reduceCtorEq, false_implies, implies_true, and_true, true_and,
        false_and, exists_false, false_or]
      omega
  | some matchSection =>
      obtain ⟨hInner, hValid⟩ := hMatch matchSection hMember
      simp only [reduceCtorEq, false_implies, true_and, Option.some.injEq, forall_eq',
        exists_eq_left']
      exact clean_readMatchFields_iff hInner hValid (by simp) hRespawnsAbove (by simp) (by simp)

def placementPaths : List (List String) :=
  [["cell_size_chunks"], ["jitter_units"], ["min_poi_spacing_units"]]

/-- The placement of the sites. -/
theorem clean_readPlacement_iff {placement : Document F}
    {expansion : Voxel.WorldExpansionProfile F} (hObject : placement.isObject = true)
    (h : validatePlacement placement = []) :
    Clean SettingEvent.Honest (readPlacement placement expansion) (fun _ => True) ↔
      FitsAll placement placementPaths := by
  simp only [validatePlacement, List.append_eq_nil_iff] at h
  obtain ⟨⟨hCell, hJitter⟩, hSpacing⟩ := h
  unfold readPlacement
  simp only [clean_bind_iff, clean_pure_iff,
    clean_readInt_iff (integerField_of_positive hCell) hObject (by decide),
    clean_readInt_iff (integerField_of_nonNegative hJitter) hObject (by decide),
    clean_readInt_iff (integerField_of_nonNegative hSpacing) hObject (by decide),
    placementPaths, fitsAll_cons_iff, fitsAll_nil_iff]

theorem clean_readPoiTypes_iff {poiTypes : Document F}
    {expansion : Voxel.WorldExpansionProfile F} {post : Prop} (hObject : poiTypes.isObject = true)
    (h : validatePoiTypes poiTypes = []) :
    Clean SettingEvent.Honest (readPoiTypes poiTypes expansion) (fun _ => post) ↔ post := by
  simp only [validatePoiTypes, List.append_eq_nil_iff] at h
  obtain ⟨⟨hOutpost, hRuins⟩, hShrine⟩ := h
  unfold readPoiTypes
  simp only [clean_bind_iff, clean_pure_iff,
    clean_readBool_iff (boolField_of_read hOutpost) hObject,
    clean_readBool_iff (boolField_of_read hRuins) hObject,
    clean_readBool_iff (boolField_of_read hShrine) hObject]

def worldExpansionPaths : List (List String) := placementPaths.map ("placement" :: ·)

/-- The expansion of the world, with its placement and its kinds of sites. -/
theorem clean_readWorldExpansion_iff {worldExpansion : Document F}
    {defaults : Voxel.WorldExpansionProfile F} (hObject : worldExpansion.isObject = true)
    (h : validateWorldExpansion worldExpansion = []) :
    Clean SettingEvent.Honest (readWorldExpansion worldExpansion defaults) (fun _ => True) ↔
      FitsAll worldExpansion worldExpansionPaths := by
  simp only [validateWorldExpansion, List.append_eq_nil_iff] at h
  obtain ⟨⟨⟨⟨hEnabled, -⟩, hPlacement⟩, hTypes⟩, hLoot⟩ := h
  unfold readWorldExpansion
  simp only [clean_bind_iff, clean_pure_iff,
    clean_readBool_iff (boolField_of_read hEnabled) hObject,
    clean_readFloat_iff (numberField_of_reject hLoot) hObject]
  have hTypesRead : ∀ expansion : Voxel.WorldExpansionProfile F,
      Clean SettingEvent.Honest (readObject worldExpansion "poi_types" expansion fun poiTypes =>
        readPoiTypes poiTypes expansion) (fun _ => True) ↔ True := fun expansion =>
    clean_readObject_const_iff (readObjectField_eq_nil hTypes) fun poiTypes hInner hValid =>
      clean_readPoiTypes_iff hInner hValid
  simp only [hTypesRead]
  exact clean_readObject_fits_iff (readObjectField_eq_nil hPlacement) trivial
    fun placement hInner hValid => clean_readPlacement_iff hInner hValid

/-- A seed that is written is read. -/
theorem clean_readWorldSeed_iff {map : Document F} {fallback : UInt32} {post : Prop}
    (h : IntegerField map "world_seed" 0 (2 ^ 32)) (hObject : map.isObject = true) :
    Clean SettingEvent.Honest (readWorldSeed map fallback) (fun _ => post) ↔ post := by
  unfold readWorldSeed recordInteger integerAt
  simp only [clean_bind_iff, clean_lift_iff, Json.valueJson_of_isObject hObject]
  unfold Json.value
  cases hMember : map.member "world_seed" with
  | none => simp [clean_pure_iff]
  | some value =>
      obtain ⟨n, hInteger, hLow, hHigh⟩ := h value hMember
      have hBack : (UInt32.ofNat n.toNat).toNat = n := by
        rw [UInt32.toNat_ofNat_of_lt' (by change n.toNat < 2 ^ 32; omega)]
        omega
      simp only [Option.getD_some, Net.jsonToU32_eq, Net.readU32_of_integer hInteger hLow hHigh,
        Except.ok.injEq, exists_eq_left', Option.map_some, Option.bind_some, hInteger,
        clean_record_iff, clean_pure_iff, SettingEvent.Honest, hBack, true_and]

def mapPaths : List (List String) :=
  [["chunks_x"], ["chunks_z"], ["world_height"], ["draw_distance_chunks"]] ++
    worldExpansionPaths.map ("world_expansion" :: ·)

/-- The seed is the one integer that is checked against 32 bits. -/
theorem integerField_seed {map : Document F} {path detail : String}
    (h : (readIntegerField map "world_seed" path).reject path
      (fun value => value < 0 || value > 2 ^ 32 - 1) detail = []) :
    IntegerField map "world_seed" 0 (2 ^ 32) := by
  refine integerField_of_reject (by decide) (fun n _ hBad => ?_) h
  simp only [Bool.or_eq_false_iff, decide_eq_false_iff_not] at hBad
  omega

/-- The map settings are read as written exactly if their integers fit. -/
theorem clean_readMap_iff (hMap : ObjectField config "map" validateMap) :
    Clean SettingEvent.Honest (readMap config) (fun _ => True) ↔
      FitsAll config (mapPaths.map ("map" :: ·)) := by
  unfold readMap
  simp only [clean_bind_iff, clean_replaceIf_iff, clean_pure_iff, and_true,
    decide_eq_false_iff_not]
  refine clean_readObject_fits_iff hMap ⟨by simp, by simp, by simp, by simp⟩
    fun map hObject hValid => ?_
  simp only [validateMap, List.append_eq_nil_iff] at hValid
  obtain ⟨⟨⟨⟨⟨hChunksX, hChunksZ⟩, hHeight⟩, hDistance⟩, hSeed⟩, hExpansion⟩ := hValid
  have hChunksX := integerField_of_positive hChunksX
  have hChunksZ := integerField_of_positive hChunksZ
  have hHeight := integerField_of_positive hHeight
  have hDistance := integerField_of_nonNegative hDistance
  unfold readMapFields
  simp only [clean_bind_iff, clean_pure_iff, clean_readInt_iff hChunksX hObject (by decide),
    clean_readInt_iff hChunksZ hObject (by decide), clean_readInt_iff hHeight hObject (by decide),
    clean_readInt_iff hDistance hObject (by decide),
    getD_integerAt_nonpos_iff hChunksX (show 1 ≤ 64 by decide),
    getD_integerAt_nonpos_iff hChunksZ (show 1 ≤ 64 by decide),
    getD_integerAt_nonpos_iff hHeight (show 1 ≤ 256 by decide),
    getD_integerAt_neg_iff hDistance (show 0 ≤ 2 by decide), not_false_eq_true, and_self]
  rw [clean_readObject_fits_iff (readObjectField_eq_nil hExpansion) trivial
      fun worldExpansion hInner hValid => clean_readWorldExpansion_iff hInner hValid,
    clean_readWorldSeed_iff (integerField_seed hSeed) hObject]
  unfold mapPaths
  simp only [List.cons_append, List.nil_append, fitsAll_cons_iff]

section Sections

variable [PlainLiterals (SingleFloat.Double F)]

def combatPaths : List (List String) := [["starting_health"]]

theorem clean_readCombat_iff (hCombat : ObjectField config "combat" validateCombat) :
    Clean SettingEvent.Honest (readCombat config) (fun _ => True) ↔
      FitsAll config (combatPaths.map ("combat" :: ·)) := by
  unfold readCombat replaceUnlessPositive
  simp only [clean_bind_iff, clean_replaceIf_iff, clean_pure_iff, and_true,
    decide_eq_false_iff_not, not_or_eq_false_iff]
  have hHitscan := positive_literal (D := SingleFloat.Double F) (q := 128) 512 (by norm_num)
    (by decide) (by decide)
  have hRange := positive_literal (D := SingleFloat.Double F) (q := 96) 384 (by norm_num)
    (by decide) (by decide)
  have hSpeed := positive_literal (D := SingleFloat.Double F) (q := 40) 160 (by norm_num)
    (by decide) (by decide)
  have hRadius := positive_literal (D := SingleFloat.Double F) (q := 0.75) 3 (by norm_num)
    (by decide) (by decide)
  refine clean_readObject_fits_iff hCombat ⟨by simp, hHitscan, hRange, hSpeed, hRadius⟩
    fun combat hObject hValid => ?_
  simp only [validateCombat, List.append_eq_nil_iff] at hValid
  obtain ⟨⟨⟨⟨hHealth, hHitscanField⟩, hRangeField⟩, hSpeedField⟩, hRadiusField⟩ := hValid
  have hHealth := integerField_of_positive hHealth
  have hHitscanField := numberField_of_reject hHitscanField
  have hRangeField := numberField_of_reject hRangeField
  have hSpeedField := numberField_of_reject hSpeedField
  have hRadiusField := numberField_of_reject hRadiusField
  unfold readCombatFields
  simp only [clean_bind_iff, clean_pure_iff, clean_readInt_iff hHealth hObject (by decide),
    clean_readDouble_iff hHitscanField hObject, clean_readDouble_iff hRangeField hObject,
    clean_readDouble_iff hSpeedField hObject, clean_readDouble_iff hRadiusField hObject,
    good_getD_numberAt hHitscanField hHitscan, good_getD_numberAt hRangeField hRange,
    good_getD_numberAt hSpeedField hSpeed, good_getD_numberAt hRadiusField hRadius,
    getD_integerAt_nonpos_iff hHealth (show 1 ≤ 100 by decide), not_false_eq_true, and_self,
    combatPaths, fitsAll_cons_iff, fitsAll_nil_iff]

def inventoryPaths : List (List String) :=
  [["spawn_interval_ticks"], ["max_active_spawns"], ["pickup_queue_capacity"],
    ["max_items_per_player"], ["max_weight_per_player"]]

theorem clean_readInventory_iff (hInventory : ObjectField config "inventory" validateInventory) :
    Clean SettingEvent.Honest (readInventory config) (fun _ => True) ↔
      FitsAll config (inventoryPaths.map ("inventory" :: ·)) := by
  unfold readInventory replaceUnlessPositive
  simp only [clean_bind_iff, clean_replaceIf_iff, clean_pure_iff, and_true,
    decide_eq_false_iff_not, not_or_eq_false_iff]
  have hRadius := positive_literal (D := SingleFloat.Double F) (q := 2.5) 10 (by norm_num)
    (by decide) (by decide)
  have hSpread := nonNegative_literal (D := SingleFloat.Double F) (q := 0.75) 3 (by norm_num)
    (by decide) (by decide)
  refine clean_readObject_fits_iff hInventory
    ⟨by simp, by simp, by simp, hRadius, by simp, by simp, hSpread⟩
    fun inventory hObject hValid => ?_
  simp only [validateInventory, List.append_eq_nil_iff] at hValid
  obtain ⟨⟨⟨⟨⟨⟨hInterval, hSpawns⟩, hCapacity⟩, hRadiusField⟩, hItems⟩, hWeight⟩, hSpreadField⟩ :=
    hValid
  have hInterval := integerField_of_positive hInterval
  have hSpawns := integerField_of_positive hSpawns
  have hCapacity := integerField_of_positive hCapacity
  have hItems := integerField_of_positive hItems
  have hWeight := integerField_of_positive hWeight
  have hRadiusField := numberField_of_reject hRadiusField
  have hSpreadField := numberField_of_reject hSpreadField
  unfold readInventoryFields
  simp only [clean_bind_iff, clean_pure_iff, clean_readInt_iff hInterval hObject (by decide),
    clean_readInt_iff hSpawns hObject (by decide), clean_readInt_iff hCapacity hObject (by decide),
    clean_readInt_iff hItems hObject (by decide), clean_readInt_iff hWeight hObject (by decide),
    clean_readDouble_iff hRadiusField hObject, clean_readDouble_iff hSpreadField hObject,
    good_getD_numberAt hRadiusField hRadius, good_getD_numberAt hSpreadField hSpread,
    getD_integerAt_nonpos_iff hInterval (show 1 ≤ 90 by decide),
    getD_integerAt_nonpos_iff hSpawns (show 1 ≤ 64 by decide),
    getD_integerAt_nonpos_iff hCapacity (show 1 ≤ 2048 by decide),
    getD_integerAt_nonpos_iff hItems (show 1 ≤ 16 by decide),
    getD_integerAt_nonpos_iff hWeight (show 1 ≤ 40 by decide), not_false_eq_true, and_self,
    and_true,
    inventoryPaths, fitsAll_cons_iff, fitsAll_nil_iff]

def profilingPaths : List (List String) :=
  [["report_interval_ticks"], ["history_size_ticks"]] ++ alertsPaths.map ("alerts" :: ·)

theorem proper_default : ({} : ProfilingSettings F).Proper := by
  have hRate : Rate (F := F) (ofRat 1) := by
    have hNonNegative := nonNegative_literal (D := SingleFloat.Double F) (q := 1) 4 (by norm_num)
      (by decide) (by decide)
    refine ⟨hNonNegative.1, ?_⟩
    rw [hNonNegative.2, Bool.false_or]
    exact lt_literal 4 4 (by norm_num) (by norm_num) ⟨by decide, by decide⟩ (by decide)
  have hTolerance := nonNegative_literal (D := SingleFloat.Double F) (q := 0.5) 2 (by norm_num)
    (by decide) (by decide)
  exact ⟨by simp, by simp, hTolerance, hRate, hRate, hRate, by simp⟩

/-- The profiling settings are read as written exactly if their integers fit. -/
theorem clean_readProfiling_iff {profiling : Document F} (hObject : profiling.isObject = true)
    (h : validateProfiling profiling = []) :
    Clean SettingEvent.Honest (readProfiling profiling {}) ProfilingSettings.Proper ↔
      FitsAll profiling profilingPaths := by
  simp only [validateProfiling, List.append_eq_nil_iff] at h
  obtain ⟨⟨⟨⟨⟨hEnabled, hReport⟩, hHistory⟩, hTolerance⟩, hAlerts⟩, hOrder⟩ := h
  have hEnabled := boolField_of_read hEnabled
  have hReport := integerField_of_positive hReport
  have hHistory := integerField_of_positive hHistory
  have hTolerance := numberField_of_reject hTolerance
  have hDefault := proper_default (F := F)
  have hReportAbove : 1 ≤ (integerAt profiling "report_interval_ticks").getD 300 :=
    le_getD_integerAt hReport (by decide)
  have hHistoryAbove : 1 ≤ (integerAt profiling "history_size_ticks").getD 600 :=
    le_getD_integerAt hHistory (by decide)
  rw [value_readIntegerField hReport (by decide), value_readIntegerField hHistory (by decide)]
    at hOrder
  have hOrdered : (integerAt profiling "report_interval_ticks").getD 300 ≤
      (integerAt profiling "history_size_ticks").getD 600 := by
    by_contra hSmaller
    rw [if_pos] at hOrder
    · exact absurd hOrder (addError_ne_nil _ _)
    · simp only [Bool.and_eq_true, decide_eq_true_eq]
      omega
  unfold readProfiling
  simp only [clean_bind_iff, clean_readBool_iff hEnabled hObject,
    clean_readInt_iff hReport hObject (by decide), clean_readInt_iff hHistory hObject (by decide),
    clean_readDouble_iff hTolerance hObject]
  have hSettings : ProfilingSettings.Proper (F := F)
      { enabled := ((profiling.member "enabled").bind fun value => value.getBool.toOption).getD true
        reportIntervalTicks := (integerAt profiling "report_interval_ticks").getD 300
        historySizeTicks := (integerAt profiling "history_size_ticks").getD 600
        tickLagToleranceMs := (numberAt profiling "tick_lag_tolerance_ms").getD (ofRat 0.5) } :=
    { hDefault with
      report := hReportAbove
      history := hOrdered
      tolerance := good_getD_numberAt hTolerance hDefault.tolerance }
  rw [clean_readObject_fits_iff (readObjectField_eq_nil hAlerts) hSettings fun alerts hInner hValid =>
    clean_readAlerts_iff hInner hValid hSettings]
  unfold profilingPaths
  rw [fitsAll_append_iff, fitsAll_cons_iff, fitsAll_cons_iff, fitsAll_nil_iff, and_true, and_assoc]

def runtimePaths : List (List String) :=
  [["tick_rate_hz"], ["snapshot_interval_ticks"], ["input_queue_capacity"]] ++
    profilingPaths.map ("profiling" :: ·)

theorem clean_readRuntime_iff (hRuntime : ObjectField config "runtime" validateRuntime) :
    Clean SettingEvent.Honest (readRuntime config) (fun _ => True) ↔
      FitsAll config (runtimePaths.map ("runtime" :: ·)) := by
  unfold readRuntime
  simp only [clean_bind_iff, clean_replaceIf_iff, clean_pure_iff, clean_checkProfiling_iff,
    and_true, decide_eq_false_iff_not]
  refine clean_readObject_fits_iff hRuntime ⟨by simp, by simp, by simp, proper_default⟩
    fun runtime hObject hValid => ?_
  simp only [validateRuntime, List.append_eq_nil_iff] at hValid
  obtain ⟨⟨⟨⟨⟨⟨⟨⟨hTickRate, hInterval⟩, hCapacity⟩, hSpeed⟩, hMovement⟩, -⟩, hBroadcast⟩, hInclude⟩,
    hProfiling⟩ := hValid
  have hTickRate := integerField_of_positive hTickRate
  have hInterval := integerField_of_positive hInterval
  have hCapacity := integerField_of_positive hCapacity
  have hProfilingFits := clean_readObject_fits_iff (readObjectField_eq_nil hProfiling)
    (proper_default (F := F)) fun profiling hInner hValid => clean_readProfiling_iff hInner hValid
  unfold readRuntimeFields
  simp only [clean_bind_iff, clean_pure_iff, clean_readInt_iff hTickRate hObject (by decide),
    clean_readInt_iff hInterval hObject (by decide), clean_readInt_iff hCapacity hObject (by decide),
    clean_readDouble_iff (numberField_of_reject hSpeed) hObject,
    clean_readBool_iff (boolField_of_read hBroadcast) hObject,
    clean_readBool_iff (boolField_of_read hInclude) hObject,
    getD_integerAt_nonpos_iff hTickRate (show 1 ≤ 30 by decide),
    getD_integerAt_nonpos_iff hInterval (show 1 ≤ 2 by decide),
    getD_integerAt_nonpos_iff hCapacity (show 1 ≤ 2048 by decide), not_false_eq_true, true_and,
    hProfilingFits]
  rw [clean_readObject_const_iff (readObjectField_eq_nil hMovement) fun movement hInner hValid =>
    clean_readMovement_iff hInner hValid]
  unfold runtimePaths
  simp only [List.cons_append, List.nil_append, fitsAll_cons_iff]

end Sections

/-- The paths of the integers that are read as `int`, the port aside. -/
def integerPaths : List (List String) :=
  networkPaths ++ runtimePaths.map ("runtime" :: ·) ++ combatPaths.map ("combat" :: ·) ++
    inventoryPaths.map ("inventory" :: ·) ++ [["match_time_minutes"], ["respawns"]] ++
    matchPaths.map ("match" :: ·) ++ mapPaths.map ("map" :: ·)

example : runtimePaths.map ("runtime" :: ·) =
    [["runtime", "tick_rate_hz"], ["runtime", "snapshot_interval_ticks"],
      ["runtime", "input_queue_capacity"], ["runtime", "profiling", "report_interval_ticks"],
      ["runtime", "profiling", "history_size_ticks"],
      ["runtime", "profiling", "alerts", "min_active_players"]] := rfl

/-- The settings are read without an error, every integer as it is written, and no value is
replaced. -/
def ReadsFaithfully (config : Document F) : Prop :=
  Clean SettingEvent.Honest (readServerSettings config) fun _ => True

/-- All settings of a valid document are read as written exactly if the integers of all sections
fit. -/
theorem clean_readServerSettings_iff [PlainLiterals (SingleFloat.Double F)]
    (h : validateServerConfig config = []) :
    Clean SettingEvent.Honest (readServerSettings config) (fun _ => True) ↔
      FitsAll config integerPaths ∧ DurationFits config := by
  unfold validateServerConfig at h
  split at h
  · exact absurd h (addError_ne_nil _ _)
  · rename_i hRoot
    have hObject : config.isObject = true := by simpa using hRoot
    simp only [List.append_eq_nil_iff] at h
    obtain ⟨⟨⟨⟨⟨⟨⟨⟨⟨⟨⟨hPlayers, hPort⟩, hConnection⟩, hLoot⟩, hSession⟩, hRuntime⟩, hCombat⟩,
      hInventory⟩, hMinutes⟩, hRespawns⟩, hMatch⟩, hMap⟩ := h
    have hPort : IntegerField config "port" 1 65536 := by
      refine integerField_of_reject (by decide) (fun n _ hBad => ?_) hPort
      simp only [Bool.or_eq_false_iff, decide_eq_false_iff_not] at hBad
      omega
    have hNetworkRead := clean_readNetwork_iff hObject (integerField_of_positive hPlayers) hPort
      (readObjectField_eq_nil hConnection) (readObjectField_eq_nil hSession)
    have hMatchRead := clean_readMatch_iff hObject (integerField_of_positive hMinutes)
      (integerField_of_nonNegative hRespawns) (readObjectField_eq_nil hMatch)
    unfold readServerSettings
    simp only [clean_bind_iff, clean_pure_iff]
    rw [clean_readMap_iff (readObjectField_eq_nil hMap), clean_const_iff (m := readMatch config),
      hMatchRead, clean_readString_iff (stringField_of_reject hLoot) hObject,
      clean_const_iff (m := readInventory config),
      clean_readInventory_iff (readObjectField_eq_nil hInventory),
      clean_const_iff (m := readCombat config),
      clean_readCombat_iff (readObjectField_eq_nil hCombat),
      clean_const_iff (m := readRuntime config),
      clean_readRuntime_iff (readObjectField_eq_nil hRuntime),
      clean_const_iff (m := readNetwork config), hNetworkRead]
    unfold integerPaths
    simp only [fitsAll_append_iff, fitsAll_cons_iff, fitsAll_nil_iff, and_true]
    tauto

/-- A configuration without validation errors is read faithfully exactly if its integers fit
an `int` and the duration of the match does. -/
theorem reads_faithfully_iff [PlainLiterals (SingleFloat.Double F)]
    (h : validateServerConfig config = []) :
    ReadsFaithfully config ↔ FitsAll config integerPaths ∧ DurationFits config :=
  clean_readServerSettings_iff h

instance : PlainLiterals (SingleFloat.Double ℚ) := inferInstanceAs (PlainLiterals ℚ)

/-- A small match. -/
def smallConfig : Document ℚ :=
  .object
    [("max_players", .numberUnsigned 16),
      ("match", .object [("duration_seconds", .numberUnsigned 600)]),
      ("runtime", .object [("tick_rate_hz", .numberUnsigned 30)])]

/-- A small document is read as it is written. -/
theorem reads_faithfully_small : ReadsFaithfully smallConfig := by
  have hFits : FitsAll smallConfig integerPaths := by decide +kernel
  exact (reads_faithfully_iff (F := ℚ) (by decide +kernel)).mpr ⟨hFits, Or.inl ⟨_, rfl, rfl⟩⟩

/-- A number of players beyond 32 bits. -/
def crowdedConfig : Document ℚ := .object [("max_players", .numberUnsigned (4294967297))]

/-- A match of so many minutes that its seconds do not fit 32 bits. -/
def longConfig : Document ℚ := .object [("match_time_minutes", .numberUnsigned 36000000)]

/-- Both configurations are valid. One player is admitted where many are meant, and the match
takes an hour where it is meant to take decades. -/
theorem valid_config_misread :
    (validateServerConfig crowdedConfig = [] ∧ ¬ ReadsFaithfully crowdedConfig) ∧
      validateServerConfig longConfig = [] ∧ ¬ ReadsFaithfully longConfig := by
  have hCrowded : ((readServerSettings crowdedConfig).map Prod.snd).toOption =
      some [.integer (2 ^ 32 + 1) 1] := by decide +kernel
  have hLong : ((readServerSettings longConfig).map Prod.snd).toOption =
      some [.integer 36000000 36000000,
        .fallback "Invalid match duration; using 3600 seconds."] := by decide +kernel
  refine ⟨⟨by decide +kernel, ?_⟩, by decide +kernel, ?_⟩
  · rintro ⟨settings, events, hRead, hHonest, -⟩
    rw [hRead] at hCrowded
    injection hCrowded with hEvents
    change events = _ at hEvents
    have hFirst : (1 : Int) = 2 ^ 32 + 1 :=
      hHonest (.integer (2 ^ 32 + 1) 1) (hEvents ▸ List.mem_singleton_self _)
    exact absurd hFirst (by decide)
  · rintro ⟨settings, events, hRead, hHonest, -⟩
    rw [hRead] at hLong
    injection hLong with hEvents
    change events = _ at hEvents
    have hLast := hHonest (.fallback "Invalid match duration; using 3600 seconds.")
      (hEvents ▸ List.mem_cons_of_mem _ (List.mem_singleton_self _))
    exact hLast

end DevyFps.Server
