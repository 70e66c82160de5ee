import DevyFps.Shared.Voxel.ProfileJson

/-! The checks of a server configuration before the server starts. Each field that is written
has its type and its range checked; every failed check adds an error that names the field. -/

namespace DevyFps.Server

open Foundations FloatFormat

variable {D : Type} [FloatFormat D]

def addError (path detail : String) : List String := [path ++ ": " ++ detail]

/-- What is read of a field that may be missing: its value, where it is of the right type,
and the error otherwise. -/
structure FieldRead (α : Type) where
  value : Option α := none
  errors : List String := []

/-- The errors of a read and of a check of the value that was read. -/
def FieldRead.reject {α : Type} (read : FieldRead α) (path : String) (bad : α → Bool)
    (detail : String) : List String :=
  read.errors ++
    match read.value with
    | none => []
    | some value => if bad value then addError path detail else []

/-- An unsigned number is an integer too, so that the second branch is never taken. -/
def toI64 (value : Json D) : Option Int :=
  if value.isNumberInteger then value.getInt64.toOption.map Int64.toInt
  else if value.isNumberUnsigned then
    value.getUInt64.toOption.bind fun raw =>
      if raw.toNat > 2 ^ 63 - 1 then none else some (raw.toNat : Int)
  else none

def readIntegerField (parent : Json D) (key path : String) : FieldRead Int :=
  match parent.member key with
  | none => {}
  | some value =>
      match toI64 value with
      | none => { errors := addError path "expected integer value." }
      | some raw => { value := some raw }

def readNumberField (parent : Json D) (key path : String) : FieldRead D :=
  match parent.member key with
  | none => {}
  | some value =>
      if !value.isNumber then { errors := addError path "expected numeric value." }
      else
        match value.getDouble with
        | .error _ => {}
        | .ok raw =>
            if !isFinite raw then { errors := addError path "expected finite numeric value." }
            else { value := some raw }

def readBoolField (parent : Json D) (key path : String) : FieldRead Bool :=
  match parent.member key with
  | none => {}
  | some (.boolean flag) => { value := some flag }
  | some _ => { errors := addError path "expected boolean value." }

def readStringField (parent : Json D) (key path : String) : FieldRead String :=
  match parent.member key with
  | none => {}
  | some (.string text) => { value := some text }
  | some _ => { errors := addError path "expected string value." }

/-- The errors of a nested object, where there is one. -/
def readObjectField (parent : Json D) (key path : String) (validate : Json D → List String) :
    List String :=
  match parent.member key with
  | none => []
  | some value => if value.isObject then validate value else addError path "expected object."

def validatePositiveInteger (parent : Json D) (key path : String) : List String :=
  (readIntegerField parent key path).reject path (· ≤ 0) "must be greater than zero."

def validateNonNegativeInteger (parent : Json D) (key path : String) : List String :=
  (readIntegerField parent key path).reject path (· < 0) "must be zero or greater."

def validatePositiveNumber (parent : Json D) (key path : String) : List String :=
  (readNumberField parent key path).reject path (le · (ofRat 0)) "must be greater than zero."

def validateNonNegativeNumber (parent : Json D) (key path : String) : List String :=
  (readNumberField parent key path).reject path (lt · (ofRat 0)) "must be zero or greater."

def validateRatioNumber (parent : Json D) (key path : String) : List String :=
  (readNumberField parent key path).reject path
    (fun value => lt value (ofRat 0) || lt (ofRat 1) value) "must be between 0.0 and 1.0."

/-! `validate_server_config`, object by object. -/

def validateConnection (connection : Json D) : List String :=
  (readBoolField connection "port_auto_discovery" "connection.port_auto_discovery").errors ++
    (readStringField connection "runtime_port_file" "connection.runtime_port_file").reject
      "connection.runtime_port_file" String.isEmpty "must not be empty."

def validateSession (session : Json D) : List String :=
  validatePositiveInteger session "heartbeat_timeout_ms" "session.heartbeat_timeout_ms"

def validateMovement (movement : Json D) : List String :=
  validatePositiveNumber movement "accel_ground" "runtime.movement.accel_ground" ++
    validatePositiveNumber movement "accel_air" "runtime.movement.accel_air" ++
    validateNonNegativeNumber movement "friction_ground" "runtime.movement.friction_ground" ++
    validatePositiveNumber movement "max_speed_walk" "runtime.movement.max_speed_walk" ++
    validatePositiveNumber movement "sprint_multiplier" "runtime.movement.sprint_multiplier" ++
    validatePositiveNumber movement "crouch_multiplier" "runtime.movement.crouch_multiplier" ++
    validatePositiveNumber movement "jump_velocity" "runtime.movement.jump_velocity" ++
    validatePositiveNumber movement "gravity" "runtime.movement.gravity"

def validateCamera (camera : Json D) : List String :=
  validatePositiveNumber camera "mouse_sensitivity" "runtime.camera.mouse_sensitivity" ++
    validatePositiveNumber camera "base_fov_degrees" "runtime.camera.base_fov_degrees" ++
    validateNonNegativeNumber camera "sprint_fov_bonus_degrees"
      "runtime.camera.sprint_fov_bonus_degrees" ++
    validatePositiveNumber camera "height_smoothing" "runtime.camera.height_smoothing"

def validateAlerts (alerts : Json D) : List String :=
  validateRatioNumber alerts "max_tick_lag_rate" "runtime.profiling.alerts.max_tick_lag_rate" ++
    validateRatioNumber alerts "max_packet_drop_rate"
      "runtime.profiling.alerts.max_packet_drop_rate" ++
    validateRatioNumber alerts "max_parse_error_rate"
      "runtime.profiling.alerts.max_parse_error_rate" ++
    validateNonNegativeInteger alerts "min_active_players"
      "runtime.profiling.alerts.min_active_players"

/-- The two intervals are also compared with each other, with their defaults where they are
not written. -/
def validateProfiling (profiling : Json D) : List String :=
  let report := readIntegerField profiling "report_interval_ticks"
    "runtime.profiling.report_interval_ticks"
  let history := readIntegerField profiling "history_size_ticks"
    "runtime.profiling.history_size_ticks"
  let reportIntervalTicks := report.value.getD 300
  let historySizeTicks := history.value.getD 600
  (readBoolField profiling "enabled" "runtime.profiling.enabled").errors ++
    report.reject "runtime.profiling.report_interval_ticks" (· ≤ 0)
      "must be greater than zero." ++
    history.reject "runtime.profiling.history_size_ticks" (· ≤ 0) "must be greater than zero." ++
    validateNonNegativeNumber profiling "tick_lag_tolerance_ms"
      "runtime.profiling.tick_lag_tolerance_ms" ++
    readObjectField profiling "alerts" "runtime.profiling.alerts" validateAlerts ++
    if historySizeTicks > 0 && reportIntervalTicks > 0 &&
        historySizeTicks < reportIntervalTicks then
      addError "runtime.profiling.history_size_ticks"
        "must be greater than or equal to report_interval_ticks."
    else []

def validateRuntime (runtime : Json D) : List String :=
  validatePositiveInteger runtime "tick_rate_hz" "runtime.tick_rate_hz" ++
    validatePositiveInteger runtime "snapshot_interval_ticks"
      "runtime.snapshot_interval_ticks" ++
    validatePositiveInteger runtime "input_queue_capacity" "runtime.input_queue_capacity" ++
    validatePositiveNumber runtime "movement_speed_units_per_second"
      "runtime.movement_speed_units_per_second" ++
    readObjectField runtime "movement" "runtime.movement" validateMovement ++
    readObjectField runtime "camera" "runtime.camera" validateCamera ++
    (readBoolField runtime "match_state_broadcast_on_snapshot"
      "runtime.match_state_broadcast_on_snapshot").errors ++
    (readBoolField runtime "snapshot_include_match_scoreboard"
      "runtime.snapshot_include_match_scoreboard").errors ++
    readObjectField runtime "profiling" "runtime.profiling" validateProfiling

def validateCombat (combat : Json D) : List String :=
  validatePositiveInteger combat "starting_health" "combat.starting_health" ++
    validatePositiveNumber combat "hitscan_range_units" "combat.hitscan_range_units" ++
    validatePositiveNumber combat "projectile_range_units" "combat.projectile_range_units" ++
    validatePositiveNumber combat "projectile_speed_units_per_second"
      "combat.projectile_speed_units_per_second" ++
    validatePositiveNumber combat "hit_radius_units" "combat.hit_radius_units"

def validateInventory (inventory : Json D) : List String :=
  validatePositiveInteger inventory "spawn_interval_ticks" "inventory.spawn_interval_ticks" ++
    validatePositiveInteger inventory "max_active_spawns" "inventory.max_active_spawns" ++
    validatePositiveInteger inventory "pickup_queue_capacity"
      "inventory.pickup_queue_capacity" ++
    validatePositiveNumber inventory "pickup_radius_units" "inventory.pickup_radius_units" ++
    validatePositiveInteger inventory "max_items_per_player"
      "inventory.max_items_per_player" ++
    validatePositiveInteger inventory "max_weight_per_player"
      "inventory.max_weight_per_player" ++
    validateNonNegativeNumber inventory "death_drop_spread_units"
      "inventory.death_drop_spread_units"

def validateMatch (matchSection : Json D) : List String :=
  validateNonNegativeInteger matchSection "pre_match_seconds" "match.pre_match_seconds" ++
    validatePositiveInteger matchSection "duration_seconds" "match.duration_seconds" ++
    validateNonNegativeInteger matchSection "respawns_per_player" "match.respawns_per_player" ++
    validatePositiveInteger matchSection "respawn_delay_seconds"
      "match.respawn_delay_seconds" ++
    validatePositiveInteger matchSection "min_players_to_start" "match.min_players_to_start"

def validatePlacement (placement : Json D) : List String :=
  validatePositiveInteger placement "cell_size_chunks"
      "map.world_expansion.placement.cell_size_chunks" ++
    validateNonNegativeInteger placement "jitter_units"
      "map.world_expansion.placement.jitter_units" ++
    validateNonNegativeInteger placement "min_poi_spacing_units"
      "map.world_expansion.placement.min_poi_spacing_units"

def validatePoiTypes (poiTypes : Json D) : List String :=
  (readBoolField poiTypes "outpost" "map.world_expansion.poi_types.outpost").errors ++
    (readBoolField poiTypes "ruins" "map.world_expansion.poi_types.ruins").errors ++
    (readBoolField poiTypes "loot_shrine" "map.world_expansion.poi_types.loot_shrine").errors

def validateWorldExpansion (worldExpansion : Json D) : List String :=
  (readBoolField worldExpansion "enabled" "map.world_expansion.enabled").errors ++
    (readStringField worldExpansion "poi_density" "map.world_expansion.poi_density").reject
      "map.world_expansion.poi_density"
      (fun value => (Voxel.parsePoiDensity (Bytes.ofString value)).isNone)
      "must be one of: low, medium, high." ++
    readObjectField worldExpansion "placement" "map.world_expansion.placement"
      validatePlacement ++
    readObjectField worldExpansion "poi_types" "map.world_expansion.poi_types"
      validatePoiTypes ++
    validatePositiveNumber worldExpansion "loot_bias_multiplier"
      "map.world_expansion.loot_bias_multiplier"

def validateMap (map : Json D) : List String :=
  validatePositiveInteger map "chunks_x" "map.chunks_x" ++
    validatePositiveInteger map "chunks_z" "map.chunks_z" ++
    validatePositiveInteger map "world_height" "map.world_height" ++
    validateNonNegativeInteger map "draw_distance_chunks" "map.draw_distance_chunks" ++
    (readIntegerField map "world_seed" "map.world_seed").reject "map.world_seed"
      (fun value => value < 0 || value > 2 ^ 32 - 1) "must be between 0 and 4294967295." ++
    readObjectField map "world_expansion" "map.world_expansion" validateWorldExpansion

def validateServerConfig (config : Json D) : List String :=
  if !config.isObject then addError "<root>" "expected top-level JSON object."
  else
    validatePositiveInteger config "max_players" "max_players" ++
      (readIntegerField config "port" "port").reject "port"
        (fun value => value ≤ 0 || value > 65535) "must be between 1 and 65535." ++
      readObjectField config "connection" "connection" validateConnection ++
      (readStringField config "loot_drop" "loot_drop").reject "loot_drop"
        (fun value =>
          let lowered := Bytes.lowercase (Bytes.ofString value)
          lowered ≠ Bytes.ofString "all" && lowered ≠ Bytes.ofString "none")
        "must be one of: all, none." ++
      readObjectField config "session" "session" validateSession ++
      readObjectField config "runtime" "runtime" validateRuntime ++
      readObjectField config "combat" "combat" validateCombat ++
      readObjectField config "inventory" "inventory" validateInventory ++
      (readIntegerField config "match_time_minutes" "match_time_minutes").reject
        "match_time_minutes" (· ≤ 0) "must be greater than zero." ++
      (readIntegerField config "respawns" "respawns").reject "respawns" (· < 0)
        "must be zero or greater." ++
      readObjectField config "match" "match" validateMatch ++
      readObjectField config "map" "map" validateMap

/-! What a configuration without errors promises of its fields. -/

/-- A field that is written holds an integer from `low` on below `high`. -/
def IntegerField (parent : Json D) (key : String) (low high : Int) : Prop :=
  ∀ value, parent.member key = some value → ∃ n, value.integer = some n ∧ low ≤ n ∧ n < high

/-- A field that is written holds a finite number that is not a bad one. -/
def NumberField (parent : Json D) (key : String) (bad : D → Bool) : Prop :=
  ∀ value, parent.member key = some value →
    ∃ x, value.getDouble = .ok x ∧ isFinite x = true ∧ bad x = false

def BoolField (parent : Json D) (key : String) : Prop :=
  ∀ value, parent.member key = some value → value.isBoolean = true

def StringField (parent : Json D) (key : String) : Prop :=
  ∀ value, parent.member key = some value → value.isString = true

/-- A rejected field leaves an error. -/
theorem addError_ne_nil (path detail : String) : addError path detail ≠ [] :=
  List.cons_ne_nil _ _

/-- What is read as 64 bits is below their limit. -/
theorem toI64_lt {value : Json D} {n : Int} (h : toI64 value = some n) : n < 2 ^ 63 := by
  have hBound : ∀ raw : Int64, raw.toInt < 2 ^ 63 := fun raw => raw.toInt_lt
  cases value with
  | numberInteger raw =>
      injection h with h
      rw [← h]
      exact hBound raw
  | numberUnsigned raw =>
      injection h with h
      rw [← h]
      exact hBound _
  | _ => cases h

/-- What is read, if it is not negative, is the integer that is written. -/
theorem integer_of_toI64 {value : Json D} {n : Int} (h : toI64 value = some n) (hLow : 0 ≤ n) :
    value.integer = some n := by
  cases value with
  | numberInteger raw => exact h
  | numberUnsigned raw =>
      injection h with h
      rw [← h] at hLow ⊢
      have hBack := Json.toNat_toUInt64_of_nonneg hLow
      rw [UInt64.toUInt64_toInt64] at hBack
      exact congrArg some hBack
  | _ => cases h

/-- An integer that fits 64 bits is read as it is written. -/
theorem toI64_of_integer {value : Json D} {n : Int} (h : value.integer = some n)
    (hFits : n < 2 ^ 63) : toI64 value = some n := by
  cases value with
  | numberInteger raw => exact h
  | numberUnsigned raw =>
      injection h with h
      have hSame : raw.toInt64.toInt = raw.toNat := Json.toInt_toInt64_of_lt (by omega)
      rw [← h]
      exact congrArg some hSame
  | _ => cases h

/-- A field without errors was read without one, and was not rejected. -/
theorem reject_eq_nil {α : Type} {read : FieldRead α} {path detail : String} {bad : α → Bool}
    (h : read.reject path bad detail = []) :
    read.errors = [] ∧ ∀ value, read.value = some value → bad value = false := by
  obtain ⟨hErrors, hChecked⟩ := List.append_eq_nil_iff.mp h
  refine ⟨hErrors, fun value hValue => ?_⟩
  rw [hValue] at hChecked
  dsimp only at hChecked
  split at hChecked
  · exact absurd hChecked (addError_ne_nil _ _)
  · rename_i hGood
    exact Bool.not_eq_true _ ▸ hGood

/-- A checked integer is absent or within the bounds of its check. -/
theorem integerField_of_reject {parent : Json D} {key path detail : String} {bad : Int → Bool}
    {low high : Int} (hLow : 0 ≤ low) (hBad : ∀ n, n < 2 ^ 63 → bad n = false → low ≤ n ∧ n < high)
    (h : (readIntegerField parent key path).reject path bad detail = []) :
    IntegerField parent key low high := by
  obtain ⟨hErrors, hGood⟩ := reject_eq_nil h
  intro value hMember
  unfold readIntegerField at hErrors hGood
  rw [hMember] at hErrors hGood
  dsimp only at hErrors hGood
  cases hRead : toI64 value with
  | none =>
      rw [hRead] at hErrors
      exact absurd hErrors (addError_ne_nil _ _)
  | some n =>
      rw [hRead] at hGood
      obtain ⟨hAbove, hBelow⟩ := hBad n (toI64_lt hRead) (hGood n rfl)
      exact ⟨n, integer_of_toI64 hRead (hLow.trans hAbove), hAbove, hBelow⟩

theorem integerField_of_positive {parent : Json D} {key path : String}
    (h : validatePositiveInteger parent key path = []) :
    IntegerField parent key 1 (2 ^ 63) :=
  integerField_of_reject (by decide)
    (fun _ hFits hBad => ⟨Int.not_le.mp (of_decide_eq_false hBad), hFits⟩) h

theorem integerField_of_nonNegative {parent : Json D} {key path : String}
    (h : validateNonNegativeInteger parent key path = []) :
    IntegerField parent key 0 (2 ^ 63) :=
  integerField_of_reject (by decide)
    (fun _ hFits hBad => ⟨Int.not_lt.mp (of_decide_eq_false hBad), hFits⟩) h

/-- A checked number is absent or passes its check. -/
theorem numberField_of_reject {parent : Json D} {key path detail : String} {bad : D → Bool}
    (h : (readNumberField parent key path).reject path bad detail = []) :
    NumberField parent key bad := by
  obtain ⟨hErrors, hGood⟩ := reject_eq_nil h
  intro value hMember
  unfold readNumberField at hErrors hGood
  rw [hMember] at hErrors hGood
  dsimp only at hErrors hGood
  split at hErrors
  · exact absurd hErrors (addError_ne_nil _ _)
  · rename_i hNumber
    rw [if_neg hNumber] at hGood
    cases hRead : value.getDouble with
    | error e =>
        cases value with
        | numberInteger raw => cases hRead
        | numberUnsigned raw => cases hRead
        | numberFloat raw => cases hRead
        | _ => exact absurd rfl hNumber
    | ok x =>
        rw [hRead] at hErrors hGood
        dsimp only at hErrors hGood
        split at hErrors
        · exact absurd hErrors (addError_ne_nil _ _)
        · rename_i hFinite
          rw [if_neg hFinite] at hGood
          exact ⟨x, rfl, by simpa using hFinite, hGood x rfl⟩

omit [FloatFormat D] in
/-- A flag is absent or a boolean. -/
theorem boolField_of_read {parent : Json D} {key path : String}
    (h : (readBoolField parent key path).errors = []) : BoolField parent key := by
  intro value hMember
  unfold readBoolField at h
  rw [hMember] at h
  cases value with
  | boolean flag => rfl
  | _ => exact absurd h (addError_ne_nil _ _)

omit [FloatFormat D] in
/-- A checked text is absent or passes its check. -/
theorem stringField_of_reject {parent : Json D} {key path detail : String}
    {bad : String → Bool} (h : (readStringField parent key path).reject path bad detail = []) :
    StringField parent key := by
  obtain ⟨hErrors, -⟩ := reject_eq_nil h
  intro value hMember
  unfold readStringField at hErrors
  rw [hMember] at hErrors
  cases value with
  | string text => rfl
  | _ => exact absurd hErrors (addError_ne_nil _ _)

omit [FloatFormat D] in
/-- A section without errors is absent, or an object whose fields have none. -/
theorem readObjectField_eq_nil {parent : Json D} {key path : String}
    {validate : Json D → List String} (h : readObjectField parent key path validate = []) :
    ∀ inner, parent.member key = some inner → inner.isObject = true ∧ validate inner = [] := by
  intro inner hMember
  unfold readObjectField at h
  rw [hMember] at h
  dsimp only at h
  split at h
  · rename_i hObject
    exact ⟨hObject, h⟩
  · exact absurd h (addError_ne_nil _ _)

end DevyFps.Server
