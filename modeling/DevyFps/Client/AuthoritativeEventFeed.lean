import DevyFps.Shared.Net.JsonNumbers

/-! The messages that the client shows for events of the server. A hit is reported twice, and
a short memory of what was shown keeps the second report silent. -/

namespace DevyFps.Client

open Foundations FloatFormat Net

variable {F : Type} [SingleFloat F]

structure DamageSignature where
  tick : Nat := 0
  attackerId : Nat := 0
  victimId : Nat := 0
  shotSeq : Nat := 0
  deriving DecidableEq, Repr

structure AuthoritativeEventFeed where
  lastMatchState : String := "unknown"
  recentDamageSignatures : List DamageSignature := []

def kMaxDamageSignatures : Nat := 64

def jsonToFloorSeconds (value : Document F) : Except JsonError (Option Int) :=
  if !value.isNumber then .ok none
  else
    value.getDouble.map fun raw =>
      let floored := floor raw
      if !isFinite raw then none
      else if lt floored (ofInt (-2 ^ 31)) || lt (ofInt (2 ^ 31 - 1)) floored then none
      else some (truncate floored)

def pickupStatusMessage (eventPayload : Document F) : Except JsonError String := do
  let status ← eventPayload.valueAs Json.getString "status" "unknown"
  if status = "collected" then
    let treasureId ← eventPayload.valueAs Json.getString "treasure_id" "treasure"
    let totalValue ← eventPayload.valueAs Json.getInt "total_value" 0
    let itemCount ← eventPayload.valueAs Json.getInt "item_count" 0
    return "Pickup collected: " ++ treasureId ++ " | Coins " ++ toString totalValue.toInt ++
      " | Items " ++ toString itemCount.toInt
  if status = "inventory_capacity_exceeded" then return "Pickup failed: inventory full"
  if status = "weight_limit_exceeded" then return "Pickup failed: over weight limit"
  if status = "out_of_range" then return "Pickup failed: out of range"
  if status = "unknown_spawn" then return "Pickup failed: spawn unavailable"
  if status = "duplicate_pickup" then return "Pickup failed: already collected"
  if status = "player_dead" then return "Pickup failed: player is down"
  if status = "player_missing" then return "Pickup failed: player unavailable"
  return "Pickup failed: " ++ status

namespace AuthoritativeEventFeed

def reset (_ : AuthoritativeEventFeed) : AuthoritativeEventFeed := {}

def isDuplicateDamage (s : AuthoritativeEventFeed) (signature : DamageSignature) : Bool :=
  s.recentDamageSignatures.any (· == signature)

/-- The memory after one more signature: the oldest one is dropped where it is full. -/
def remember (known : List DamageSignature) (signature : DamageSignature) :
    List DamageSignature :=
  if (known ++ [signature]).length > kMaxDamageSignatures then (known ++ [signature]).tail
  else known ++ [signature]

def rememberDamage (s : AuthoritativeEventFeed) (signature : DamageSignature) :
    AuthoritativeEventFeed :=
  { s with recentDamageSignatures := remember s.recentDamageSignatures signature }

/-- The message for a hit that was not shown before. -/
def damageMessage (payload : Document F) (localPlayerId attackerId victimId : Nat)
    (damage : Int) : Except JsonError (Option String) := do
  let lethal ← payload.valueAs Json.getBool "lethal" false
  if attackerId = localPlayerId ∧ victimId ≠ localPlayerId then
    return some (if lethal then "Elimination confirmed" else "Hit confirmed: " ++ toString damage)
  if victimId = localPlayerId then
    return some (if lethal then "You were eliminated" else "Damage taken: " ++ toString damage)
  return none

def consumeDamageEvent (s : AuthoritativeEventFeed) (payload : Document F)
    (localPlayerId : Nat) : Except JsonError (Option String × AuthoritativeEventFeed) := do
  if !payload.isObject then return (none, s)
  let attackerId ← jsonToU32 (← payload.valueJson "attacker_id")
  let victimId ← jsonToU32 (← payload.valueJson "victim_id")
  let damage ← jsonToI32 (← payload.valueJson "damage")
  let (some attackerId, some victimId, some damage) := (attackerId, victimId, damage)
    | return (none, s)
  let shotSeq ← jsonToU32 (← payload.valueJson "shot_seq")
  let tick ← jsonToU64 (← payload.valueJson "tick")
  match shotSeq, tick with
  | some shotSeq, some tick =>
      let signature : DamageSignature := { tick, attackerId, victimId, shotSeq }
      if s.isDuplicateDamage signature then return (none, s)
      let message ← damageMessage payload localPlayerId attackerId victimId damage
      return (message, s.rememberDamage signature)
  | _, _ =>
      let message ← damageMessage payload localPlayerId attackerId victimId damage
      return (message, s)

def consumeReliableDamageEvent (s : AuthoritativeEventFeed) (payload : Document F)
    (localPlayerId : Nat) : Except JsonError (Option String × AuthoritativeEventFeed) :=
  s.consumeDamageEvent payload localPlayerId

/-- The message for a phase of the match, if it is a new one. -/
def phaseMessage (s : AuthoritativeEventFeed) (state : String) (remainingSeconds : Option Int) :
    Option String × AuthoritativeEventFeed :=
  if state = s.lastMatchState then (none, s)
  else
    (some
      (match remainingSeconds with
      | some seconds => "Phase: " ++ state ++ " (" ++ toString seconds ++ "s)"
      | none => "Phase: " ++ state),
      { s with lastMatchState := state })

def consumeReliableMatchState (s : AuthoritativeEventFeed) (payload : Document F) :
    Except JsonError (Option String × AuthoritativeEventFeed) := do
  if !payload.isObject then return (none, s)
  let state ← payload.valueAs Json.getString "state" "unknown"
  if state = s.lastMatchState then return (none, s)
  let remainingSeconds ← jsonToFloorSeconds (← payload.valueJson "remaining_seconds")
  return s.phaseMessage state remainingSeconds

/-- An event of a snapshot by its type, with the message that it leads to. -/
def consumeEventOfType (s : AuthoritativeEventFeed) (eventType : String)
    (eventPayload : Document F) (localPlayerId : Nat) :
    Except JsonError (Option String × AuthoritativeEventFeed) := do
  if eventType = "damage_event" then s.consumeDamageEvent eventPayload localPlayerId
  else if eventType = "death_event" then
    let victimId ← jsonToU32 (← eventPayload.valueJson "victim_id")
    let killerId ← jsonToU32 (← eventPayload.valueJson "killer_id")
    if victimId = some localPlayerId then return (some "Eliminated", s)
    if killerId = some localPlayerId then return (some "Elimination confirmed", s)
    return (none, s)
  else if eventType = "treasure_pickup" then
    let playerId ← jsonToU32 (← eventPayload.valueJson "player_id")
    if playerId ≠ some localPlayerId then return (none, s)
    return (some (← pickupStatusMessage eventPayload), s)
  else if eventType = "respawn_event" then
    let playerId ← jsonToU32 (← eventPayload.valueJson "player_id")
    if playerId ≠ some localPlayerId then return (none, s)
    return (some "Respawned", s)
  else if eventType = "match_state_changed" then
    let state ← eventPayload.valueAs Json.getString "state" "unknown"
    let remainingSeconds ← jsonToFloorSeconds (← eventPayload.valueJson "remaining_seconds")
    return s.phaseMessage state remainingSeconds
  else return (none, s)

/-- The body of the loop over the events of a snapshot. -/
def consumeEvent (localPlayerId : Nat) (acc : List String × AuthoritativeEventFeed)
    (eventPayload : Document F) : Except JsonError (List String × AuthoritativeEventFeed) := do
  if !eventPayload.isObject || !eventPayload.contains "type" then return acc
  let eventType ← eventPayload.index "type"
  if !eventType.isString then return acc
  let consumed ← acc.2.consumeEventOfType (← eventType.getString) eventPayload localPlayerId
  return (acc.1 ++ consumed.1.toList, consumed.2)

def consumeSnapshotEvents (s : AuthoritativeEventFeed) (snapshotPayload : Document F)
    (localPlayerId : Nat) : Except JsonError (List String × AuthoritativeEventFeed) := do
  if !snapshotPayload.isObject || !snapshotPayload.contains "events" then return ([], s)
  let events ← snapshotPayload.index "events"
  if !events.isArray then return ([], s)
  events.elements.foldlM (consumeEvent localPlayerId) ([], s)

end AuthoritativeEventFeed

end DevyFps.Client
