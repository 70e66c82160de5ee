import DevyFps.Client.AuthoritativeEventFeed

/-! What the player is shown of its own state, overwritten by the messages of the server. -/

namespace DevyFps.Client

open Foundations Net

variable {F : Type} [SingleFloat F]

structure AuthoritativeHudModel where
  hasPlayerState : Bool := false
  health : Int := 0
  alive : Bool := true
  lastShotSeq : Nat := 0
  coins : Int := 0
  inventoryItems : Nat := 0
  matchState : String := "unknown"
  matchRemainingSeconds : Int := -1
  deriving DecidableEq

section Assign

variable {α : Type} [DecidableEq α]

def assignIfChanged (target next : α) : Bool × α :=
  if target = next then (false, target) else (true, next)

/-- The assignment of a value that could be read; otherwise nothing is assigned. -/
def assignRead (target : α) : Option α → Bool × α
  | some next => assignIfChanged target next
  | none => (false, target)

theorem assignIfChanged_eq (target next : α) :
    assignIfChanged target next = (decide (target ≠ next), next) := by
  unfold assignIfChanged
  split
  · rename_i hSame
    simp [hSame]
  · rename_i hChanged
    simp [hChanged]

theorem assignRead_eq (target : α) (read : Option α) :
    assignRead target read = (decide (target ≠ read.getD target), read.getD target) := by
  cases read with
  | none => simp [assignRead]
  | some next => exact assignIfChanged_eq target next

end Assign

/-- `json_to_floor_seconds`, which never fails. -/
def readFloorSeconds (value : Document F) : Option Int := (jsonToFloorSeconds value).toOption.join

/-- A member that is a string. -/
def readText (payload : Document F) (field : String) : Option String :=
  match payload.member field with
  | some (.string text) => some text
  | _ => none

/-- A member that is Boolean. -/
def readFlag (payload : Document F) (field : String) : Option Bool :=
  match payload.member field with
  | some (.boolean flag) => some flag
  | _ => none

namespace AuthoritativeHudModel

def reset (_ : AuthoritativeHudModel) : AuthoritativeHudModel := {}

/-! Every method tells whether it changed anything. -/

def applyMatchState (s : AuthoritativeHudModel) (payload : Document F) :
    Bool × AuthoritativeHudModel :=
  if !payload.isObject then (false, s)
  else
    let matchState := assignRead s.matchState (readText payload "state")
    let seconds := assignRead s.matchRemainingSeconds
      (readFloorSeconds (payload.value "remaining_seconds" .null))
    (matchState.1 || seconds.1,
      { s with matchState := matchState.2, matchRemainingSeconds := seconds.2 })

/-- The entry of the player in a snapshot, at which the loop stops. -/
def localPlayer (snapshotPayload : Document F) (localPlayerId : Nat) : Option (Document F) :=
  (snapshotPayload.value "players" .null).elements.find? fun player =>
    player.isObject && readU32 (player.value "player_id" .null) == some localPlayerId

def applyPlayer (s : AuthoritativeHudModel) (player : Document F) :
    Bool × AuthoritativeHudModel :=
  let hasPlayerState := assignIfChanged s.hasPlayerState true
  let health := assignRead s.health (readI32 (player.value "health" .null))
  let alive := assignRead s.alive (readFlag player "alive")
  let shotSeq := assignRead s.lastShotSeq (readU32 (player.value "last_shot_seq" .null))
  let coins := assignRead s.coins (readI32 (player.value "coins" .null))
  let items := assignRead s.inventoryItems (readU32 (player.value "inventory_items" .null))
  (hasPlayerState.1 || health.1 || alive.1 || shotSeq.1 || coins.1 || items.1,
    { s with
      hasPlayerState := hasPlayerState.2
      health := health.2
      alive := alive.2
      lastShotSeq := shotSeq.2
      coins := coins.2
      inventoryItems := items.2 })

def applySnapshot (s : AuthoritativeHudModel) (snapshotPayload : Document F)
    (localPlayerId : Nat) : Bool × AuthoritativeHudModel :=
  if !snapshotPayload.isObject then (false, s)
  else
    let told :=
      match localPlayer snapshotPayload localPlayerId with
      | some player => s.applyPlayer player
      | none => (false, s)
    match snapshotPayload.member "match_state" with
    | some matchState =>
        if matchState.isObject then
          let changed := told.2.applyMatchState matchState
          (told.1 || changed.1, changed.2)
        else told
    | none => told

def applyInventoryUpdate (s : AuthoritativeHudModel) (payload : Document F)
    (localPlayerId : Nat) : Bool × AuthoritativeHudModel :=
  if !payload.isObject then (false, s)
  else if readU32 (payload.value "player_id" .null) ≠ some localPlayerId then (false, s)
  else
    let hasPlayerState := assignIfChanged s.hasPlayerState true
    let coins := assignRead s.coins (readI32 (payload.value "coins" .null))
    let items := assignRead s.inventoryItems (readU32 (payload.value "item_count" .null))
    (hasPlayerState.1 || coins.1 || items.1,
      { s with
        hasPlayerState := hasPlayerState.2
        coins := coins.2
        inventoryItems := items.2 })

def applyDamageEvent (s : AuthoritativeHudModel) (payload : Document F) (localPlayerId : Nat) :
    Bool × AuthoritativeHudModel :=
  if !payload.isObject then (false, s)
  else if readU32 (payload.value "victim_id" .null) ≠ some localPlayerId then (false, s)
  else
    let victimHealth := readI32 (payload.value "victim_health" .null)
    let health := assignRead s.health victimHealth
    let hasPlayerState := assignRead s.hasPlayerState (victimHealth.map fun _ => true)
    let alive := assignRead s.alive ((readFlag payload "lethal").map fun lethal => !lethal)
    (health.1 || hasPlayerState.1 || alive.1,
      { s with
        health := health.2
        hasPlayerState := hasPlayerState.2
        alive := alive.2 })

theorem applyMatchState_eq (s : AuthoritativeHudModel) {payload : Document F}
    (h : payload.isObject = true) :
    (s.applyMatchState payload).2 =
      { s with
        matchState := (readText payload "state").getD s.matchState
        matchRemainingSeconds :=
          (readFloorSeconds (payload.value "remaining_seconds" .null)).getD
            s.matchRemainingSeconds } := by
  unfold applyMatchState
  rw [h]
  simp only [Bool.not_true, Bool.false_eq_true, if_false, assignRead_eq]

theorem applyPlayer_eq (s : AuthoritativeHudModel) (player : Document F) :
    (s.applyPlayer player).2 =
      { s with
        hasPlayerState := true
        health := (readI32 (player.value "health" .null)).getD s.health
        alive := (readFlag player "alive").getD s.alive
        lastShotSeq := (readU32 (player.value "last_shot_seq" .null)).getD s.lastShotSeq
        coins := (readI32 (player.value "coins" .null)).getD s.coins
        inventoryItems :=
          (readU32 (player.value "inventory_items" .null)).getD s.inventoryItems } := by
  unfold applyPlayer
  simp only [assignRead_eq, assignIfChanged_eq]

end AuthoritativeHudModel

end DevyFps.Client
