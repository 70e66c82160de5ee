import DevyFps.Server.ServerCast
import DevyFps.Shared.Net.JsonNumbers
import DevyFps.Shared.Net.ProtocolGrammar

/-! The receive handler of `main`, with every access to the document of a packet as the
source makes it. On a packet that the parser accepted no access fails, and the handler does
what `receive` does with the message that was read. -/

namespace DevyFps.Server

open Foundations FloatFormat Net

namespace MainLoop

variable {F : Type} [SingleFloat F]

/-- What a branch of the handler leaves, if no access to the document fails. -/
abbrev Handled (F : Type) [SingleFloat F] := Except JsonError (PacketOutcome F × MainLoop F)

def handleJoin (s : MainLoop F) (peerToken : PeerToken) (payload : Document F)
    (now : TimePoint) : Handled F := do
  let playerName ← (← payload.index "player_name").getString
  let joined := s.receiveJoin peerToken (Bytes.ofString playerName) now
  return (.join joined.1, joined.2)

def handleHeartbeat (s : MainLoop F) (peerToken : PeerToken) (session : SessionView)
    (payload : Document F) (now : TimePoint) : Handled F := do
  let heartbeatPlayerId ← jsonToU32 (← payload.index "player_id")
  if heartbeatPlayerId ≠ some session.playerId then return (.rejected, s)
  return (.heard, s.hear peerToken now)

def handleInput (s : MainLoop F) (peerToken : PeerToken) (session : SessionView)
    (payload : Document F) (now : TimePoint) : Handled F := do
  let inputPlayerId ← jsonToU32 (← payload.index "player_id")
  let inputSeq ← jsonToU32 (← payload.index "input_seq")
  let moveX ← jsonToFloat (← payload.index "move_x")
  let moveY ← jsonToFloat (← payload.index "move_y")
  let (some playerId, some inputSeq, some moveX, some moveY) :=
      (inputPlayerId, inputSeq, moveX, moveY)
    | return (.rejected, s)
  if playerId ≠ session.playerId then return (.rejected, s)
  let jump ← (← payload.index "jump").getBool
  let sprint ← (← payload.index "sprint").getBool
  let crouch ← (← payload.index "crouch").getBool
  let fire ← (← payload.index "fire").getBool
  let input : PlayerInputCommand F :=
    { playerId, inputSeq, moveX, moveY, jump, sprint, crouch, fire, receivedAt := now }
  let queued := s.authoritativeLoop.enqueueInput input
  return (.input input queued.1, { s with authoritativeLoop := queued.2 }.hear peerToken now)

/-- The id that a block update names; without one it is that of the session. -/
def blockPlayerId (session : SessionView) (payload : Document F) :
    Except JsonError (Option Nat) := do
  if payload.contains "player_id" then jsonToU32 (← payload.index "player_id")
  else return some session.playerId

def handleBlockUpdate (s : MainLoop F) (peerToken : PeerToken) (session : SessionView)
    (payload : Document F) (now : TimePoint) : Handled F := do
  let commandPlayerId ← blockPlayerId session payload
  let worldX ← jsonToI32 (← payload.index "x")
  let worldY ← jsonToI32 (← payload.index "y")
  let worldZ ← jsonToI32 (← payload.index "z")
  let blockId ← jsonToU8 (← payload.index "block_id")
  let some playerId := commandPlayerId | return (.rejected, s)
  let (some worldX, some worldY, some worldZ, some blockId) := (worldX, worldY, worldZ, blockId)
    | return (.rejected, s)
  if playerId ≠ session.playerId then return (.rejected, s)
  let command : BlockUpdateCommand := { playerId, worldX, worldY, worldZ, blockId }
  let applied := s.blockInteraction.apply command s.world
  let marked :=
    if applied.1.applied then
      s.worldReplication.markChunkDirty ⟨applied.1.chunkX, applied.1.chunkY, applied.1.chunkZ⟩
    else s.worldReplication
  return (.block command applied.1,
    { s with world := applied.2, worldReplication := marked }.hear peerToken now)

/-- A coordinate of a vector of the payload; a value that is no object has none. -/
def coordinate (vector : Document F) (axis : String) : Except JsonError (Option F) := do
  if vector.isObject then jsonToFloat (← vector.valueJson axis) else return none

def handleFire (s : MainLoop F) (peerToken : PeerToken) (session : SessionView)
    (payload : Document F) (now : TimePoint) : Handled F := do
  if (s.matchLifecycleSimulation.state s.tickInterval).phase ≠ .inMatch then
    return (.rejected, s.hear peerToken now)
  let firePlayerId ← jsonToU32 (← payload.index "player_id")
  let shotSeq ← jsonToU32 (← payload.index "shot_seq")
  let weaponId ← payload.index "weapon_id"
  let origin ← payload.index "origin"
  let direction ← payload.index "direction"
  let originX ← coordinate origin "x"
  let originY ← coordinate origin "y"
  let directionX ← coordinate direction "x"
  let directionY ← coordinate direction "y"
  let (some attackerId, some shotSeq, true, some originX, some originY, some directionX,
      some directionY) :=
      (firePlayerId, shotSeq, weaponId.isString, originX, originY, directionX, directionY)
    | return (.rejected, s)
  if attackerId ≠ session.playerId then return (.rejected, s)
  let weaponId ← weaponId.getString
  let fire : FireCommand F :=
    { attackerId, shotSeq, weaponId := Bytes.ofString weaponId, originX, originY, directionX
      directionY, receivedAt := now }
  let queued := s.combatSimulation.enqueueFire fire
  return (.fire fire queued.1, { s with combatSimulation := queued.2 }.hear peerToken now)

def handlePickup (s : MainLoop F) (peerToken : PeerToken) (session : SessionView)
    (payload : Document F) (now : TimePoint) : Handled F := do
  if (s.matchLifecycleSimulation.state s.tickInterval).phase ≠ .inMatch then
    return (.rejected, s.hear peerToken now)
  let pickupPlayerId ← jsonToU32 (← payload.index "player_id")
  let pickupSeq ← jsonToU32 (← payload.index "pickup_seq")
  let spawnId ← jsonToU64 (← payload.index "spawn_id")
  let (some playerId, some pickupSeq, some spawnId) := (pickupPlayerId, pickupSeq, spawnId)
    | return (.rejected, s)
  if playerId ≠ session.playerId then return (.rejected, s)
  let pickup : TreasurePickupCommand := { playerId, pickupSeq, spawnId, receivedAt := now }
  let queued := s.inventoryLootSimulation.enqueuePickup pickup
  return (.pickup pickup queued.1,
    { s with inventoryLootSimulation := queued.2 }.hear peerToken now)

/-- The branches that ask for a session first. -/
def handleForSession (s : MainLoop F) (peerToken : PeerToken)
    (handle : SessionView → Handled F) : Handled F :=
  match s.sessionManager.sessionForPeer peerToken with
  | none => .ok (.rejected, s)
  | some session => handle session

/-- The chain of branches for a packet that was parsed. -/
def receivePacket (s : MainLoop F) (peerToken : PeerToken)
    (packet : Net.Packet (SingleFloat.Double F)) (now : TimePoint) : Handled F :=
  match packet.type with
  | .joinRequest => s.handleJoin peerToken packet.payload now
  | .heartbeat => s.handleForSession peerToken fun session =>
      s.handleHeartbeat peerToken session packet.payload now
  | .playerInput => s.handleForSession peerToken fun session =>
      s.handleInput peerToken session packet.payload now
  | .blockUpdate => s.handleForSession peerToken fun session =>
      s.handleBlockUpdate peerToken session packet.payload now
  | .weaponFire => s.handleForSession peerToken fun session =>
      s.handleFire peerToken session packet.payload now
  | .treasurePickup => s.handleForSession peerToken fun session =>
      s.handlePickup peerToken session packet.payload now
  | _ =>
      let heard := s.sessionManager.handleHeartbeat peerToken now
      .ok (if heard.1 then .heard else .rejected, { s with sessionManager := heard.2 })

/-- The case of a received packet in the loop; one that is not accepted is dropped. -/
def receiveData (parse : Bytes → Option (Document F)) (s : MainLoop F) (peerToken : PeerToken)
    (data : Bytes) (now : TimePoint) : Handled F :=
  match tryDeserialize parse data with
  | .error _ => .ok (.rejected, s)
  | .ok packet => s.receivePacket peerToken packet now

/-! The messages that the handler acts on. -/

/-- The text of a value that is known to be a string. -/
def textOf : Document F → Bytes
  | .string text => Bytes.ofString text
  | _ => []

/-- The truth of a value that is known to be Boolean. -/
def flagOf : Document F → Bool
  | .boolean flag => flag
  | _ => false

def readInput (payload : Document F) : Option (PlayerInputCommand F) := do
  let playerId ← readU32 (payload.value "player_id" .null)
  let inputSeq ← readU32 (payload.value "input_seq" .null)
  let moveX ← readFloat (payload.value "move_x" .null)
  let moveY ← readFloat (payload.value "move_y" .null)
  return {
    playerId, inputSeq, moveX, moveY
    jump := flagOf (payload.value "jump" .null)
    sprint := flagOf (payload.value "sprint" .null)
    crouch := flagOf (payload.value "crouch" .null)
    fire := flagOf (payload.value "fire" .null) }

def readBlockUpdate (payload : Document F) : Option BlockUpdateCommand := do
  let worldX ← readI32 (payload.value "x" .null)
  let worldY ← readI32 (payload.value "y" .null)
  let worldZ ← readI32 (payload.value "z" .null)
  let blockId ← readU8 (payload.value "block_id" .null)
  return { worldX, worldY, worldZ, blockId }

def readFire (payload : Document F) : Option (FireCommand F) := do
  let origin := payload.value "origin" .null
  let direction := payload.value "direction" .null
  let attackerId ← readU32 (payload.value "player_id" .null)
  let shotSeq ← readU32 (payload.value "shot_seq" .null)
  let originX ← readFloat (origin.value "x" .null)
  let originY ← readFloat (origin.value "y" .null)
  let directionX ← readFloat (direction.value "x" .null)
  let directionY ← readFloat (direction.value "y" .null)
  return {
    attackerId, shotSeq, originX, originY, directionX, directionY
    weaponId := textOf (payload.value "weapon_id" .null) }

def readPickup (payload : Document F) : Option TreasurePickupCommand := do
  let playerId ← readU32 (payload.value "player_id" .null)
  let pickupSeq ← readU32 (payload.value "pickup_seq" .null)
  let spawnId ← readU64 (payload.value "spawn_id" .null)
  return { playerId, pickupSeq, spawnId }

/-- The packet of the loop that a packet of the protocol is. -/
def readPacket (packet : Net.Packet (SingleFloat.Double F)) : Packet F :=
  match packet.type with
  | .joinRequest => .joinRequest (textOf (packet.payload.value "player_name" .null))
  | .heartbeat => .message (.heartbeat (readU32 (packet.payload.value "player_id" .null)))
  | .playerInput => .message (.playerInput (readInput packet.payload))
  | .blockUpdate =>
      .message (.blockUpdate ((packet.payload.member "player_id").map readU32)
        (readBlockUpdate packet.payload))
  | .weaponFire => .message (.weaponFire (readFire packet.payload))
  | .treasurePickup => .message (.treasurePickup (readPickup packet.payload))
  | _ => .message .other

variable {payload : Document F} (s : MainLoop F) (peerToken : PeerToken)
  (session : SessionView) (now : TimePoint)

/-- A required field is there. -/
theorem index_required {schema : MessageSchema} (h : MeetsSchema schema payload)
    {field : FieldRule} (hField : field ∈ schema.fields) (hRequired : field.required = true) :
    payload.index field.name = .ok (payload.value field.name .null) := by
  obtain ⟨value, hValue⟩ := Option.isSome_iff_exists.mp (h.present field hField hRequired)
  rw [Json.index_of_member hValue]
  unfold Json.value
  rw [hValue]
  rfl

/-- And it is of its type. -/
theorem matchesType_required {schema : MessageSchema} (h : MeetsSchema schema payload)
    {field : FieldRule} (hField : field ∈ schema.fields) (hRequired : field.required = true) :
    matchesType (payload.value field.name .null) field.type = true := by
  obtain ⟨value, hValue⟩ := Option.isSome_iff_exists.mp (h.present field hField hRequired)
  unfold Json.value
  rw [hValue]
  exact h.typed field hField value hValue

theorem getBool_eq {value : Document F} (h : value.isBoolean = true) :
    value.getBool = .ok (flagOf value) := by
  obtain ⟨flag, rfl⟩ := Json.getBool_of_isBoolean h
  rfl

/-- The handler of inputs on a payload that meets its schema: no access fails, and the fields are
as they are read. -/
theorem handleInput_eq {name : String}
    (h : MeetsSchema ⟨.playerInput, name, kPlayerInputFields⟩ payload) :
    s.handleInput peerToken session payload now =
      .ok (s.receiveInput peerToken session (readInput payload) now) := by
  have hIndex : ∀ field type, ⟨field, type, true⟩ ∈ kPlayerInputFields →
      payload.index field = .ok (payload.value field .null) :=
    fun _ _ hField => index_required h hField rfl
  have hFlag : ∀ field, ⟨field, .boolean, true⟩ ∈ kPlayerInputFields →
      (payload.value field .null).getBool = .ok (flagOf (payload.value field .null)) :=
    fun _ hField => getBool_eq (matchesType_required h hField rfl)
  unfold handleInput
  rw [hIndex "player_id" .integer (by decide), hIndex "input_seq" .integer (by decide),
    hIndex "move_x" .number (by decide), hIndex "move_y" .number (by decide),
    hIndex "jump" .boolean (by decide), hIndex "sprint" .boolean (by decide),
    hIndex "crouch" .boolean (by decide), hIndex "fire" .boolean (by decide)]
  simp only [ok_bind, jsonToU32_eq, jsonToFloat_eq, hFlag "jump" (by decide),
    hFlag "sprint" (by decide), hFlag "crouch" (by decide), hFlag "fire" (by decide)]
  unfold receiveInput readInput
  cases readU32 (payload.value "player_id" .null) with
  | none => rfl
  | some playerId =>
      cases readU32 (payload.value "input_seq" .null) with
      | none => rfl
      | some inputSeq =>
          cases readFloat (payload.value "move_x" .null) with
          | none => rfl
          | some moveX =>
              cases readFloat (payload.value "move_y" .null) with
              | none => rfl
              | some moveY =>
                  by_cases hId : playerId ≠ session.playerId
                  · exact (if_pos hId).trans (congrArg Except.ok (if_pos hId).symm)
                  · exact (if_neg hId).trans (congrArg Except.ok (if_neg hId).symm)

/-- The same of block updates, whose player may be left out. -/
theorem handleBlockUpdate_eq {name : String}
    (h : MeetsSchema ⟨.blockUpdate, name, kBlockUpdateFields⟩ payload) :
    s.handleBlockUpdate peerToken session payload now =
      .ok (s.receiveBlockUpdate peerToken session ((payload.member "player_id").map readU32)
        (readBlockUpdate payload) now) := by
  have hIndex : ∀ field type, ⟨field, type, true⟩ ∈ kBlockUpdateFields →
      payload.index field = .ok (payload.value field .null) :=
    fun _ _ hField => index_required h hField rfl
  have hId : blockPlayerId session payload =
      .ok (((payload.member "player_id").map readU32).getD (some session.playerId)) := by
    unfold blockPlayerId Json.contains
    cases hMember : payload.member "player_id" with
    | none => rfl
    | some value =>
        rw [Json.index_of_member hMember, ok_bind, jsonToU32_eq]
        rfl
  unfold handleBlockUpdate
  rw [hId, hIndex "x" .integer (by decide), hIndex "y" .integer (by decide),
    hIndex "z" .integer (by decide), hIndex "block_id" .integer (by decide)]
  simp only [ok_bind, jsonToI32_eq, jsonToU8_eq]
  unfold receiveBlockUpdate readBlockUpdate
  cases ((payload.member "player_id").map readU32).getD (some session.playerId) with
  | none => rfl
  | some playerId =>
      cases readI32 (payload.value "x" .null) with
      | none => rfl
      | some worldX =>
          cases readI32 (payload.value "y" .null) with
          | none => rfl
          | some worldY =>
              cases readI32 (payload.value "z" .null) with
              | none => rfl
              | some worldZ =>
                  cases readU8 (payload.value "block_id" .null) with
                  | none => rfl
                  | some blockId =>
                      by_cases hId : playerId ≠ session.playerId
                      · exact (if_pos hId).trans (congrArg Except.ok (if_pos hId).symm)
                      · exact (if_neg hId).trans (congrArg Except.ok (if_neg hId).symm)

/-- A coordinate is read from any vector. -/
theorem coordinate_eq (vector : Document F) (axis : String) :
    coordinate vector axis = .ok (readFloat (vector.value axis .null)) := by
  unfold coordinate
  cases hObject : vector.isObject with
  | true =>
      rw [if_pos rfl, Json.valueJson_of_isObject hObject, ok_bind, jsonToFloat_eq]
  | false =>
      cases vector with
      | object members => cases hObject
      | _ => rfl

/-- The same of shots. -/
theorem handleFire_eq {name : String}
    (h : MeetsSchema ⟨.weaponFire, name, kWeaponFireFields⟩ payload) :
    s.handleFire peerToken session payload now =
      .ok (s.receiveFire peerToken session (readFire payload) now) := by
  have hIndex : ∀ field type, ⟨field, type, true⟩ ∈ kWeaponFireFields →
      payload.index field = .ok (payload.value field .null) :=
    fun _ _ hField => index_required h hField rfl
  have hWeaponField : ⟨"weapon_id", .string, true⟩ ∈ kWeaponFireFields := by decide
  obtain ⟨weaponId, hWeapon⟩ := Json.getString_of_isString (matchesType_required h hWeaponField rfl)
  dsimp only at hWeapon
  unfold handleFire receiveFire
  by_cases hPhase : (s.matchLifecycleSimulation.state s.tickInterval).phase ≠ .inMatch
  · rw [if_pos hPhase, if_pos hPhase]
    rfl
  · rw [if_neg hPhase, if_neg hPhase, hIndex "player_id" .integer (by decide),
      hIndex "shot_seq" .integer (by decide), hIndex "weapon_id" .string (by decide),
      hIndex "origin" .object (by decide), hIndex "direction" .object (by decide)]
    simp only [ok_bind, jsonToU32_eq, coordinate_eq]
    unfold readFire
    rw [hWeapon]
    dsimp only [Json.isString, Json.getString]
    cases readU32 (payload.value "player_id" .null) with
    | none => rfl
    | some attackerId =>
        cases readU32 (payload.value "shot_seq" .null) with
        | none => rfl
        | some shotSeq =>
            cases readFloat ((payload.value "origin" .null).value "x" .null) with
            | none => rfl
            | some originX =>
                cases readFloat ((payload.value "origin" .null).value "y" .null) with
                | none => rfl
                | some originY =>
                    cases readFloat ((payload.value "direction" .null).value "x" .null) with
                    | none => rfl
                    | some directionX =>
                        cases readFloat ((payload.value "direction" .null).value "y" .null) with
                        | none => rfl
                        | some directionY =>
                            by_cases hId : attackerId ≠ session.playerId
                            · exact (if_pos hId).trans (congrArg Except.ok (if_pos hId).symm)
                            · exact (if_neg hId).trans (congrArg Except.ok (if_neg hId).symm)

/-- The same of pickups. -/
theorem handlePickup_eq {name : String}
    (h : MeetsSchema ⟨.treasurePickup, name, kTreasurePickupFields⟩ payload) :
    s.handlePickup peerToken session payload now =
      .ok (s.receivePickup peerToken session (readPickup payload) now) := by
  have hIndex : ∀ field type, ⟨field, type, true⟩ ∈ kTreasurePickupFields →
      payload.index field = .ok (payload.value field .null) :=
    fun _ _ hField => index_required h hField rfl
  unfold handlePickup receivePickup
  by_cases hPhase : (s.matchLifecycleSimulation.state s.tickInterval).phase ≠ .inMatch
  · rw [if_pos hPhase, if_pos hPhase]
    rfl
  · rw [if_neg hPhase, if_neg hPhase, hIndex "player_id" .integer (by decide),
      hIndex "pickup_seq" .integer (by decide), hIndex "spawn_id" .integer (by decide)]
    simp only [ok_bind, jsonToU32_eq, jsonToU64_eq]
    unfold readPickup
    cases readU32 (payload.value "player_id" .null) with
    | none => rfl
    | some playerId =>
        cases readU32 (payload.value "pickup_seq" .null) with
        | none => rfl
        | some pickupSeq =>
            cases readU64 (payload.value "spawn_id" .null) with
            | none => rfl
            | some spawnId =>
                by_cases hId : playerId ≠ session.playerId
                · exact (if_pos hId).trans (congrArg Except.ok (if_pos hId).symm)
                · exact (if_neg hId).trans (congrArg Except.ok (if_neg hId).symm)

/-- The same of heartbeats. -/
theorem handleHeartbeat_eq {name : String}
    (h : MeetsSchema ⟨.heartbeat, name, kHeartbeatFields⟩ payload) :
    s.handleHeartbeat peerToken session payload now =
      .ok (s.receiveMessage peerToken session
        (.heartbeat (readU32 (payload.value "player_id" .null))) now) := by
  have hIndex : payload.index "player_id" = .ok (payload.value "player_id" .null) := by
    have hField : ⟨"player_id", .integer, true⟩ ∈ kHeartbeatFields := by decide
    exact index_required h hField rfl
  unfold handleHeartbeat receiveMessage
  rw [hIndex]
  simp only [ok_bind, jsonToU32_eq]
  by_cases hId : readU32 (payload.value "player_id" .null) = some session.playerId
  · rw [if_pos hId, if_neg (not_not.mpr hId)]
    rfl
  · rw [if_neg hId, if_pos hId]
    rfl

/-- The same of join requests. -/
theorem handleJoin_eq {name : String}
    (h : MeetsSchema ⟨.joinRequest, name, kJoinRequestFields⟩ payload) :
    s.handleJoin peerToken payload now =
      .ok (s.receive peerToken
        (.joinRequest (textOf (payload.value "player_name" .null))) now) := by
  have hField : ⟨"player_name", .string, true⟩ ∈ kJoinRequestFields := by decide
  have hIndex : payload.index "player_name" = .ok (payload.value "player_name" .null) :=
    index_required h hField rfl
  obtain ⟨text, hText⟩ := Json.getString_of_isString (matchesType_required h hField rfl)
  dsimp only at hText
  unfold handleJoin
  rw [hIndex, hText]
  rfl

/-- A message of any other type is a sign of life. -/
theorem heard_eq :
    (if (s.sessionManager.handleHeartbeat peerToken now).1 then .heard else .rejected,
        { s with sessionManager := (s.sessionManager.handleHeartbeat peerToken now).2 }) =
      s.receive peerToken (.message .other) now := by
  unfold receive SessionManager.sessionForPeer SessionManager.handleHeartbeat
  cases hFind : s.sessionManager.sessionsByPeer.find peerToken with
  | none => rfl
  | some session =>
      dsimp only [Option.map_some, receiveMessage]
      unfold hear SessionManager.handleHeartbeat
      rw [hFind]
      rfl

/-- On a packet that the parser accepted, no access of the handler fails, and it does what the
loop does with the message that is read. -/
theorem receivePacket_eq {packet : Net.Packet (SingleFloat.Double F)} (h : MeetsItsSchema packet) :
    s.receivePacket peerToken packet now = .ok (s.receive peerToken (readPacket packet) now) := by
  obtain ⟨type, payload, version⟩ := packet
  obtain ⟨schema, hSchema, hMeets⟩ := h
  have hSession : ∀ {handle : SessionView → Handled F} {message : Message F},
      (∀ session, handle session = .ok (s.receiveMessage peerToken session message now)) →
        s.handleForSession peerToken handle = .ok (s.receive peerToken (.message message) now) := by
    intro handle message hHandle
    unfold handleForSession receive
    cases s.sessionManager.sessionForPeer peerToken with
    | none => rfl
    | some session => exact hHandle session
  cases type with
  | invalid => cases hSchema
  | joinRequest =>
      cases hSchema
      exact s.handleJoin_eq peerToken now hMeets
  | heartbeat =>
      cases hSchema
      exact hSession fun session => s.handleHeartbeat_eq peerToken session now hMeets
  | playerInput =>
      cases hSchema
      exact hSession fun session => s.handleInput_eq peerToken session now hMeets
  | blockUpdate =>
      cases hSchema
      exact hSession fun session => s.handleBlockUpdate_eq peerToken session now hMeets
  | weaponFire =>
      cases hSchema
      exact hSession fun session => s.handleFire_eq peerToken session now hMeets
  | treasurePickup =>
      cases hSchema
      exact hSession fun session => s.handlePickup_eq peerToken session now hMeets
  | joinAccept => exact congrArg Except.ok (s.heard_eq peerToken now)
  | stateSnapshot => exact congrArg Except.ok (s.heard_eq peerToken now)
  | inventoryUpdate => exact congrArg Except.ok (s.heard_eq peerToken now)
  | damageEvent => exact congrArg Except.ok (s.heard_eq peerToken now)
  | matchState => exact congrArg Except.ok (s.heard_eq peerToken now)

/-- Whatever bytes a peer sends, no access to the document of an accepted packet fails. -/
theorem accepted_packet_handled (parse : Bytes → Option (Document F)) {data : Bytes}
    {packet : Net.Packet (SingleFloat.Double F)}
    (hAccepted : tryDeserialize parse data = .ok packet) :
    ∃ outcome t, s.receivePacket peerToken packet now = .ok (outcome, t) :=
  ⟨_, _, s.receivePacket_eq peerToken now (meetsItsSchema_of_accepted hAccepted)⟩

/-- The join request of a player, as it is printed. -/
def joinText : Bytes :=
  Bytes.ofString "\x7b\"payload\":\x7b\"player_name\":\"a\"\x7d,\"type\":1,\"version\":1\x7d"

def joinPacket : Net.Packet ℚ where
  type := .joinRequest
  payload := .object [("player_name", .string "a")]

/-- A block that the first player places. -/
def placeText : Bytes :=
  Bytes.ofString <| "\x7b\"payload\":\x7b\"block_id\":1,\"player_id\":1,\"x\":1,\"y\":2,\"z\":3\x7d," ++
    "\"type\":5,\"version\":1\x7d"

/-- The same block in the name of the second player. -/
def forgedText : Bytes :=
  Bytes.ofString <| "\x7b\"payload\":\x7b\"block_id\":1,\"player_id\":2,\"x\":1,\"y\":2,\"z\":3\x7d," ++
    "\"type\":5,\"version\":1\x7d"

def placePacket (playerId : UInt64) : Net.Packet ℚ where
  type := .blockUpdate
  payload := .object [("block_id", .numberUnsigned 1), ("player_id", .numberUnsigned playerId),
    ("x", .numberUnsigned 1), ("y", .numberUnsigned 2), ("z", .numberUnsigned 3)]

/-- A parser that knows three texts. -/
def parseKnown (data : Bytes) : Option (Document ℚ) :=
  if data = joinText then some (envelope joinPacket)
  else if data = placeText then some (envelope (placePacket 1))
  else if data = forgedText then some (envelope (placePacket 2))
  else none

/-- The text of the block update is accepted. -/
theorem tryDeserialize_placeText : tryDeserialize parseKnown placeText = .ok (placePacket 1) := by
  refine tryDeserialize_eq_ok_iff.mpr ⟨envelope (placePacket 1), ?_, readEnvelope_eq_ok_iff.mp rfl⟩
  unfold parseKnown
  rw [if_neg (by decide +kernel), if_pos rfl]

/-- An empty chunk in which blocks may be placed. -/
def site : ServerSetup ℚ :=
  { duel with
    blocks := { validBlockIds := [0, 1] }
    world := { chunks := (∅ : UnorderedMap Voxel.ChunkCoord Voxel.Chunk).set ⟨0, 0, 0⟩ {} } }

/-- The first player has a seat. -/
def siteSeated : MainLoop ℚ := ((create site).receive 101 (.joinRequest [0x61]) 0).2

/-- Its block update is read field by field. -/
theorem accepted_packet_handled_place :
    siteSeated.sessionManager.sessionForPeer 101 ≠ none ∧
      ∃ outcome t, siteSeated.receivePacket 101 (placePacket 1) 0 = .ok (outcome, t) :=
  ⟨by decide, accepted_packet_handled siteSeated 101 0 parseKnown tryDeserialize_placeText⟩

end MainLoop

end DevyFps.Server
