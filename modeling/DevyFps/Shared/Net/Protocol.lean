import DevyFps.Foundations.Bytes
import DevyFps.Foundations.Json
import Mathlib.Algebra.GroupWithZero.Nat
import Mathlib.Algebra.Ring.Int.Defs

/-! The wire format: a JSON envelope around a payload whose fields are listed for every
message type. -/

namespace DevyFps.Net

open Foundations

inductive MessageType where
  | invalid
  | joinRequest
  | joinAccept
  | playerInput
  | stateSnapshot
  | blockUpdate
  | inventoryUpdate
  | damageEvent
  | matchState
  | heartbeat
  | weaponFire
  | treasurePickup
  deriving DecidableEq, Repr

def MessageType.toUInt8 : MessageType → UInt8
  | .invalid => 0
  | .joinRequest => 1
  | .joinAccept => 2
  | .playerInput => 3
  | .stateSnapshot => 4
  | .blockUpdate => 5
  | .inventoryUpdate => 6
  | .damageEvent => 7
  | .matchState => 8
  | .heartbeat => 9
  | .weaponFire => 10
  | .treasurePickup => 11

inductive ProtocolError where
  | invalidJson
  | missingEnvelopeField
  | invalidEnvelopeFieldType
  | unsupportedVersion
  | unknownMessageType
  | invalidPayloadType
  | missingPayloadField
  | invalidPayloadFieldType
  deriving DecidableEq, Repr

inductive PayloadFieldType where
  | number
  | integer
  | boolean
  | string
  | object
  | array
  deriving DecidableEq, Repr

structure FieldRule where
  name : String
  type : PayloadFieldType
  required : Bool
  deriving DecidableEq

structure MessageSchema where
  type : MessageType
  name : String
  fields : List FieldRule

def kProtocolVersion : UInt32 := 1

def kMinSupportedProtocolVersion : UInt32 := 1

def kMaxSupportedProtocolVersion : UInt32 := 1

def kJoinRequestFields : List FieldRule :=
  [⟨"player_name", .string, true⟩, ⟨"client_build", .string, false⟩,
    ⟨"feature_flags", .array, false⟩]

def kJoinAcceptFields : List FieldRule :=
  [⟨"message", .string, true⟩, ⟨"max_players", .integer, true⟩,
    ⟨"protocol_version", .integer, true⟩, ⟨"feature_flags", .array, false⟩]

def kPlayerInputFields : List FieldRule :=
  [⟨"player_id", .integer, true⟩, ⟨"input_seq", .integer, true⟩, ⟨"move_x", .number, true⟩,
    ⟨"move_y", .number, true⟩, ⟨"jump", .boolean, true⟩, ⟨"sprint", .boolean, true⟩,
    ⟨"crouch", .boolean, true⟩, ⟨"fire", .boolean, true⟩]

def kStateSnapshotFields : List FieldRule :=
  [⟨"tick", .integer, true⟩, ⟨"players", .array, true⟩, ⟨"events", .array, false⟩]

def kBlockUpdateFields : List FieldRule :=
  [⟨"player_id", .integer, false⟩, ⟨"x", .integer, true⟩, ⟨"y", .integer, true⟩,
    ⟨"z", .integer, true⟩, ⟨"block_id", .integer, true⟩]

def kInventoryUpdateFields : List FieldRule :=
  [⟨"player_id", .integer, true⟩, ⟨"coins", .integer, true⟩]

def kDamageEventFields : List FieldRule :=
  [⟨"attacker_id", .integer, true⟩, ⟨"victim_id", .integer, true⟩, ⟨"damage", .integer, true⟩,
    ⟨"lethal", .boolean, true⟩]

def kMatchStateFields : List FieldRule :=
  [⟨"state", .string, true⟩, ⟨"remaining_seconds", .number, true⟩, ⟨"scoreboard", .array, false⟩]

def kHeartbeatFields : List FieldRule :=
  [⟨"player_id", .integer, true⟩, ⟨"client_time_ms", .integer, false⟩]

def kWeaponFireFields : List FieldRule :=
  [⟨"player_id", .integer, true⟩, ⟨"shot_seq", .integer, true⟩, ⟨"weapon_id", .string, true⟩,
    ⟨"origin", .object, true⟩, ⟨"direction", .object, true⟩,
    ⟨"client_fire_time_ms", .integer, false⟩]

def kTreasurePickupFields : List FieldRule :=
  [⟨"player_id", .integer, true⟩, ⟨"pickup_seq", .integer, true⟩, ⟨"spawn_id", .integer, true⟩]

def kMessageSchemas : List MessageSchema :=
  [⟨.joinRequest, "join_request", kJoinRequestFields⟩,
    ⟨.joinAccept, "join_accept", kJoinAcceptFields⟩,
    ⟨.playerInput, "player_input", kPlayerInputFields⟩,
    ⟨.stateSnapshot, "state_snapshot", kStateSnapshotFields⟩,
    ⟨.blockUpdate, "block_update", kBlockUpdateFields⟩,
    ⟨.inventoryUpdate, "inventory_update", kInventoryUpdateFields⟩,
    ⟨.damageEvent, "damage_event", kDamageEventFields⟩,
    ⟨.matchState, "match_state", kMatchStateFields⟩,
    ⟨.heartbeat, "heartbeat", kHeartbeatFields⟩,
    ⟨.weaponFire, "weapon_fire", kWeaponFireFields⟩,
    ⟨.treasurePickup, "treasure_pickup", kTreasurePickupFields⟩]

def schemaFor (type : MessageType) : Option MessageSchema :=
  kMessageSchemas.find? fun schema => schema.type == type

def isSupportedVersion (version : UInt32) : Bool :=
  kMinSupportedProtocolVersion ≤ version && version ≤ kMaxSupportedProtocolVersion

variable {D : Type}

structure Packet (D : Type) where
  type : MessageType := .invalid
  payload : Json D := .null
  version : UInt32 := kProtocolVersion

structure ParseFailure where
  error : ProtocolError
  detail : String
  deriving DecidableEq

abbrev ParseResult (D : Type) := Except ParseFailure (Packet D)

def matchesType (value : Json D) : PayloadFieldType → Bool
  | .number => value.isNumber
  | .integer => value.isNumberInteger || value.isNumberUnsigned
  | .boolean => value.isBoolean
  | .string => value.isString
  | .object => value.isObject
  | .array => value.isArray

/-- The body of the loop over the fields of a schema. -/
def validateField (schema : MessageSchema) (payload : Json D) (field : FieldRule) :
    Option ParseFailure :=
  match payload.member field.name with
  | none =>
      if field.required then
        some ⟨.missingPayloadField,
          "Missing payload field `" ++ field.name ++ "` for `" ++ schema.name ++ "`."⟩
      else none
  | some value =>
      if matchesType value field.type then none
      else
        some ⟨.invalidPayloadFieldType,
          "Invalid payload field type for `" ++ field.name ++ "` in `" ++ schema.name ++ "`."⟩

/-- What is wrong with the payload of a packet, if anything is. -/
def validatePayload (packet : Packet D) : Option ParseFailure :=
  match schemaFor packet.type with
  | none => some ⟨.unknownMessageType, "Unknown message type."⟩
  | some schema =>
      if !packet.payload.isObject then
        some ⟨.invalidPayloadType, "Payload must be a JSON object."⟩
      else schema.fields.findSome? (validateField schema packet.payload)

/-- The object that `serialize` prints; its members are kept in the order of their names. -/
def envelope (packet : Packet D) : Json D :=
  .object [("payload", packet.payload), ("type", .numberUnsigned packet.type.toUInt8.toUInt64),
    ("version", .numberUnsigned packet.version.toUInt64)]

def serialize (dump : Json D → Bytes) (packet : Packet D) : Bytes := dump (envelope packet)

def readVersion : Json D → Except ParseFailure UInt32
  | .numberUnsigned raw =>
      if raw.toNat = 0 ∨ raw.toNat > 2 ^ 32 - 1 then
        .error ⟨.invalidEnvelopeFieldType, "Envelope field `version` is out of range."⟩
      else .ok raw.toUInt32
  | .numberInteger raw =>
      if raw.toInt ≤ 0 ∨ raw.toInt > 2 ^ 32 - 1 then
        .error ⟨.invalidEnvelopeFieldType, "Envelope field `version` is out of range."⟩
      else .ok raw.toUInt64.toUInt32
  | _ => .error ⟨.invalidEnvelopeFieldType, "Envelope field `version` must be an integer."⟩

def readType : Json D → Except ParseFailure UInt8
  | .numberUnsigned raw =>
      if raw.toNat > 2 ^ 8 - 1 then
        .error ⟨.unknownMessageType, "Envelope field `type` is out of valid range."⟩
      else .ok raw.toUInt8
  | .numberInteger raw =>
      if raw.toInt < 0 ∨ raw.toInt > 2 ^ 8 - 1 then
        .error ⟨.unknownMessageType, "Envelope field `type` is out of valid range."⟩
      else .ok raw.toUInt64.toUInt8
  | _ => .error ⟨.invalidEnvelopeFieldType, "Envelope field `type` must be an integer."⟩

/-- `schema_for` of a number that was cast to a message type. -/
def schemaForRaw (raw : UInt8) : Option MessageSchema :=
  kMessageSchemas.find? fun schema => schema.type.toUInt8 == raw

def envelopeVersion (root : Json D) : Except ParseFailure UInt32 :=
  match root.member "version" with
  | none => .ok kProtocolVersion
  | some version => readVersion version

/-- The schema of the type, the payload and its fields. -/
def readMessage (root : Json D) (version : UInt32) (raw : UInt8) : ParseResult D :=
  match schemaForRaw raw with
  | none =>
      .error ⟨.unknownMessageType, "Unknown message type: " ++ toString raw.toNat ++ "."⟩
  | some schema =>
      match root.member "payload" with
      | none => .error ⟨.missingEnvelopeField, "Envelope field `payload` is required."⟩
      | some payload =>
          match validatePayload { type := schema.type, payload, version } with
          | some failure => .error failure
          | none => .ok { type := schema.type, payload, version }

/-- The part of `try_deserialize` that follows the parser. -/
def readEnvelope (root : Json D) : ParseResult D :=
  if !root.isObject then
    .error ⟨.invalidEnvelopeFieldType, "Packet envelope must be a JSON object."⟩
  else
    match envelopeVersion root with
    | .error failure => .error failure
    | .ok version =>
        if !isSupportedVersion version then
          .error ⟨.unsupportedVersion,
            "Unsupported protocol version: " ++ toString version.toNat ++ "."⟩
        else
          match root.member "type" with
          | none => .error ⟨.missingEnvelopeField, "Envelope field `type` is required."⟩
          | some typeJson =>
              match readType typeJson with
              | .error failure => .error failure
              | .ok raw => readMessage root version raw

def tryDeserialize (parse : Bytes → Option (Json D)) (data : Bytes) : ParseResult D :=
  match parse data with
  | none => .error ⟨.invalidJson, "Failed to parse JSON packet."⟩
  | some root => readEnvelope root

def deserialize (parse : Bytes → Option (Json D)) (data : Bytes) : Packet D :=
  match tryDeserialize parse data with
  | .ok packet => packet
  | .error _ => {}

end DevyFps.Net
