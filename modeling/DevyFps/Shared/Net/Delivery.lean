import DevyFps.Foundations.JsonDelivery
import DevyFps.Shared.Net.JsonNumbers
import DevyFps.Shared.Net.ProtocolGrammar

/-! A packet that one side serializes, as the other side parses it. -/

namespace DevyFps.Net

open Foundations FloatFormat

section Carried

variable {D : Type} [FloatFormat D]

/-- A document that was printed and parsed. -/
abbrev arrived (value : Json D) : Json D := value.delivered isFinite

/-- What `try_deserialize` makes of a packet that was serialized. -/
def carried (packet : Packet D) : ParseResult D := readEnvelope (arrived (envelope packet))

/-- A packet arrives with its payload, unless its schema refuses it. -/
theorem carried_eq_ok_iff {packet received : Packet D} :
    carried packet = .ok received ↔
      isSupportedVersion packet.version = true ∧
        received = { packet with payload := arrived packet.payload } ∧
          MeetsItsSchema received := by
  have hVersion : (arrived (envelope packet)).member "version" =
      some (.numberUnsigned packet.version.toUInt64) := rfl
  have hType : (arrived (envelope packet)).member "type" =
      some (.numberUnsigned packet.type.toUInt8.toUInt64) := rfl
  have hPayload : (arrived (envelope packet)).member "payload" = some (arrived packet.payload) :=
    rfl
  have hRaw : (Json.numberUnsigned (D := D) packet.version.toUInt64).integer =
      some (packet.version.toNat : Int) := congrArg some (congrArg Int.ofNat (by simp))
  have hRawType : (Json.numberUnsigned (D := D) packet.type.toUInt8.toUInt64).integer =
      some (packet.type.toUInt8.toNat : Int) := congrArg some (congrArg Int.ofNat (by simp))
  unfold carried
  rw [readEnvelope_eq_ok_iff]
  constructor
  · intro h
    have hSameVersion : received.version = packet.version := by
      have hInteger := h.version _ hVersion
      rw [hRaw, Option.some.injEq, Nat.cast_inj] at hInteger
      exact (UInt32.toNat_inj.mp hInteger).symm
    have hSameType : received.type = packet.type := by
      obtain ⟨value, hValue, hInteger⟩ := h.type
      rw [hType] at hValue
      obtain rfl := Option.some.inj hValue
      rw [hRawType, Option.some.injEq, Nat.cast_inj] at hInteger
      exact (toUInt8_injective (UInt8.toNat_inj.mp hInteger)).symm
    have hSamePayload : received.payload = arrived packet.payload :=
      Option.some.inj (h.payload.symm.trans hPayload)
    refine ⟨hSameVersion ▸ h.supported, ?_, h.schema⟩
    cases received
    simp only at hSameVersion hSameType hSamePayload
    rw [hSameVersion, hSameType, hSamePayload]
  · rintro ⟨hSupported, rfl, hMeets⟩
    refine ⟨rfl, fun value hValue => ?_, fun hNone => ?_, hSupported, ⟨_, hType, hRawType⟩,
      hPayload, hMeets⟩
    · rw [hVersion] at hValue
      obtain rfl := Option.some.inj hValue
      exact hRaw
    · rw [hVersion] at hNone
      cases hNone

/-- A number that is not finite is not printed. -/
def isPrinted : Json D → Bool
  | .numberFloat raw => isFinite raw
  | _ => true

theorem isNumber_arrived {value : Json D} (h : isPrinted value = true) :
    (arrived value).isNumber = value.isNumber := by
  cases value with
  | numberInteger raw =>
      unfold arrived Json.delivered
      split <;> rfl
  | numberFloat raw =>
      have hFinite : isFinite raw = true := h
      unfold arrived Json.delivered
      rw [if_pos hFinite]
  | _ => rfl

/-- A field keeps its type on the way. -/
theorem matchesType_arrived {value : Json D} {type : PayloadFieldType}
    (h : type = .number → isPrinted value = true) :
    matchesType (arrived value) type = matchesType value type := by
  cases type with
  | number => exact isNumber_arrived (h rfl)
  | integer =>
      have hUnsigned : ∀ other : Json D,
          (other.isNumberInteger || other.isNumberUnsigned) = other.isNumberInteger := by
        intro other
        cases other <;> rfl
      unfold matchesType
      dsimp only
      rw [hUnsigned, hUnsigned, Json.isNumberInteger_delivered]
  | boolean => exact Json.isBoolean_delivered _ value
  | string => exact Json.isString_delivered _ value
  | object => exact Json.isObject_delivered _ value
  | array => exact Json.isArray_delivered _ value

/-- The numbers of a payload that its schema asks for can be printed. -/
def NumbersPrinted (packet : Packet D) : Prop :=
  ∀ schema, schemaFor packet.type = some schema → ∀ field ∈ schema.fields, field.type = .number →
    ∀ value, packet.payload.member field.name = some value → isPrinted value = true

/-- A packet whose schema asks for no number that might not be printed. -/
theorem numbersPrinted_of_schema {packet : Packet D} {schema : MessageSchema}
    (hSchema : schemaFor packet.type = some schema)
    (hTypes : ∀ field ∈ schema.fields, field.type ≠ .number) : NumbersPrinted packet := by
  intro other hOther field hField hType
  obtain rfl := Option.some.inj (hSchema.symm.trans hOther)
  exact absurd hType (hTypes field hField)

/-- A valid packet of this version arrives. -/
theorem carried_of_valid {packet : Packet D} (hVersion : packet.version = kProtocolVersion)
    (hValid : validatePayload packet = none) (hNumbers : NumbersPrinted packet) :
    carried packet = .ok { packet with payload := arrived packet.payload } := by
  obtain ⟨schema, hSchema, hMeets⟩ := validatePayload_eq_none_iff.mp hValid
  refine carried_eq_ok_iff.mpr ⟨hVersion ▸ rfl, rfl, schema, hSchema, ?_, fun field hField hRequired => ?_,
    fun field hField value hValue => ?_⟩
  · exact (Json.isObject_delivered _ _).trans hMeets.object
  · exact (Json.contains_delivered _ _ _).trans (hMeets.present field hField hRequired)
  · obtain ⟨sent, hSent, rfl⟩ :=
      Option.map_eq_some_iff.mp ((Json.member_delivered _ _ _).symm.trans hValue)
    rw [matchesType_arrived fun hType => hNumbers schema hSchema field hField hType sent hSent]
    exact hMeets.typed field hField sent hSent

/-! The readers make the same of a number on both sides. -/

theorem readU32_arrived (value : Json D) : readU32 (arrived value) = readU32 value := by
  cases value with
  | numberInteger raw =>
      unfold arrived Json.delivered
      split
      · rename_i hNonneg
        have hRaw := Json.toNat_toUInt64_of_nonneg hNonneg
        change (if raw.toUInt64.toNat ≤ 2 ^ 32 - 1 then some raw.toUInt64.toNat else none) =
          if 0 ≤ raw.toInt ∧ raw.toInt ≤ 2 ^ 32 - 1 then some raw.toInt.toNat else none
        rw [← hRaw, Int.toNat_natCast]
        exact if_congr (by omega) rfl rfl
      · rfl
  | numberFloat raw =>
      unfold arrived Json.delivered
      split <;> rfl
  | _ => rfl

theorem readI32_arrived (value : Json D) : readI32 (arrived value) = readI32 value := by
  cases value with
  | numberInteger raw =>
      unfold arrived Json.delivered
      split
      · have hRaw : raw.toUInt64.toInt64 = raw := by
          simp
        change (if raw.toUInt64.toInt64.toInt < -2 ^ 31 ∨ raw.toUInt64.toInt64.toInt > 2 ^ 31 - 1
            then none else some raw.toUInt64.toInt64.toInt) =
          if raw.toInt < -2 ^ 31 ∨ raw.toInt > 2 ^ 31 - 1 then none else some raw.toInt
        rw [hRaw]
      · rfl
  | numberFloat raw =>
      unfold arrived Json.delivered
      split <;> rfl
  | _ => rfl

end Carried

end DevyFps.Net
