import DevyFps.Shared.Net.Protocol

/-! The grammar of the protocol: which JSON values stand for a packet, and that the parser
accepts exactly these. -/

namespace DevyFps.Net

open Foundations

variable {D : Type}

/-- Each type has a number of its own. -/
theorem toUInt8_injective : Function.Injective MessageType.toUInt8 := by
  intro left right h
  cases left <;> cases right <;> first | rfl | exact absurd h (by decide)

/-- The schema of a number is that of the type with it. -/
theorem type_of_schemaForRaw {raw : UInt8} {schema : MessageSchema}
    (h : schemaForRaw raw = some schema) : schema.type.toUInt8 = raw := by
  have hFound := List.find?_some h
  exact beq_iff_eq.mp hFound

theorem schemaForRaw_toUInt8 (type : MessageType) :
    schemaForRaw type.toUInt8 = schemaFor type := by
  unfold schemaForRaw schemaFor
  congr 1
  funext schema
  rw [Bool.eq_iff_iff, beq_iff_eq, beq_iff_eq]
  exact toUInt8_injective.eq_iff

/-- A version is a positive integer of 32 bits. -/
theorem readVersion_eq_ok_iff {value : Json D} {version : UInt32} :
    readVersion value = .ok version ↔
      value.integer = some (version.toNat : Int) ∧ 0 < version.toNat := by
  cases value with
  | numberUnsigned raw =>
      have hBound := version.toNat_lt
      have hRaw := raw.toNat_lt
      simp only [readVersion, Json.integer, Option.some.injEq]
      split
      · rename_i hOut
        simp only [reduceCtorEq, false_iff]
        omega
      · rw [Except.ok.injEq, ← UInt32.toNat_inj, UInt64.toNat_toUInt32]
        omega
  | numberInteger raw =>
      have hBound := version.toNat_lt
      simp only [readVersion, Json.integer, Option.some.injEq]
      split
      · rename_i hOut
        simp only [reduceCtorEq, false_iff]
        omega
      · have hRaw := Json.toNat_toUInt64_of_nonneg (show 0 ≤ raw.toInt by omega)
        rw [Except.ok.injEq, ← UInt32.toNat_inj, UInt64.toNat_toUInt32]
        omega
  | _ => simp [readVersion, Json.integer]

/-- A type is an integer of 8 bits. -/
theorem readType_eq_ok_iff {value : Json D} {raw : UInt8} :
    readType value = .ok raw ↔ value.integer = some (raw.toNat : Int) := by
  cases value with
  | numberUnsigned number =>
      have hBound := raw.toNat_lt
      simp only [readType, Json.integer, Option.some.injEq]
      split
      · simp only [reduceCtorEq, false_iff]
        omega
      · rw [Except.ok.injEq, ← UInt8.toNat_inj, UInt64.toNat_toUInt8]
        omega
  | numberInteger number =>
      have hBound := raw.toNat_lt
      simp only [readType, Json.integer, Option.some.injEq]
      split
      · simp only [reduceCtorEq, false_iff]
        omega
      · have hRaw := Json.toNat_toUInt64_of_nonneg (show 0 ≤ number.toInt by omega)
        rw [Except.ok.injEq, ← UInt8.toNat_inj, UInt64.toNat_toUInt8]
        omega
  | _ => simp [readType, Json.integer]

/-- A payload has every required field of a schema, and those fields of the schema that it has
are of the declared type. -/
structure MeetsSchema (schema : MessageSchema) (payload : Json D) : Prop where
  object : payload.isObject = true
  present : ∀ field ∈ schema.fields, field.required = true → payload.contains field.name = true
  typed : ∀ field ∈ schema.fields, ∀ value, payload.member field.name = some value →
    matchesType value field.type = true

/-- The payload of a packet meets the schema of the packet's type. -/
def MeetsItsSchema (packet : Packet D) : Prop :=
  ∃ schema, schemaFor packet.type = some schema ∧ MeetsSchema schema packet.payload

/-- The grammar: the packet that a JSON value stands for. -/
structure Denotes (root : Json D) (packet : Packet D) : Prop where
  object : root.isObject = true
  version : ∀ value, root.member "version" = some value →
    value.integer = some (packet.version.toNat : Int)
  versionless : root.member "version" = none → packet.version = kProtocolVersion
  supported : isSupportedVersion packet.version = true
  type : ∃ value, root.member "type" = some value ∧
    value.integer = some (packet.type.toUInt8.toNat : Int)
  payload : root.member "payload" = some packet.payload
  schema : MeetsItsSchema packet

/-- A field passes if it is there or may be absent, and has its type. -/
theorem validateField_eq_none_iff {schema : MessageSchema} {payload : Json D}
    {field : FieldRule} :
    validateField schema payload field = none ↔
      (field.required = true → payload.contains field.name = true) ∧
        ∀ value, payload.member field.name = some value → matchesType value field.type = true := by
  unfold validateField Json.contains
  cases payload.member field.name with
  | none =>
      cases field.required with
      | true => simp
      | false => simp
  | some value => simp

/-- A payload passes exactly if it meets the schema of its type. -/
theorem validatePayload_eq_none_iff {packet : Packet D} :
    validatePayload packet = none ↔ MeetsItsSchema packet := by
  unfold validatePayload MeetsItsSchema
  cases schemaFor packet.type with
  | none => simp
  | some schema =>
      dsimp only
      cases hObject : packet.payload.isObject with
      | false =>
          refine iff_of_false (by simp) ?_
          rintro ⟨_, -, hMeets⟩
          rw [hMeets.object] at hObject
          cases hObject
      | true =>
          rw [Bool.not_true, if_neg Bool.false_ne_true, List.findSome?_eq_none_iff]
          simp only [validateField_eq_none_iff]
          constructor
          · intro hFields
            exact ⟨schema, rfl, hObject, fun field hField => (hFields field hField).1,
              fun field hField => (hFields field hField).2⟩
          · rintro ⟨other, hOther, hMeets⟩ field hField
            cases hOther
            exact ⟨hMeets.present field hField, hMeets.typed field hField⟩

/-- A packet is read from the parts of its envelope. -/
theorem readMessage_eq_ok_iff {root : Json D} {version : UInt32} {raw : UInt8}
    {packet : Packet D} :
    readMessage root version raw = .ok packet ↔
      packet.version = version ∧ packet.type.toUInt8 = raw ∧
        root.member "payload" = some packet.payload ∧ MeetsItsSchema packet := by
  unfold readMessage
  constructor
  · intro hRead
    cases hSchema : schemaForRaw raw with
    | none =>
        rw [hSchema] at hRead
        cases hRead
    | some schema =>
        rw [hSchema] at hRead
        cases hPayload : root.member "payload" with
        | none =>
            rw [hPayload] at hRead
            cases hRead
        | some payload =>
            rw [hPayload] at hRead
            dsimp only at hRead
            cases hValid : validatePayload { type := schema.type, payload, version } with
            | some failure =>
                rw [hValid] at hRead
                cases hRead
            | none =>
                rw [hValid] at hRead
                cases hRead
                exact ⟨rfl, type_of_schemaForRaw hSchema, rfl,
                  validatePayload_eq_none_iff.mp hValid⟩
  · rintro ⟨rfl, rfl, hPayload, hMeets⟩
    obtain ⟨schema, hSchema, -⟩ := id hMeets
    have hType : packet.type = schema.type :=
      (toUInt8_injective (type_of_schemaForRaw ((schemaForRaw_toUInt8 _).trans hSchema))).symm
    rw [schemaForRaw_toUInt8, hSchema, hPayload]
    dsimp only
    rw [← hType, validatePayload_eq_none_iff.mpr hMeets]

/-- The versions that an envelope can have. -/
theorem envelopeVersion_eq_ok_iff {root : Json D} {version : UInt32}
    (hSupported : isSupportedVersion version = true) :
    envelopeVersion root = .ok version ↔
      (∀ value, root.member "version" = some value →
          value.integer = some (version.toNat : Int)) ∧
        (root.member "version" = none → version = kProtocolVersion) := by
  have hPositive : 0 < version.toNat := by
    have hLow := (Bool.and_eq_true_iff.mp hSupported).1
    rw [decide_eq_true_eq, UInt32.le_iff_toNat_le] at hLow
    exact hLow
  unfold envelopeVersion
  cases root.member "version" with
  | none =>
      simp only [Except.ok.injEq, reduceCtorEq, false_implies, implies_true, true_and, true_implies]
      exact eq_comm
  | some value => simp [readVersion_eq_ok_iff, hPositive]

/-- The reader accepts exactly the envelopes that denote a packet. -/
theorem readEnvelope_eq_ok_iff {root : Json D} {packet : Packet D} :
    readEnvelope root = .ok packet ↔ Denotes root packet := by
  unfold readEnvelope
  constructor
  · intro hRead
    cases hObject : root.isObject with
    | false =>
        rw [hObject] at hRead
        cases hRead
    | true =>
        rw [hObject, Bool.not_true, if_neg Bool.false_ne_true] at hRead
        cases hVersion : envelopeVersion root with
        | error failure =>
            rw [hVersion] at hRead
            cases hRead
        | ok version =>
            rw [hVersion] at hRead
            dsimp only at hRead
            cases hSupported : isSupportedVersion version with
            | false =>
                rw [hSupported] at hRead
                cases hRead
            | true =>
                rw [hSupported, Bool.not_true, if_neg Bool.false_ne_true] at hRead
                cases hType : root.member "type" with
                | none =>
                    rw [hType] at hRead
                    cases hRead
                | some value =>
                    rw [hType] at hRead
                    dsimp only at hRead
                    cases hRaw : readType value with
                    | error failure =>
                        rw [hRaw] at hRead
                        cases hRead
                    | ok raw =>
                        rw [hRaw] at hRead
                        obtain ⟨rfl, rfl, hPayload, hMeets⟩ := readMessage_eq_ok_iff.mp hRead
                        obtain ⟨hWritten, hAbsent⟩ := (envelopeVersion_eq_ok_iff hSupported).mp hVersion
                        exact ⟨hObject, hWritten, hAbsent, hSupported,
                          ⟨value, hType, readType_eq_ok_iff.mp hRaw⟩, hPayload, hMeets⟩
  · intro hDenotes
    obtain ⟨value, hType, hInteger⟩ := hDenotes.type
    rw [hDenotes.object, (envelopeVersion_eq_ok_iff hDenotes.supported).mpr
      ⟨hDenotes.version, hDenotes.versionless⟩]
    dsimp only
    rw [hDenotes.supported, hType]
    dsimp only
    rw [readType_eq_ok_iff.mpr hInteger]
    exact readMessage_eq_ok_iff.mpr ⟨rfl, rfl, hDenotes.payload, hDenotes.schema⟩

theorem matchesType_canonical (value : Json D) (type : PayloadFieldType) :
    matchesType value.canonical type = matchesType value type := by
  have hInteger : ∀ value : Json D, matchesType value .integer = value.isNumberInteger := by
    intro value
    cases value <;> rfl
  cases type with
  | number => exact value.isNumber_canonical
  | integer => rw [hInteger, hInteger, value.isNumberInteger_canonical]
  | boolean => exact value.isBoolean_canonical
  | string => exact value.isString_canonical
  | object => exact value.isObject_canonical
  | array => exact value.isArray_canonical

/-- Equal payloads meet the same schemas. -/
theorem MeetsSchema.congr {schema : MessageSchema} {payload other : Json D}
    (h : MeetsSchema schema payload) (hEqual : other.Equal payload) :
    MeetsSchema schema other where
  object := hEqual.isObject.trans h.object
  present field hField hRequired :=
    (hEqual.contains field.name).trans (h.present field hField hRequired)
  typed field hField value hValue := by
    obtain ⟨original, hOriginal, hSame⟩ := hEqual.symm.member hValue
    rw [← matchesType_canonical, ← hSame, matchesType_canonical]
    exact h.typed field hField original hOriginal

/-- A value equal to the envelope of a packet stands for the packet, up to the form of the
integers in its payload. -/
theorem denotes_of_equal {root : Json D} {packet : Packet D}
    (hEqual : root.Equal (envelope packet)) (hSupported : isSupportedVersion packet.version = true)
    (hMeets : MeetsItsSchema packet) :
    ∃ payload, payload.Equal packet.payload ∧ Denotes root { packet with payload } := by
  have hWritten : (envelope packet).member "payload" = some packet.payload := rfl
  obtain ⟨payload, hPayload, hSame⟩ := hEqual.member hWritten
  obtain ⟨type, hType, hSameType⟩ :=
    hEqual.member (rfl : (envelope packet).member "type" = some _)
  obtain ⟨version, hVersion, hSameVersion⟩ :=
    hEqual.member (rfl : (envelope packet).member "version" = some _)
  obtain ⟨schema, hSchema, hFields⟩ := hMeets
  refine ⟨payload, hSame,
    { object := hEqual.isObject
      version := fun value hValue => ?_
      versionless := fun hAbsent => ?_
      supported := hSupported
      type := ⟨type, hType, ?_⟩
      payload := hPayload
      schema := ⟨schema, hSchema, hFields.congr hSame⟩ }⟩
  · rw [hVersion] at hValue
    cases hValue
    rw [hSameVersion.integer]
    simp [Json.integer]
  · rw [hVersion] at hAbsent
    cases hAbsent
  · rw [hSameType.integer]
    simp [Json.integer]

/-- A text is accepted exactly if it parses to such an envelope. -/
theorem tryDeserialize_eq_ok_iff {parse : Bytes → Option (Json D)} {data : Bytes}
    {packet : Packet D} :
    tryDeserialize parse data = .ok packet ↔
      ∃ root, parse data = some root ∧ Denotes root packet := by
  unfold tryDeserialize
  cases parse data with
  | none => simp
  | some root => simp [readEnvelope_eq_ok_iff]

/-- Whatever is accepted meets its schema. -/
theorem meetsItsSchema_of_accepted {parse : Bytes → Option (Json D)} {data : Bytes}
    {packet : Packet D} (h : tryDeserialize parse data = .ok packet) : MeetsItsSchema packet := by
  obtain ⟨root, -, hDenotes⟩ := tryDeserialize_eq_ok_iff.mp h
  exact hDenotes.schema

/-- The parser accepts exactly the grammar, and a packet that is printed is read again. -/
theorem protocol_grammar (parse : Bytes → Option (Json D)) (dump : Json D → Bytes) :
    (∀ data packet, tryDeserialize parse data = .ok packet ↔
        ∃ root, parse data = some root ∧ Denotes root packet) ∧
      (∀ packet : Packet D, isSupportedVersion packet.version = true → MeetsItsSchema packet →
        (∃ root, parse (dump (envelope packet)) = some root ∧ root.Equal (envelope packet)) →
        ∃ payload, payload.Equal packet.payload ∧
          tryDeserialize parse (serialize dump packet) = .ok { packet with payload }) ∧
      (∀ data, deserialize parse data = (tryDeserialize parse data).toOption.getD {}) := by
  refine ⟨fun data packet => tryDeserialize_eq_ok_iff, ?_, fun data => ?_⟩
  · rintro packet hSupported hMeets ⟨root, hRoot, hEqual⟩
    obtain ⟨payload, hSame, hDenotes⟩ := denotes_of_equal hEqual hSupported hMeets
    exact ⟨payload, hSame, tryDeserialize_eq_ok_iff.mpr ⟨root, hRoot, hDenotes⟩⟩
  · unfold deserialize
    cases tryDeserialize parse data with
    | ok packet => rfl
    | error failure => rfl

/-- A packet as the tests build it, with signed numbers. -/
def inventoryPacket : Packet Rat where
  type := .inventoryUpdate
  payload := .object [("coins", .numberInteger 250), ("player_id", .numberInteger 4)]

/-- What is printed for it. -/
def inventoryText : Bytes :=
  Bytes.ofString
    "\x7b\"payload\":\x7b\"coins\":250,\"player_id\":4\x7d,\"type\":6,\"version\":1\x7d"

theorem protocol_grammar_inventory :
    ∃ payload, payload.Equal inventoryPacket.payload ∧
      tryDeserialize
        (fun data => if data = inventoryText then some (envelope inventoryPacket).canonical else none)
        (serialize (fun _ => inventoryText) inventoryPacket) =
          .ok { inventoryPacket with payload } := by
  apply (protocol_grammar _ _).2.1 inventoryPacket (by decide)
  · exact validatePayload_eq_none_iff.mp rfl
  · exact ⟨_, if_pos rfl, rfl⟩

end DevyFps.Net
