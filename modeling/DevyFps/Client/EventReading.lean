import DevyFps.Client.AuthoritativeEventFeed

/-! Which events the feed can take. Some of their fields are converted without a look at
their type. -/

namespace DevyFps.Client

open Foundations Net

variable {F : Type} [SingleFloat F]

/-- A field that is a string where it is present. -/
def TextIfPresent (payload : Document F) (field : String) : Prop :=
  ∀ value, payload.member field = some value → value.isString = true

/-- A field that is Boolean where it is present. -/
def FlagIfPresent (payload : Document F) (field : String) : Prop :=
  ∀ value, payload.member field = some value → value.isBoolean = true

/-- A field that can be taken for a number where it is present. -/
def NumberIfPresent (payload : Document F) (field : String) : Prop :=
  ∀ value, payload.member field = some value → value.isNumber = true ∨ value.isBoolean = true

/-- The type of an event that has one. -/
def eventType (event : Document F) : Option String :=
  match event.member "type" with
  | some (.string text) => some text
  | _ => none

/-- Attacker, victim and damage of a hit that can be read. -/
def readHit (payload : Document F) : Option (Nat × Nat × Int) := do
  let attackerId ← readU32 (payload.value "attacker_id" .null)
  let victimId ← readU32 (payload.value "victim_id" .null)
  let damage ← readI32 (payload.value "damage" .null)
  return (attackerId, victimId, damage)

/-- What a hit is remembered by, where it has a number and a tick. -/
def signatureOf (payload : Document F) : Option DamageSignature := do
  let hit ← readHit payload
  let shotSeq ← readU32 (payload.value "shot_seq" .null)
  let tick ← readU64 (payload.value "tick" .null)
  return { tick, attackerId := hit.1, victimId := hit.2.1, shotSeq }

/-- A hit that can be read and is not known yet says whether it was lethal by a Boolean. -/
def ReadableDamage (known : List DamageSignature) (payload : Document F) : Prop :=
  (readHit payload).isSome = true →
    (∀ signature, signatureOf payload = some signature → signature ∉ known) →
      FlagIfPresent payload "lethal"

structure ReadablePickup (event : Document F) : Prop where
  status : TextIfPresent event "status"
  treasure : event.member "status" = some (.string "collected") →
    TextIfPresent event "treasure_id" ∧ NumberIfPresent event "total_value" ∧
      NumberIfPresent event "item_count"

/-- An event that the feed can take, with what it remembers when it comes to it. -/
structure ReadableEvent (localPlayerId : Nat) (known : List DamageSignature)
    (event : Document F) : Prop where
  damage : eventType event = some "damage_event" → ReadableDamage known event
  pickup : eventType event = some "treasure_pickup" →
    readU32 (event.value "player_id" .null) = some localPlayerId → ReadablePickup event
  phase : eventType event = some "match_state_changed" → TextIfPresent event "state"

/-- What is remembered after a hit. -/
def knownAfterHit (known : List DamageSignature) (payload : Document F) : List DamageSignature :=
  match signatureOf payload with
  | some signature =>
      if signature ∈ known then known else AuthoritativeEventFeed.remember known signature
  | none => known

/-- What is remembered after an event. -/
def knownAfter (known : List DamageSignature) (event : Document F) : List DamageSignature :=
  if eventType event = some "damage_event" then knownAfterHit known event else known

def snapshotEvents (payload : Document F) : List (Document F) :=
  (payload.value "events" .null).elements

/-- A field with a fallback is read if it is absent or converts. -/
theorem returns_valueAs_iff {α : Type} (convert : Document F → Except JsonError α)
    {payload : Document F} (h : payload.isObject = true) (field : String) (fallback : α) :
    Returns (payload.valueAs convert field fallback) ↔
      ∀ value, payload.member field = some value → Returns (convert value) := by
  rw [Json.valueAs_of_isObject h]
  cases payload.member field with
  | none => exact iff_of_true (returns_ok fallback) fun _ hMember => by cases hMember
  | some value => simp

theorem returns_getString_iff (value : Document F) :
    Returns value.getString ↔ value.isString = true := by
  cases value with
  | string text => exact iff_of_true (returns_ok text) rfl
  | _ => exact iff_of_false (not_returns_error _) Bool.false_ne_true

theorem returns_getBool_iff (value : Document F) :
    Returns value.getBool ↔ value.isBoolean = true := by
  cases value with
  | boolean flag => exact iff_of_true (returns_ok flag) rfl
  | _ => exact iff_of_false (not_returns_error _) Bool.false_ne_true

theorem returns_getInt_iff (value : Document F) :
    Returns value.getInt ↔ value.isNumber = true ∨ value.isBoolean = true := by
  cases value with
  | boolean flag => exact iff_of_true (returns_ok _) (Or.inr rfl)
  | numberInteger raw => exact iff_of_true (returns_ok _) (Or.inl rfl)
  | numberUnsigned raw => exact iff_of_true (returns_ok _) (Or.inl rfl)
  | numberFloat raw => exact iff_of_true (returns_ok _) (Or.inl rfl)
  | _ => exact iff_of_false (not_returns_error _) (by rintro (h | h) <;> cases h)

/-- A text is read unless the field holds something else. -/
theorem returns_text_iff {payload : Document F} (h : payload.isObject = true)
    (field fallback : String) :
    Returns (payload.valueAs Json.getString field fallback) ↔ TextIfPresent payload field := by
  rw [returns_valueAs_iff _ h]
  simp only [returns_getString_iff]
  rfl

/-- A number is read unless the field holds something that is neither a number nor a boolean. -/
theorem returns_number_iff {payload : Document F} (h : payload.isObject = true)
    (field : String) (fallback : Int32) :
    Returns (payload.valueAs Json.getInt field fallback) ↔ NumberIfPresent payload field := by
  rw [returns_valueAs_iff _ h]
  simp only [returns_getInt_iff]
  rfl

/-- Steps that all have to end, whatever they hand on. -/
theorem returns_bind_of_forall {α β : Type} {x : Except JsonError α} {f : α → Except JsonError β}
    {P : Prop} (h : ∀ a, Returns (f a) ↔ P) : Returns (x >>= f) ↔ Returns x ∧ P := by
  rw [returns_bind_iff]
  constructor
  · rintro ⟨a, hRead, hRest⟩
    exact ⟨⟨a, hRead⟩, (h a).mp hRest⟩
  · rintro ⟨⟨a, hRead⟩, hRest⟩
    exact ⟨a, hRead, (h a).mpr hRest⟩

/-- The status that is read, and when it is `collected`. -/
theorem status_collected {event : Document F} (h : event.isObject = true) {status : String}
    (hRead : event.valueAs Json.getString "status" "unknown" = .ok status) :
    status = "collected" ↔ event.member "status" = some (.string "collected") := by
  rw [Json.valueAs_of_isObject h] at hRead
  cases hMember : event.member "status" with
  | none =>
      rw [hMember] at hRead
      cases hRead
      simp
  | some value =>
      rw [hMember] at hRead
      cases value with
      | string text =>
          cases hRead
          simp
      | _ => cases hRead

/-- The status line of a pickup, by the fields that it reads. -/
theorem returns_pickupStatusMessage_iff {event : Document F} (h : event.isObject = true) :
    Returns (pickupStatusMessage event) ↔ ReadablePickup event := by
  have hCollected : ∀ message : String → Int32 → Int32 → String,
      Returns (do
        let treasureId ← event.valueAs Json.getString "treasure_id" "treasure"
        let totalValue ← event.valueAs Json.getInt "total_value" 0
        let itemCount ← event.valueAs Json.getInt "item_count" 0
        return message treasureId totalValue itemCount) ↔
      TextIfPresent event "treasure_id" ∧ NumberIfPresent event "total_value" ∧
        NumberIfPresent event "item_count" := by
    intro message
    rw [returns_bind_of_forall fun treasureId => returns_bind_of_forall fun totalValue =>
      returns_bind_of_forall fun itemCount => iff_true_intro (returns_pure _)]
    rw [returns_text_iff h, returns_number_iff h, returns_number_iff h, and_true]
  unfold pickupStatusMessage
  rw [returns_bind_iff]
  constructor
  · rintro ⟨status, hRead, hRest⟩
    refine ⟨(returns_text_iff h "status" "unknown").mp ⟨status, hRead⟩, fun hMember => ?_⟩
    rw [if_pos ((status_collected h hRead).mpr hMember)] at hRest
    exact (hCollected _).mp hRest
  · rintro ⟨hStatus, hTreasure⟩
    obtain ⟨status, hRead⟩ := (returns_text_iff h "status" "unknown").mpr hStatus
    refine ⟨status, hRead, ?_⟩
    by_cases hSame : status = "collected"
    · rw [if_pos hSame]
      exact (hCollected _).mpr (hTreasure ((status_collected h hRead).mp hSame))
    · rw [if_neg hSame]
      split_ifs <;> exact returns_pure _

namespace AuthoritativeEventFeed

/-- Only the flag of a hit is converted without a check. -/
theorem returns_damageMessage_iff {payload : Document F} (h : payload.isObject = true)
    (localPlayerId attackerId victimId : Nat) (damage : Int) :
    Returns (damageMessage payload localPlayerId attackerId victimId damage) ↔
      FlagIfPresent payload "lethal" := by
  have hLethal := returns_valueAs_iff Json.getBool h "lethal" false
  simp only [returns_getBool_iff] at hLethal
  refine Iff.trans ?_ hLethal
  unfold damageMessage
  rw [returns_bind_iff]
  constructor
  · rintro ⟨lethal, hRead, -⟩
    exact ⟨lethal, hRead⟩
  · rintro ⟨lethal, hRead⟩
    refine ⟨lethal, hRead, ?_⟩
    split_ifs <;> exact returns_pure _

/-- A hit is a duplicate exactly if its signature is remembered. -/
theorem isDuplicateDamage_iff (s : AuthoritativeEventFeed) (signature : DamageSignature) :
    s.isDuplicateDamage signature = true ↔ signature ∈ s.recentDamageSignatures := by
  unfold isDuplicateDamage
  rw [List.any_eq_true]
  constructor
  · rintro ⟨known, hKnown, hSame⟩
    exact beq_iff_eq.mp hSame ▸ hKnown
  · exact fun hKnown => ⟨signature, hKnown, beq_self_eq_true signature⟩

/-- What a report of a hit comes to: it is passed over, or its message is made, after which
it is remembered. -/
theorem consumeDamageEvent_eq (s : AuthoritativeEventFeed) (payload : Document F)
    (localPlayerId : Nat) :
    s.consumeDamageEvent payload localPlayerId =
      match readHit payload, signatureOf payload with
      | none, _ => .ok (none, s)
      | some hit, none =>
          (damageMessage payload localPlayerId hit.1 hit.2.1 hit.2.2).map fun message =>
            (message, s)
      | some hit, some signature =>
          if signature ∈ s.recentDamageSignatures then .ok (none, s)
          else
            (damageMessage payload localPlayerId hit.1 hit.2.1 hit.2.2).map fun message =>
              (message, s.rememberDamage signature) := by
  unfold consumeDamageEvent
  cases hObject : payload.isObject with
  | false =>
      have hMember : ∀ field, payload.value field .null = .null := by
        intro field
        cases payload with
        | object members => cases hObject
        | _ => rfl
      have hHit : readHit payload = none := by
        unfold readHit
        rw [hMember]
        rfl
      rw [hHit]
      rfl
  | true =>
      simp only [Json.valueJson_of_isObject hObject, ok_bind, jsonToU32_eq, jsonToI32_eq,
        jsonToU64_eq]
      unfold signatureOf readHit
      cases readU32 (payload.value "attacker_id" .null) with
      | none => rfl
      | some attackerId =>
          cases readU32 (payload.value "victim_id" .null) with
          | none => rfl
          | some victimId =>
              cases readI32 (payload.value "damage" .null) with
              | none => rfl
              | some damage =>
                  cases readU32 (payload.value "shot_seq" .null) with
                  | none => rfl
                  | some shotSeq =>
                      cases readU64 (payload.value "tick" .null) with
                      | none => rfl
                      | some tick =>
                          by_cases hKnown :
                              ({ tick, attackerId, victimId, shotSeq } : DamageSignature) ∈
                                s.recentDamageSignatures
                          · exact (if_pos ((s.isDuplicateDamage_iff _).mpr hKnown)).trans
                              (if_pos hKnown).symm
                          · exact (if_neg (mt (s.isDuplicateDamage_iff _).mp hKnown)).trans
                              (if_neg hKnown).symm

theorem returns_map_iff {α β : Type} {x : Except JsonError α} {f : α → β} :
    Returns (x.map f) ↔ Returns x := by
  cases x with
  | error e => exact iff_of_false (not_returns_error e) (not_returns_error e)
  | ok a => exact iff_of_true (returns_ok (f a)) (returns_ok a)

/-- Only an object is read as a hit. -/
theorem isObject_of_readHit {payload : Document F} {hit : Nat × Nat × Int}
    (h : readHit payload = some hit) : payload.isObject = true := by
  cases payload with
  | object members => rfl
  | _ => cases h

/-- A hit that is known is not read further. -/
theorem returns_consumeDamageEvent_iff (s : AuthoritativeEventFeed) (payload : Document F)
    (localPlayerId : Nat) :
    Returns (s.consumeDamageEvent payload localPlayerId) ↔
      ReadableDamage s.recentDamageSignatures payload := by
  rw [consumeDamageEvent_eq]
  unfold ReadableDamage
  cases hHit : readHit payload with
  | none => exact iff_of_true (returns_ok _) fun hSome => by cases hSome
  | some hit =>
      have hMessage := returns_damageMessage_iff (isObject_of_readHit hHit) localPlayerId
        hit.1 hit.2.1 hit.2.2
      cases hSignature : signatureOf payload with
      | none =>
          dsimp only
          rw [returns_map_iff, hMessage]
          simp
      | some signature =>
          dsimp only
          by_cases hKnown : signature ∈ s.recentDamageSignatures
          · rw [if_pos hKnown]
            exact iff_of_true (returns_ok _) fun _ hNew => absurd hKnown (hNew signature rfl)
          · rw [if_neg hKnown, returns_map_iff, hMessage]
            simp [hKnown]

/-- What is remembered after a hit. -/
theorem known_consumeDamageEvent {s t : AuthoritativeEventFeed} {payload : Document F}
    {localPlayerId : Nat} {message : Option String}
    (h : s.consumeDamageEvent payload localPlayerId = .ok (message, t)) :
    t.recentDamageSignatures = knownAfterHit s.recentDamageSignatures payload := by
  rw [consumeDamageEvent_eq] at h
  unfold knownAfterHit
  cases hHit : readHit payload with
  | none =>
      have hSignature : signatureOf payload = none := by
        unfold signatureOf
        rw [hHit]
        rfl
      rw [hHit] at h
      cases h
      rw [hSignature]
  | some hit =>
      rw [hHit] at h
      cases hSignature : signatureOf payload with
      | none =>
          rw [hSignature] at h
          obtain ⟨text, -, hAnswer⟩ := ok_of_map h
          cases hAnswer
          rfl
      | some signature =>
          rw [hSignature] at h
          dsimp only at h ⊢
          by_cases hKnown : signature ∈ s.recentDamageSignatures
          · rw [if_pos hKnown] at h ⊢
            cases h
            rfl
          · rw [if_neg hKnown] at h ⊢
            obtain ⟨text, -, hAnswer⟩ := ok_of_map h
            cases hAnswer
            rfl

/-- A phase is not remembered among the hits. -/
theorem known_phaseMessage (s : AuthoritativeEventFeed) (state : String)
    (remainingSeconds : Option Int) :
    (s.phaseMessage state remainingSeconds).2.recentDamageSignatures =
      s.recentDamageSignatures := by
  unfold phaseMessage
  split_ifs <;> rfl

/-- What it takes to read an event, by its type. -/
theorem readableEvent_iff {type : String} {event : Document F} {localPlayerId : Nat}
    {known : List DamageSignature} (hType : eventType event = some type) :
    ReadableEvent localPlayerId known event ↔
      (type = "damage_event" → ReadableDamage known event) ∧
        (type = "treasure_pickup" →
          readU32 (event.value "player_id" .null) = some localPlayerId → ReadablePickup event) ∧
        (type = "match_state_changed" → TextIfPresent event "state") := by
  have hSame : ∀ other, eventType event = some other ↔ type = other := by
    intro other
    rw [hType, Option.some.injEq]
  constructor
  · exact fun h => ⟨fun hOther => h.damage ((hSame _).mpr hOther),
      fun hOther => h.pickup ((hSame _).mpr hOther), fun hOther => h.phase ((hSame _).mpr hOther)⟩
  · exact fun h => ⟨fun hOther => h.1 ((hSame _).mp hOther),
      fun hOther => h.2.1 ((hSame _).mp hOther), fun hOther => h.2.2 ((hSame _).mp hOther)⟩

/-- The seconds of a match are read from anything. -/
theorem returns_jsonToFloorSeconds (value : Document F) : Returns (jsonToFloorSeconds value) := by
  cases value <;> exact ⟨_, rfl⟩

/-- Only an object has a type. -/
theorem isObject_of_eventType {type : String} {event : Document F}
    (h : eventType event = some type) : event.isObject = true := by
  cases event with
  | object members => rfl
  | _ => cases h

/-- When an event of a given type can be taken. -/
theorem returns_consumeEventOfType_iff (s : AuthoritativeEventFeed) {type : String}
    {event : Document F} (hType : eventType event = some type) (localPlayerId : Nat) :
    Returns (s.consumeEventOfType type event localPlayerId) ↔
      ReadableEvent localPlayerId s.recentDamageSignatures event := by
  have hObject := isObject_of_eventType hType
  rw [readableEvent_iff hType]
  unfold consumeEventOfType
  simp only [Json.valueJson_of_isObject hObject, ok_bind, jsonToU32_eq]
  by_cases hDamage : type = "damage_event"
  · rw [if_pos hDamage, returns_consumeDamageEvent_iff, hDamage]
    simp
  · rw [if_neg hDamage]
    by_cases hDeath : type = "death_event"
    · rw [if_pos hDeath, hDeath]
      refine iff_of_true ?_ (by simp)
      split_ifs <;> exact returns_pure _
    · rw [if_neg hDeath]
      by_cases hPickup : type = "treasure_pickup"
      · rw [if_pos hPickup, hPickup]
        by_cases hLocal : readU32 (event.value "player_id" .null) = some localPlayerId
        · rw [if_neg (not_not.mpr hLocal), returns_bind_of_forall fun message =>
            iff_true_intro (returns_pure _), returns_pickupStatusMessage_iff hObject]
          simp [hLocal]
        · rw [if_pos hLocal]
          exact iff_of_true (returns_pure _) (by simp [hLocal])
      · rw [if_neg hPickup]
        by_cases hRespawn : type = "respawn_event"
        · rw [if_pos hRespawn, hRespawn]
          refine iff_of_true ?_ (by simp)
          split_ifs <;> exact returns_pure _
        · rw [if_neg hRespawn]
          by_cases hPhase : type = "match_state_changed"
          · obtain ⟨seconds, hSeconds⟩ :=
              returns_jsonToFloorSeconds (event.value "remaining_seconds" .null)
            rw [if_pos hPhase, hSeconds]
            simp only [ok_bind]
            rw [returns_bind_of_forall fun state => iff_true_intro (returns_pure _),
              returns_text_iff hObject, hPhase]
            simp
          · rw [if_neg hPhase]
            exact iff_of_true (returns_pure _) (by simp [hDamage, hPickup, hPhase])

/-- Only hits are remembered. -/
theorem known_of_not_damage {s t : AuthoritativeEventFeed} {type : String} {event : Document F}
    (hType : type ≠ "damage_event") {localPlayerId : Nat} {message : Option String}
    (hObject : event.isObject = true)
    (h : s.consumeEventOfType type event localPlayerId = .ok (message, t)) :
    t.recentDamageSignatures = s.recentDamageSignatures := by
  unfold consumeEventOfType at h
  simp only [Json.valueJson_of_isObject hObject, ok_bind, jsonToU32_eq] at h
  rw [if_neg hType] at h
  by_cases hDeath : type = "death_event"
  · rw [if_pos hDeath] at h
    split_ifs at h <;> cases h <;> rfl
  · rw [if_neg hDeath] at h
    by_cases hPickup : type = "treasure_pickup"
    · rw [if_pos hPickup] at h
      split_ifs at h
      · cases h
        rfl
      · obtain ⟨text, -, hAnswer⟩ := ok_of_bind h
        cases hAnswer
        rfl
    · rw [if_neg hPickup] at h
      by_cases hRespawn : type = "respawn_event"
      · rw [if_pos hRespawn] at h
        split_ifs at h <;> cases h <;> rfl
      · rw [if_neg hRespawn] at h
        by_cases hPhase : type = "match_state_changed"
        · obtain ⟨seconds, hSeconds⟩ :=
            returns_jsonToFloorSeconds (event.value "remaining_seconds" .null)
          rw [if_pos hPhase, hSeconds] at h
          simp only [ok_bind] at h
          obtain ⟨state, -, hRest⟩ := ok_of_bind h
          have hAnswer := congrArg (fun pair => pair.2.recentDamageSignatures) (Except.ok.inj hRest)
          exact hAnswer.symm.trans (s.known_phaseMessage state seconds)
        · rw [if_neg hPhase] at h
          cases h
          rfl

/-- What is remembered after an event of a given type. -/
theorem known_consumeEventOfType {s t : AuthoritativeEventFeed} {type : String}
    {event : Document F} (hType : eventType event = some type) {localPlayerId : Nat}
    {message : Option String}
    (h : s.consumeEventOfType type event localPlayerId = .ok (message, t)) :
    t.recentDamageSignatures = knownAfter s.recentDamageSignatures event := by
  unfold knownAfter
  by_cases hDamage : type = "damage_event"
  · rw [if_pos (hDamage ▸ hType)]
    unfold consumeEventOfType at h
    rw [if_pos hDamage] at h
    exact known_consumeDamageEvent h
  · rw [if_neg (by rw [hType, Option.some.injEq]; exact hDamage)]
    exact known_of_not_damage hDamage (isObject_of_eventType hType) h

/-- An event without a type is skipped. -/
theorem consumeEvent_of_no_type {event : Document F} (h : eventType event = none)
    (localPlayerId : Nat) (acc : List String × AuthoritativeEventFeed) :
    consumeEvent localPlayerId acc event = .ok acc := by
  unfold eventType at h
  unfold consumeEvent Json.contains
  cases hMember : event.member "type" with
  | none => cases event.isObject <;> rfl
  | some value =>
      rw [hMember] at h
      rw [Json.isObject_of_member hMember, Json.index_of_member hMember]
      cases value with
      | string text => cases h
      | _ => rfl

/-- An event with a type adds its message, if it has one. -/
theorem consumeEvent_of_type {event : Document F} {type : String}
    (h : eventType event = some type) (localPlayerId : Nat)
    (acc : List String × AuthoritativeEventFeed) :
    consumeEvent localPlayerId acc event =
      (acc.2.consumeEventOfType type event localPlayerId).map fun consumed =>
        (acc.1 ++ consumed.1.toList, consumed.2) := by
  unfold eventType at h
  unfold consumeEvent Json.contains
  cases hMember : event.member "type" with
  | none =>
      rw [hMember] at h
      cases h
  | some value =>
      rw [hMember] at h
      rw [Json.isObject_of_member hMember, Json.index_of_member hMember]
      cases value with
      | string text =>
          cases h
          change (acc.2.consumeEventOfType type event localPlayerId >>= _) = _
          cases acc.2.consumeEventOfType type event localPlayerId <;> rfl
      | _ => cases h

/-- The body of the loop over the events: when it returns, and what is remembered then. -/
theorem consumeEvent_spec (localPlayerId : Nat) (acc : List String × AuthoritativeEventFeed)
    (event : Document F) :
    (Returns (consumeEvent localPlayerId acc event) ↔
        ReadableEvent localPlayerId acc.2.recentDamageSignatures event) ∧
      ∀ next, consumeEvent localPlayerId acc event = .ok next →
        next.2.recentDamageSignatures = knownAfter acc.2.recentDamageSignatures event := by
  cases hType : eventType event with
  | none =>
      rw [consumeEvent_of_no_type hType]
      refine ⟨iff_of_true (returns_ok acc) ?_, fun next hNext => ?_⟩
      · refine ⟨fun h => ?_, fun h => ?_, fun h => ?_⟩ <;>
          · rw [hType] at h
            cases h
      · cases hNext
        unfold knownAfter
        rw [if_neg (by rw [hType]; exact Option.some_ne_none _ ∘ Eq.symm)]
  | some type =>
      rw [consumeEvent_of_type hType, returns_map_iff, returns_consumeEventOfType_iff _ hType]
      refine ⟨Iff.rfl, fun next hNext => ?_⟩
      obtain ⟨consumed, hConsumed, rfl⟩ := ok_of_map hNext
      exact known_consumeEventOfType hType hConsumed

/-- The loop over the events returns exactly if each event is readable when its turn comes. -/
theorem returns_consumeEvents_iff (localPlayerId : Nat) (events : List (Document F))
    (acc : List String × AuthoritativeEventFeed) :
    Returns (events.foldlM (consumeEvent localPlayerId) acc) ↔
      ∀ before event after, events = before ++ event :: after →
        ReadableEvent localPlayerId (before.foldl knownAfter acc.2.recentDamageSignatures)
          event := by
  induction events generalizing acc with
  | nil => exact iff_of_true (returns_pure acc) fun before event after h => by simp at h
  | cons head rest ih =>
      obtain ⟨hReturns, hKnown⟩ := consumeEvent_spec localPlayerId acc head
      rw [List.foldlM_cons, returns_bind_iff]
      constructor
      · rintro ⟨next, hNext, hRest⟩ before event after hSplit
        cases before with
        | nil =>
            obtain ⟨rfl, -⟩ := List.cons.inj hSplit
            exact hReturns.mp ⟨next, hNext⟩
        | cons first before =>
            obtain ⟨rfl, hTail⟩ := List.cons.inj hSplit
            have hLater := (ih next).mp hRest before event after hTail
            rw [hKnown next hNext] at hLater
            exact hLater
      · intro hAll
        obtain ⟨next, hNext⟩ := hReturns.mpr (hAll [] head rest rfl)
        refine ⟨next, hNext, (ih next).mpr fun before event after hSplit => ?_⟩
        rw [hKnown next hNext]
        exact hAll (head :: before) event after (congrArg (head :: ·) hSplit)

/-- The events of a snapshot can be read exactly if each can, with the hits before it remembered;
by induction on the events. -/
theorem returns_consumeSnapshotEvents_iff (s : AuthoritativeEventFeed) (payload : Document F)
    (localPlayerId : Nat) :
    Returns (s.consumeSnapshotEvents payload localPlayerId) ↔
      ∀ before event after, snapshotEvents payload = before ++ event :: after →
        ReadableEvent localPlayerId (before.foldl knownAfter s.recentDamageSignatures) event := by
  rw [← returns_consumeEvents_iff localPlayerId (snapshotEvents payload) ([], s)]
  unfold consumeSnapshotEvents snapshotEvents Json.contains Json.value
  cases hMember : payload.member "events" with
  | none =>
      refine iff_of_true ?_ (returns_pure _)
      cases payload.isObject <;> exact returns_pure _
  | some events =>
      rw [Json.isObject_of_member hMember, Json.index_of_member hMember]
      cases events with
      | array values => exact Iff.rfl
      | _ => exact iff_of_true (returns_pure _) (returns_pure _)

/-- A match state can be read unless its text is not one. -/
theorem returns_consumeReliableMatchState_iff (s : AuthoritativeEventFeed)
    {payload : Document F} (h : payload.isObject = true) :
    Returns (s.consumeReliableMatchState payload) ↔ TextIfPresent payload "state" := by
  unfold consumeReliableMatchState
  obtain ⟨seconds, hSeconds⟩ :=
    returns_jsonToFloorSeconds (payload.value "remaining_seconds" .null)
  simp only [h, Json.valueJson_of_isObject h, ok_bind, hSeconds, Bool.not_true,
    Bool.false_eq_true, if_false]
  rw [returns_bind_of_forall fun state => iff_true_intro ?_, returns_text_iff h, and_true]
  split_ifs <;> exact returns_pure _

end AuthoritativeEventFeed

end DevyFps.Client
