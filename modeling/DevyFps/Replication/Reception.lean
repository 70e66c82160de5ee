import DevyFps.Client.ClientLoop
import DevyFps.Replication.EventDelivery

/-! What the server sends can be taken by the client: the schemas accept it, and every field that
the client converts without a look at its type is of the right one. -/

namespace DevyFps.Replication

open Foundations Net Client Server
open Server.MainLoop (LoopEvent LoopStep)
open Server.ServerHost (HostStep)

variable {F : Type} [SingleFloat F]

/-- The fields that the client converts, of a message or of an event in a snapshot. -/
def convertedFields : List (String × PayloadFieldType) :=
  [("accepted", .boolean), ("lethal", .boolean), ("state", .string), ("status", .string),
    ("reason", .string), ("treasure_id", .string), ("coins", .integer), ("item_count", .integer),
    ("total_value", .integer)]

/-- An object whose converted fields are of their types, where it has them. -/
def isPlain (payload : Document F) : Bool :=
  payload.isObject && convertedFields.all fun field =>
    (payload.member field.1).all fun value => matchesType value field.2

/-- A document is plain after the transport exactly if it was before. -/
theorem isPlain_arrived (payload : Document F) : isPlain (arrived payload) = isPlain payload := by
  have hTypes : ∀ field ∈ convertedFields, field.2 ≠ .number := by decide
  unfold isPlain
  rw [Json.isObject_delivered]
  congr 1
  rw [Bool.eq_iff_iff, List.all_eq_true, List.all_eq_true]
  refine forall₂_congr fun field hField => ?_
  rw [Json.member_delivered]
  cases payload.member field.1 with
  | none => exact Iff.rfl
  | some value =>
      change matchesType (arrived value) field.2 = true ↔ matchesType value field.2 = true
      rw [matchesType_arrived fun hType => absurd hType (hTypes field hField)]

section Plain

variable {payload : Document F}

/-- A plain document is an object. -/
theorem isObject_of_plain (h : isPlain payload = true) : payload.isObject = true :=
  (Bool.and_eq_true _ _ ▸ h : _ ∧ _).1

/-- Its fields that the client converts have the types that the client asks for. -/
theorem matchesType_of_plain (h : isPlain payload = true) {field : String × PayloadFieldType}
    (hField : field ∈ convertedFields) {value : Document F}
    (hValue : payload.member field.1 = some value) : matchesType value field.2 = true := by
  have hAll := List.all_eq_true.mp (Bool.and_eq_true _ _ ▸ h : _ ∧ _).2 field hField
  rw [hValue] at hAll
  exact hAll

/-- A boolean field of a plain document is absent or a boolean. -/
theorem flag_of_plain (h : isPlain payload = true) {field : String}
    (hField : (field, .boolean) ∈ convertedFields) : FlagIfPresent payload field :=
  fun _ hValue => matchesType_of_plain h hField hValue

/-- A text field is absent or a text. -/
theorem text_of_plain (h : isPlain payload = true) {field : String}
    (hField : (field, .string) ∈ convertedFields) : TextIfPresent payload field :=
  fun _ hValue => matchesType_of_plain h hField hValue

/-- A number field is absent or an integer. -/
theorem number_of_plain (h : isPlain payload = true) {field : String}
    (hField : (field, .integer) ∈ convertedFields) : NumberIfPresent payload field := by
  intro value hValue
  have hInteger := matchesType_of_plain h hField hValue
  cases value with
  | numberInteger raw => exact Or.inl rfl
  | numberUnsigned raw => exact Or.inl rfl
  | _ => cases hInteger

/-- No reader of events fails on a plain one. -/
theorem readableEvent_of_plain (h : isPlain payload = true) (localPlayerId : Nat)
    (known : List DamageSignature) : ReadableEvent localPlayerId known payload where
  damage _ _ _ := flag_of_plain h (by decide)
  pickup _ _ :=
    { status := text_of_plain h (by decide)
      treasure := fun _ => ⟨text_of_plain h (by decide), number_of_plain h (by decide),
        number_of_plain h (by decide)⟩ }
  phase _ := text_of_plain h (by decide)

end Plain

/-- A message that the client takes: its payload is plain, and so are the events in it. -/
structure Digestible (packet : Net.Packet (SingleFloat.Double F)) : Prop where
  plain : isPlain packet.payload = true
  events : ∀ event ∈ snapshotEvents packet.payload, isPlain event = true

/-- What can be read when it is sent can be read when it arrives. -/
theorem Digestible.arrived {packet : Net.Packet (SingleFloat.Double F)} (h : Digestible packet) :
    Digestible { packet with payload := arrived packet.payload } where
  plain := (isPlain_arrived _).trans h.plain
  events event hEvent := by
    unfold snapshotEvents at hEvent
    rw [Json.value_delivered, Json.elements_delivered] at hEvent
    obtain ⟨sent, hSent, rfl⟩ := List.mem_map.mp hEvent
    exact (isPlain_arrived sent).trans (h.events sent hSent)

/-! The handlers of the client on a digestible packet. -/

namespace Digestible

variable {packet : Net.Packet (SingleFloat.Double F)}

/-- The handlers of the client return on a packet that can be read. -/
theorem returns_receiveJoinAccept (h : Digestible packet) (s : ClientLoop F) (now : Nat) :
    Returns (s.receiveJoinAccept now packet.payload) := by
  have hObject := isObject_of_plain h.plain
  unfold ClientLoop.receiveJoinAccept
  have hAccepted := (returns_valueAs_iff Json.getBool hObject "accepted" false).mpr
    fun value hValue => (returns_getBool_iff value).mpr (flag_of_plain h.plain (by decide) value hValue)
  refine hAccepted.bind fun accepted => ?_
  split
  · exact ((returns_text_iff hObject "reason" _).mpr (text_of_plain h.plain (by decide))).bind
      fun _ => returns_pure _
  · rw [Json.valueJson_of_isObject hObject, ok_bind, jsonToU32_eq, ok_bind]
    split <;> exact returns_pure _

theorem returns_receiveSnapshot (h : Digestible packet) (s : ClientLoop F)
    (settings : ClientSettings) (now : Nat) :
    Returns (s.receiveSnapshot settings now packet.payload) := by
  unfold ClientLoop.receiveSnapshot
  split
  · exact returns_pure _
  · refine (s.reconciler.returns_consumeSnapshot packet.payload s.localPlayerId).bind
      fun reconciled => ?_
    rw [Accessed.parseChunkSync_eq, ok_bind]
    have hEvents := (s.eventFeed.returns_consumeSnapshotEvents_iff packet.payload
      s.localPlayerId).mpr fun before event after hSplit =>
        readableEvent_of_plain (h.events event (by rw [hSplit]; simp)) _ _
    exact hEvents.bind fun told => returns_pure _

theorem returns_receiveInventoryUpdate (h : Digestible packet) (s : ClientLoop F) :
    Returns (s.receiveInventoryUpdate packet.payload) := by
  have hObject := isObject_of_plain h.plain
  unfold ClientLoop.receiveInventoryUpdate
  rw [Json.valueJson_of_isObject hObject, ok_bind, jsonToU32_eq, ok_bind]
  split
  · exact returns_pure _
  · have hCoins := (returns_number_iff hObject "coins" 0).mpr (number_of_plain h.plain (by decide))
    have hItems :=
      (returns_number_iff hObject "item_count" 0).mpr (number_of_plain h.plain (by decide))
    exact hCoins.bind fun _ => hItems.bind fun _ => returns_pure _

theorem returns_receiveDamageEvent (h : Digestible packet) (s : ClientLoop F) (now : Nat) :
    Returns (s.receiveDamageEvent now packet.payload) := by
  have hDamage : ReadableDamage s.eventFeed.recentDamageSignatures packet.payload :=
    fun _ _ => flag_of_plain h.plain (by decide)
  exact ((s.eventFeed.returns_consumeDamageEvent_iff _ _).mpr hDamage).bind
    fun told => returns_pure _

theorem returns_receiveMatchState (h : Digestible packet) (s : ClientLoop F) (now : Nat) :
    Returns (s.receiveMatchState now packet.payload) :=
  ((s.eventFeed.returns_consumeReliableMatchState_iff (isObject_of_plain h.plain)).mpr
    (text_of_plain h.plain (by decide))).bind fun told => returns_pure _

/-- The client returns from every packet that can be read. -/
theorem returns_receivePacket (h : Digestible packet) (s : ClientLoop F)
    (settings : ClientSettings) (now : Nat) :
    Returns (s.receivePacket settings now packet) := by
  unfold ClientLoop.receivePacket
  split
  · exact h.returns_receiveJoinAccept s now
  · exact h.returns_receiveSnapshot s settings now
  · exact h.returns_receiveInventoryUpdate s
  · exact h.returns_receiveDamageEvent s now
  · exact h.returns_receiveMatchState s now
  · exact returns_ok s

/-- Whether the schema accepts it or not. -/
theorem returns_receive (h : Digestible packet) (s : ClientLoop F)
    (settings : ClientSettings) (now : Nat) :
    Returns (s.receive settings now packet) := by
  unfold ClientLoop.receive
  split
  · exact returns_ok s
  · rename_i received hReceived
    obtain ⟨-, rfl, -⟩ := carried_eq_ok_iff.mp hReceived
    exact h.arrived.returns_receivePacket s settings now

end Digestible

/-! What the server puts into its packets. -/

/-- A list of events that the feed can take. -/
def PlainEvents (events : List (Document F)) : Prop := ∀ event ∈ events, isPlain event = true

/-- The events of the server are plain. -/
theorem plain_stateEvent (tick : Nat) (state : MatchLifecycleState) :
    isPlain (stateEvent tick state : Document F) = true := by
  unfold stateEvent winnerMember
  cases state.winnerPlayerId <;> rfl

/-- All events of a tick are plain. -/
theorem plain_tickEvents (record : ServerTick F) : PlainEvents (tickEvents record) := by
  intro event hEvent
  unfold tickEvents ServerTick.appendOutputs appendCombatOutputs ServerTick.matchEvents
    ServerTick.lootEvents at hEvent
  simp only [List.nil_append, List.mem_append, List.mem_map] at hEvent
  rcases hEvent with (((⟨playerId, -, rfl⟩ | hState) | ⟨damage, -, rfl⟩) | ⟨death, -, rfl⟩) |
    ⟨spawn, -, rfl⟩ | ⟨pickup, -, rfl⟩
  · rfl
  · split at hState
    · rw [List.mem_singleton.mp hState]
      exact plain_stateEvent _ _
    · cases hState
  · rfl
  · rfl
  · rfl
  · rfl

/-- So is the payload of a match state, with or without a board. -/
theorem plain_buildMatchStatePayload (state : MatchLifecycleState)
    (scoreboard : List MatchScoreEntry) (includeScoreboard : Bool) :
    isPlain (buildMatchStatePayload state scoreboard includeScoreboard : Document F) = true := by
  unfold buildMatchStatePayload winnerMember
  cases includeScoreboard <;> cases state.winnerPlayerId <;> rfl

/-- A packet that arrives at the client, which takes it. -/
structure Taken (packet : Net.Packet (SingleFloat.Double F)) : Prop where
  carried : carried packet = .ok { packet with payload := arrived packet.payload }
  digestible : Digestible packet

section Packets

variable {settings : OutboundSettings F}

/-- Each kind of packet that the server builds is taken by a client. -/
theorem taken_joinAccepted (result : JoinResult) : Taken (settings.joinAccepted result) where
  carried := carried_of_valid rfl rfl (numbersPrinted_of_schema rfl (by decide))
  digestible := ⟨rfl, fun event hEvent => nomatch hEvent⟩

theorem taken_joinRejected (result : JoinResult) : Taken (settings.joinRejected result) where
  carried := carried_of_valid rfl rfl (numbersPrinted_of_schema rfl (by decide))
  digestible := ⟨rfl, fun event hEvent => nomatch hEvent⟩

theorem taken_toDamagePacket (event : DamageResolution) :
    Taken (toDamagePacket event : Net.Packet (SingleFloat.Double F)) where
  carried := carried_of_valid rfl rfl (numbersPrinted_of_schema rfl (by decide))
  digestible := ⟨rfl, fun event hEvent => nomatch hEvent⟩

theorem taken_inventoryUpdatePacket (summary : InventorySummary) :
    Taken (inventoryUpdatePacket summary : Net.Packet (SingleFloat.Double F)) where
  carried := carried_of_valid rfl rfl (numbersPrinted_of_schema rfl (by decide))
  digestible := ⟨rfl, fun event hEvent => nomatch hEvent⟩

theorem taken_buildMatchStatePacket (state : MatchLifecycleState)
    (scoreboard : List MatchScoreEntry) :
    Taken (buildMatchStatePacket state scoreboard : Net.Packet (SingleFloat.Double F)) where
  carried := by
    refine carried_of_valid rfl ?_ fun schema hSchema field hField hType value hValue => ?_
    · unfold buildMatchStatePacket buildMatchStatePayload winnerMember
      cases state.winnerPlayerId <;> rfl
    · obtain rfl := Option.some.inj hSchema
      simp only [kMatchStateFields, List.mem_cons, List.not_mem_nil, or_false] at hField
      rcases hField with rfl | rfl | rfl
      · cases hType
      · cases hValue
        rfl
      · cases hType
  digestible := by
    refine ⟨plain_buildMatchStatePayload state scoreboard true, fun event hEvent => ?_⟩
    unfold buildMatchStatePacket buildMatchStatePayload winnerMember at hEvent
    cases hWinner : state.winnerPlayerId with
    | none =>
        rw [hWinner] at hEvent
        cases hEvent
    | some playerId =>
        rw [hWinner] at hEvent
        cases hEvent

/-- A snapshot is taken if its events are plain. -/
theorem taken_snapshotPacket (tick : Nat) (players : List (Document F))
    {events : List (Document F)} (hEvents : PlainEvents events)
    (treasureSpawns matchState : Document F) (update : PlayerWorldUpdate) :
    Taken (snapshotPacket tick players events treasureSpawns matchState update) where
  carried := carried_of_valid rfl rfl (numbersPrinted_of_schema rfl (by decide))
  digestible := ⟨rfl, hEvents⟩

/-- All that a tick sends. -/
theorem taken_tickPackets {s : ServerHost F} (hPending : PlainEvents s.pendingSnapshotEvents)
    (record : ServerTick F) {entry : SentPacket F} (hEntry : entry ∈ s.tickPackets settings record) :
    Taken entry.packet := by
  have hBroadcast : ∀ packets : List (Net.Packet (SingleFloat.Double F)),
      entry ∈ s.loop.broadcast packets → entry.packet ∈ packets := by
    intro packets hMem
    obtain ⟨packet, hPacket, hSent⟩ := List.mem_flatMap.mp hMem
    obtain ⟨session, -, rfl⟩ := List.mem_map.mp hSent
    exact hPacket
  unfold ServerHost.tickPackets at hEntry
  simp only [List.mem_append] at hEntry
  rcases hEntry with ((hDamage | hInventory) | hState) | hSnapshot
  · obtain ⟨event, -, hPacket⟩ := List.mem_map.mp (hBroadcast _ hDamage)
    exact hPacket ▸ taken_toDamagePacket event
  · obtain ⟨summary, -, hSent⟩ := List.mem_filterMap.mp hInventory
    obtain ⟨peerToken, -, rfl⟩ := Option.map_eq_some_iff.mp hSent
    exact taken_inventoryUpdatePacket summary
  · have hPacket := hBroadcast _ hState
    unfold ServerTick.matchPackets at hPacket
    split at hPacket
    · rw [List.mem_singleton.mp hPacket]
      exact taken_buildMatchStatePacket _ _
    · cases hPacket
  · split at hSnapshot
    · obtain ⟨session, -, update, -, rfl⟩ := exists_of_mem_zipWith hSnapshot
      refine taken_snapshotPacket _ _ ?_ _ _ update
      rw [appendOutputs_eq]
      exact List.forall_mem_append.mpr ⟨hPending, plain_tickEvents record⟩
    · cases hSnapshot

/-- What a step of the host sends is taken, and what it leaves waiting can be sent. -/
theorem taken_step {s t : ServerHost F} {event : HostEvent F}
    (hPending : PlainEvents s.pendingSnapshotEvents) (hStep : HostStep settings s event t) :
    PlainEvents t.pendingSnapshotEvents ∧ ∀ entry ∈ event.sent, Taken entry.packet := by
  cases hStep with
  | mk event loop hStep =>
      cases event with
      | ticked record =>
          refine ⟨?_, fun entry hEntry => taken_tickPackets hPending record hEntry⟩
          change PlainEvents (if record.frame.snapshotDue then []
            else (record.appendOutputs s.pendingSnapshotEvents).1)
          split
          · exact fun event hEvent => nomatch hEvent
          · rw [appendOutputs_eq]
            exact List.forall_mem_append.mpr ⟨hPending, plain_tickEvents record⟩
      | received asker packet outcome =>
          cases outcome with
          | join result =>
              refine ⟨hPending, fun entry hEntry => ?_⟩
              obtain ⟨sent, hSent, rfl⟩ := List.mem_map.mp hEntry
              unfold OutboundSettings.joinAnswer at hSent
              split at hSent
              · rcases List.mem_pair.mp hSent with rfl | rfl
                · exact taken_joinAccepted result
                · exact taken_buildMatchStatePacket _ _
              · rw [List.mem_singleton.mp hSent]
                exact taken_joinRejected result
          | _ => exact ⟨hPending, fun entry hEntry => nomatch hEntry⟩
      | _ => exact ⟨hPending, fun entry hEntry => nomatch hEntry⟩

/-- In every run, whatever the server sends is taken. -/
theorem taken_run {setup : ServerSetup F} {trace : List (HostEvent F)} {s : ServerHost F}
    (run : Run (HostStep settings) (ServerHost.create setup) trace s) :
    PlainEvents s.pendingSnapshotEvents ∧
      ∀ event ∈ trace, ∀ entry ∈ event.sent, Taken entry.packet := by
  refine run.history (I := fun trace s => PlainEvents s.pendingSnapshotEvents ∧
    ∀ event ∈ trace, ∀ entry ∈ event.sent, Taken entry.packet) ?_
    ⟨fun _ hNone => absurd hNone List.not_mem_nil, fun _ hNone => absurd hNone List.not_mem_nil⟩
  rintro trace s event t ⟨hPending, hBefore⟩ hStep
  obtain ⟨hWaiting, hSent⟩ := taken_step hPending hStep
  refine ⟨hWaiting, fun other hOther => ?_⟩
  rcases List.mem_append.mp hOther with hOld | hNew
  · exact hBefore other hOld
  · rw [List.mem_singleton.mp hNew]
    exact hSent

/-- In every run of the server, each packet that it sends is accepted by the parser of the client,
and no client fails on it, whatever state it is in. -/
theorem client_never_fails {setup : ServerSetup F} {trace : List (HostEvent F)} {s : ServerHost F}
    (run : Run (HostStep settings) (ServerHost.create setup) trace s) {event : HostEvent F}
    (hEvent : event ∈ trace) {entry : SentPacket F} (hEntry : entry ∈ event.sent) :
    carried entry.packet = .ok { entry.packet with payload := arrived entry.packet.payload } ∧
      ∀ (client : ClientLoop F) (clientSettings : ClientSettings) (now : Nat),
        Returns (client.receive clientSettings now entry.packet) := by
  have hTaken := (taken_run run).2 event hEvent entry hEntry
  exact ⟨hTaken.carried, fun client clientSettings now =>
    hTaken.digestible.returns_receive client clientSettings now⟩

open Server.ServerHost (duelSettings welcomed run_welcomed)

/-- A new client takes the answer to its join request. -/
theorem client_never_fails_welcomed :
    ∃ packet : Net.Packet (SingleFloat.Double ℚ), packet.type = .joinAccept ∧
      Returns ((ClientLoop.create {} {}).receive {} 0 packet) := by
  obtain ⟨trace, run, -, hTypes⟩ := run_welcomed
  have hMem : [MessageType.joinAccept, .matchState] ∈
      trace.map fun event => (sentTo 101 event.sent).map Net.Packet.type := by
    rw [hTypes]
    simp
  obtain ⟨event, hEvent, hSent⟩ := List.mem_map.mp hMem
  have hAccept : MessageType.joinAccept ∈ (sentTo 101 event.sent).map Net.Packet.type := by
    rw [hSent]
    simp
  obtain ⟨packet, hPacket, hType⟩ := List.mem_map.mp hAccept
  obtain ⟨entry, hEntry, rfl⟩ := List.mem_map.mp hPacket
  exact ⟨entry.packet, hType,
    (client_never_fails run hEvent (List.mem_of_mem_filter hEntry)).2 _ {} 0⟩

end Packets

end DevyFps.Replication
