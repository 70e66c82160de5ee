import DevyFps.Replication.HitReports
import DevyFps.Server.SnapshotEvents

/-! What a client makes of the reports of phases. A packet with the state of the match and a
change of it in a snapshot lead to one message between them, as long as the client has heard of
no other phase since. -/

namespace DevyFps.Replication

open Foundations Net Client Client.AuthoritativeEventFeed Server

variable {F : Type} [SingleFloat F]

/-- The packets of the server that the feed reads. All of them are sent reliably on one channel,
so that they arrive in the order in which they are sent. -/
inductive FeedPacket (F : Type) [SingleFloat F] where
  | damageEvent (payload : Document F)
  | matchState (payload : Document F)
  | stateSnapshot (payload : Document F)

/-- The messages that a packet leads to. -/
def consumePacket (localPlayerId : Nat) (feed : AuthoritativeEventFeed) :
    FeedPacket F → Except JsonError (List String × AuthoritativeEventFeed)
  | .damageEvent payload => consumeReliable localPlayerId feed payload
  | .matchState payload =>
      (feed.consumeReliableMatchState payload).map fun answer => (answer.1.toList, answer.2)
  | .stateSnapshot payload => feed.consumeSnapshotEvents payload localPlayerId

/-- The messages of packets that arrive one after another. -/
def consumePackets (localPlayerId : Nat) : AuthoritativeEventFeed → List (FeedPacket F) →
    Except JsonError (List String × AuthoritativeEventFeed)
  | feed, [] => .ok ([], feed)
  | feed, packet :: rest => do
      let answer ← consumePacket localPlayerId feed packet
      let later ← consumePackets localPlayerId answer.2 rest
      return (answer.1 ++ later.1, later.2)

/-- The first packets are taken, and then the others. -/
theorem consumePackets_append_iff {localPlayerId : Nat} {feed last : AuthoritativeEventFeed}
    {first second : List (FeedPacket F)} {shown : List String} :
    consumePackets localPlayerId feed (first ++ second) = .ok (shown, last) ↔
      ∃ early late middle, consumePackets localPlayerId feed first = .ok (early, middle) ∧
        consumePackets localPlayerId middle second = .ok (late, last) ∧
        shown = early ++ late := by
  induction first generalizing feed shown with
  | nil =>
      constructor
      · exact fun h => ⟨[], shown, feed, rfl, h, rfl⟩
      · rintro ⟨early, late, middle, hEarly, hLate, rfl⟩
        cases hEarly
        exact hLate
  | cons packet rest ih =>
      rw [List.cons_append, consumePackets, consumePackets]
      constructor
      · intro h
        obtain ⟨answer, hAnswer, hRest⟩ := ok_of_bind h
        obtain ⟨later, hLater, hBoth⟩ := ok_of_bind hRest
        cases hBoth
        obtain ⟨early, late, middle, hEarly, hLate, hShown⟩ := ih.mp hLater
        refine ⟨answer.1 ++ early, late, middle, ?_, hLate, ?_⟩
        · rw [hAnswer, ok_bind, hEarly]
          rfl
        · rw [hShown, List.append_assoc]
      · rintro ⟨early, late, middle, hEarly, hLate, rfl⟩
        obtain ⟨answer, hAnswer, hRest⟩ := ok_of_bind hEarly
        obtain ⟨later, hLater, hBoth⟩ := ok_of_bind hRest
        cases hBoth
        rw [hAnswer, ok_bind, ih.mpr ⟨later.1, late, later.2, hLater, hLate, rfl⟩, List.append_assoc]
        rfl

/-- The message tells of a phase. -/
def isAnnouncement (message : String) : Bool := "Phase: ".toList.isPrefixOf message.toList

def announcements (shown : List String) : List String := shown.filter isAnnouncement

theorem announcements_append (shown shown' : List String) :
    announcements (shown ++ shown') = announcements shown ++ announcements shown' :=
  List.filter_append shown shown'

/-- The message for the phase, with or without the seconds that are left of it. -/
def Announces (message : String) (phase : MatchPhase) : Prop :=
  message = "Phase: " ++ phase.toString ∨
    ∃ seconds : Int, message = "Phase: " ++ phase.toString ++ " (" ++ toString seconds ++ "s)"

/-- What announces a phase is an announcement. -/
theorem Announces.isAnnouncement {message : String} {phase : MatchPhase}
    (h : Announces message phase) : isAnnouncement message = true := by
  unfold Replication.isAnnouncement
  rcases h with rfl | ⟨seconds, rfl⟩
  · rw [String.toList_append]
    rfl
  · rw [String.toList_append, String.toList_append, String.toList_append, String.toList_append]
    rfl

/-- The phases have different texts. -/
theorem toString_inj {phase phase' : MatchPhase} (h : phase.toString = phase'.toString) :
    phase = phase' := by
  cases phase <;> cases phase' <;> first | rfl | exact absurd h (by decide)

/-- A message announces one phase only. -/
theorem Announces.unique {message : String} {phase phase' : MatchPhase}
    (h : Announces message phase) (h' : Announces message phase') : phase = phase' := by
  have hInitials : ∀ {phase : MatchPhase}, Announces message phase →
      (message.toList.drop 7).take 2 = phase.toString.toList.take 2 := by
    rintro phase (rfl | ⟨seconds, rfl⟩)
    · rw [String.toList_append]
      cases phase <;> rfl
    · rw [String.toList_append, String.toList_append, String.toList_append, String.toList_append]
      cases phase <;> rfl
  have hSame := (hInitials h).symm.trans (hInitials h')
  cases phase <;> cases phase' <;> first | rfl | exact absurd hSame (by decide)

/-! Reports of something else. -/

/-- Whether a text is an announcement is read off its letters. -/
theorem isAnnouncement_ofList (letters : List Char) :
    isAnnouncement (String.ofList letters) =
      ['P', 'h', 'a', 's', 'e', ':', ' '].isPrefixOf letters := by
  unfold isAnnouncement
  rw [String.toList_ofList, String.toList_ofList]

/-- No message that starts like this one is an announcement. -/
theorem isAnnouncement_append (start : List Char) (rest : String)
    (h : ∀ tail, ['P', 'h', 'a', 's', 'e', ':', ' '].isPrefixOf (start ++ tail) = false) :
    isAnnouncement (String.ofList start ++ rest) = false := by
  unfold isAnnouncement
  rw [String.toList_append, String.toList_ofList, String.toList_ofList]
  exact h rest.toList

theorem announcements_singleton {message : String} (h : isAnnouncement message = false) :
    announcements [message] = [] := by
  unfold announcements
  rw [List.filter_cons_of_neg (by rw [h]; exact Bool.false_ne_true)]
  rfl

/-- The status line of a hit announces nothing. -/
theorem announcements_damageMessage {payload : Document F}
    {localPlayerId attackerId victimId : Nat} {damage : Int} {message : Option String}
    (h : damageMessage payload localPlayerId attackerId victimId damage = .ok message) :
    announcements message.toList = [] := by
  have hHit : isAnnouncement ("Hit confirmed: " ++ toString damage) = false :=
    isAnnouncement_append _ _ fun _ => rfl
  have hTaken : isAnnouncement ("Damage taken: " ++ toString damage) = false :=
    isAnnouncement_append _ _ fun _ => rfl
  obtain ⟨lethal, -, hText⟩ := ok_of_bind h
  split_ifs at hText <;> cases hText
  · rfl
  · exact announcements_singleton hHit
  · rfl
  · exact announcements_singleton hTaken
  · rfl

/-- Nor does that of a pickup. -/
theorem announcements_pickupStatusMessage {event : Document F} {message : String}
    (h : pickupStatusMessage event = .ok message) : announcements [message] = [] := by
  have hCollected : ∀ rest, announcements ["Pickup collected: " ++ rest] = [] := fun rest =>
    announcements_singleton (isAnnouncement_append _ rest fun _ => rfl)
  have hFailed : ∀ rest, announcements ["Pickup failed: " ++ rest] = [] := fun rest =>
    announcements_singleton (isAnnouncement_append _ rest fun _ => rfl)
  have hFixed : ∀ letters, ['P', 'h', 'a', 's', 'e', ':', ' '].isPrefixOf letters = false →
      announcements [String.ofList letters] = [] := fun letters hLetters =>
    announcements_singleton ((isAnnouncement_ofList letters).trans hLetters)
  obtain ⟨status, -, hStatus⟩ := ok_of_bind h
  rcases ok_of_ite hStatus with hDone | hReason
  · obtain ⟨treasureId, -, hTreasure⟩ := ok_of_bind hDone
    obtain ⟨totalValue, -, hValue⟩ := ok_of_bind hTreasure
    obtain ⟨itemCount, -, hCount⟩ := ok_of_bind hValue
    cases hCount
    simp only [String.append_assoc]
    exact hCollected _
  -- The seven known reasons have texts of their own.
  iterate 7
    rcases ok_of_ite hReason with hText | hReason
    · cases hText
      exact hFixed _ rfl
  cases hReason
  exact hFailed _

/-- A hit does not touch the last phase that was shown. -/
theorem lastMatchState_consumeDamageEvent {feed next : AuthoritativeEventFeed}
    {payload : Document F} {localPlayerId : Nat} {message : Option String}
    (h : feed.consumeDamageEvent payload localPlayerId = .ok (message, next)) :
    announcements message.toList = [] ∧ next.lastMatchState = feed.lastMatchState := by
  rw [consumeDamageEvent_eq] at h
  cases hHit : readHit payload with
  | none =>
      rw [hHit] at h
      cases h
      exact ⟨rfl, rfl⟩
  | some hit =>
      rw [hHit] at h
      cases hSignature : signatureOf payload with
      | none =>
          rw [hSignature] at h
          obtain ⟨text, hText, hAnswer⟩ := ok_of_map h
          cases hAnswer
          exact ⟨announcements_damageMessage hText, rfl⟩
      | some signature =>
          rw [hSignature] at h
          dsimp only at h
          split_ifs at h
          · cases h
            exact ⟨rfl, rfl⟩
          · obtain ⟨text, hText, hAnswer⟩ := ok_of_map h
            cases hAnswer
            exact ⟨announcements_damageMessage hText, rfl⟩

/-- Other events neither announce a phase nor change the one that is known. -/
theorem lastMatchState_of_other {feed next : AuthoritativeEventFeed} {type : String}
    {event : Document F} (hType : type ≠ "match_state_changed") (hObject : event.isObject = true)
    {localPlayerId : Nat} {message : Option String}
    (h : feed.consumeEventOfType type event localPlayerId = .ok (message, next)) :
    announcements message.toList = [] ∧ next.lastMatchState = feed.lastMatchState := by
  unfold consumeEventOfType at h
  simp only [Json.valueJson_of_isObject hObject, ok_bind, jsonToU32_eq] at h
  by_cases hDamage : type = "damage_event"
  · rw [if_pos hDamage] at h
    exact lastMatchState_consumeDamageEvent h
  · rw [if_neg hDamage] at h
    by_cases hDeath : type = "death_event"
    · rw [if_pos hDeath] at h
      split_ifs at h <;> cases h <;> exact ⟨rfl, rfl⟩
    · rw [if_neg hDeath] at h
      by_cases hPickup : type = "treasure_pickup"
      · rw [if_pos hPickup] at h
        split_ifs at h
        · cases h
          exact ⟨rfl, rfl⟩
        · obtain ⟨text, hText, hAnswer⟩ := ok_of_bind h
          cases hAnswer
          exact ⟨announcements_pickupStatusMessage hText, rfl⟩
      · rw [if_neg hPickup] at h
        by_cases hRespawn : type = "respawn_event"
        · rw [if_pos hRespawn] at h
          split_ifs at h <;> cases h <;> exact ⟨rfl, rfl⟩
        · rw [if_neg hRespawn, if_neg hType] at h
          cases h
          exact ⟨rfl, rfl⟩

/-! Reports of a phase. -/

def isPhaseChange (event : Document F) : Bool :=
  decide (eventType event = some "match_state_changed")

/-- A report of the phase. -/
def Carries (payload : Document F) (phase : MatchPhase) : Prop :=
  payload.member "state" = some (.string phase.toString)

/-- What carries a phase is read as it. -/
theorem Carries.state {payload : Document F} {phase : MatchPhase} (h : Carries payload phase) :
    payload.valueAs Json.getString "state" "unknown" = .ok phase.toString := by
  rw [Json.valueAs_of_isObject (Json.isObject_of_member h), h]
  rfl

/-- A phase that is shown already is not announced again. -/
theorem phaseMessage_of_known {feed : AuthoritativeEventFeed} {phase : MatchPhase}
    (hKnown : feed.lastMatchState = phase.toString) (seconds : Option Int) :
    feed.phaseMessage phase.toString seconds = (none, feed) := by
  unfold phaseMessage
  rw [if_pos hKnown.symm]

/-- Another phase is announced, and is then the one that is shown. -/
theorem phaseMessage_of_new {feed : AuthoritativeEventFeed} {phase : MatchPhase}
    (hNew : feed.lastMatchState ≠ phase.toString) (seconds : Option Int) :
    ∃ message, Announces message phase ∧ feed.phaseMessage phase.toString seconds =
      (some message, { feed with lastMatchState := phase.toString }) := by
  unfold phaseMessage
  rw [if_neg (Ne.symm hNew)]
  cases seconds with
  | none => exact ⟨_, Or.inl rfl, rfl⟩
  | some seconds => exact ⟨_, Or.inr ⟨seconds, rfl⟩, rfl⟩

/-- The packet with a phase is taken, and read as far as its message needs it. -/
theorem consumeReliableMatchState_eq {payload : Document F} {phase : MatchPhase}
    (h : Carries payload phase) (feed : AuthoritativeEventFeed) :
    ∃ seconds, feed.consumeReliableMatchState payload =
      .ok (feed.phaseMessage phase.toString seconds) := by
  have hObject : payload.isObject = true := Json.isObject_of_member h
  obtain ⟨seconds, hSeconds⟩ := returns_jsonToFloorSeconds (payload.value "remaining_seconds" .null)
  refine ⟨seconds, ?_⟩
  unfold consumeReliableMatchState
  simp only [hObject, h.state, Json.valueJson_of_isObject hObject, hSeconds, ok_bind, Bool.not_true,
    Bool.false_eq_true, if_false]
  split_ifs with hKnown
  · rw [phaseMessage_of_known hKnown.symm]
    rfl
  · rfl

/-- So is a change to the phase in a snapshot. -/
theorem consumeEventOfType_phase {event : Document F} {phase : MatchPhase}
    (h : Carries event phase) (feed : AuthoritativeEventFeed) (localPlayerId : Nat) :
    ∃ seconds, feed.consumeEventOfType "match_state_changed" event localPlayerId =
      .ok (feed.phaseMessage phase.toString seconds) := by
  have hObject : event.isObject = true := Json.isObject_of_member h
  obtain ⟨seconds, hSeconds⟩ := returns_jsonToFloorSeconds (event.value "remaining_seconds" .null)
  refine ⟨seconds, ?_⟩
  unfold consumeEventOfType
  simp only [h.state, Json.valueJson_of_isObject hObject, hSeconds, ok_bind]
  rfl

/-- A change to the phase that is known already is passed over. -/
theorem consumeSnapshotEvent_known {event : Document F} {feed next : AuthoritativeEventFeed}
    {localPlayerId : Nat} {shown : List String} {phase : MatchPhase}
    (hCarries : isPhaseChange event = true → Carries event phase)
    (hKnown : feed.lastMatchState = phase.toString)
    (h : consumeSnapshotEvent localPlayerId feed event = .ok (shown, next)) :
    announcements shown = [] ∧ next.lastMatchState = phase.toString := by
  unfold consumeSnapshotEvent at h
  cases hType : eventType event with
  | none =>
      rw [consumeEvent_of_no_type hType] at h
      cases h
      exact ⟨rfl, hKnown⟩
  | some type =>
      rw [consumeEvent_of_type hType] at h
      obtain ⟨consumed, hConsumed, hAnswer⟩ := ok_of_map h
      cases hAnswer
      rw [List.nil_append]
      by_cases hPhase : type = "match_state_changed"
      · have hText := hCarries (decide_eq_true (hPhase ▸ hType))
        obtain ⟨seconds, hSeconds⟩ := consumeEventOfType_phase hText feed localPlayerId
        rw [hPhase, hSeconds, phaseMessage_of_known hKnown] at hConsumed
        cases hConsumed
        exact ⟨rfl, hKnown⟩
      · obtain ⟨hNone, hSame⟩ :=
          lastMatchState_of_other hPhase (isObject_of_eventType hType) hConsumed
        exact ⟨hNone, hSame.trans hKnown⟩

/-- A change to another phase than the one that is known leads to a message. -/
theorem consumeSnapshotEvent_new {event : Document F} {feed next : AuthoritativeEventFeed}
    {localPlayerId : Nat} {shown : List String} {phase : MatchPhase}
    (hChange : isPhaseChange event = true) (hCarries : Carries event phase)
    (hNew : feed.lastMatchState ≠ phase.toString)
    (h : consumeSnapshotEvent localPlayerId feed event = .ok (shown, next)) :
    announcements shown ≠ [] := by
  obtain ⟨seconds, hSeconds⟩ := consumeEventOfType_phase hCarries feed localPlayerId
  obtain ⟨message, hAnnounces, hMessage⟩ := phaseMessage_of_new hNew seconds
  unfold consumeSnapshotEvent at h
  rw [consumeEvent_of_type (of_decide_eq_true hChange), hSeconds, hMessage] at h
  cases h
  change announcements [message] ≠ []
  rw [announcements, List.filter_cons_of_pos hAnnounces.isAnnouncement]
  exact List.cons_ne_nil _ _

/-- A snapshot whose changes all are to the phase that is known announces nothing. -/
theorem consumeEach_known {localPlayerId : Nat} {docs : List (Document F)} {phase : MatchPhase}
    (hCarries : ∀ event ∈ docs, isPhaseChange event = true → Carries event phase)
    {feed last : AuthoritativeEventFeed} {answers : List (List String)}
    (hKnown : feed.lastMatchState = phase.toString)
    (h : consumeEach (consumeSnapshotEvent localPlayerId) feed docs = .ok (answers, last)) :
    announcements answers.flatten = [] ∧ last.lastMatchState = phase.toString := by
  induction docs generalizing feed answers with
  | nil =>
      cases h
      exact ⟨rfl, hKnown⟩
  | cons doc docs ih =>
      obtain ⟨answer, later, hDoc, hLater, rfl⟩ := consumeEach_cons h
      obtain ⟨hSilent, hStill⟩ :=
        consumeSnapshotEvent_known (hCarries doc List.mem_cons_self) hKnown hDoc
      obtain ⟨hRest, hLast⟩ :=
        ih (fun event hEvent => hCarries event (List.mem_cons_of_mem doc hEvent)) hStill
          hLater
      rw [List.flatten_cons, announcements_append, hSilent, hRest]
      exact ⟨rfl, hLast⟩

/-- A snapshot with a change to another phase announces something. -/
theorem consumeEach_new {localPlayerId : Nat} {docs : List (Document F)} {phase : MatchPhase}
    (hWaiting : ∀ event ∈ docs, isPhaseChange event = true → ∃ phase, Carries event phase)
    (hOther : ∃ event ∈ docs, isPhaseChange event = true ∧ ¬ Carries event phase)
    {feed last : AuthoritativeEventFeed} {answers : List (List String)}
    (hKnown : feed.lastMatchState = phase.toString)
    (h : consumeEach (consumeSnapshotEvent localPlayerId) feed docs = .ok (answers, last)) :
    announcements answers.flatten ≠ [] := by
  induction docs generalizing feed answers with
  | nil =>
      obtain ⟨event, hEvent, -⟩ := hOther
      cases hEvent
  | cons doc docs ih =>
      obtain ⟨answer, later, hDoc, hLater, rfl⟩ := consumeEach_cons h
      rw [List.flatten_cons, announcements_append]
      intro hNone
      obtain ⟨hFirst, hRest⟩ := List.append_eq_nil_iff.mp hNone
      have hSame : isPhaseChange doc = true → Carries doc phase := by
        intro hChange
        obtain ⟨phase', hCarries⟩ := hWaiting doc List.mem_cons_self hChange
        by_cases hText : feed.lastMatchState = phase'.toString
        · rw [toString_inj (hKnown.symm.trans hText)]
          exact hCarries
        · exact absurd hFirst (consumeSnapshotEvent_new hChange hCarries hText hDoc)
      obtain ⟨-, hStill⟩ := consumeSnapshotEvent_known hSame hKnown hDoc
      refine ih (fun event hEvent => hWaiting event (List.mem_cons_of_mem doc hEvent)) ?_
        hStill hLater hRest
      obtain ⟨event, hEvent, hChange, hNot⟩ := hOther
      rcases List.mem_cons.mp hEvent with rfl | hTail
      · exact absurd (hSame hChange) hNot
      · exact ⟨event, hTail, hChange, hNot⟩

/-! The events that the server makes: all of them can be read. -/

/-- An event that a client can take, whatever it remembers. -/
def Readable (localPlayerId : Nat) (event : Document F) : Prop :=
  ∀ known, ReadableEvent localPlayerId known event

/-- An event can be read if the fields that its kind asks for are there. -/
theorem readable_of_type {localPlayerId : Nat} {event : Document F} (type : String)
    (hType : eventType event = some type)
    (hDamage : type = "damage_event" → FlagIfPresent event "lethal")
    (hPickup : type = "treasure_pickup" → ReadablePickup event)
    (hPhase : type = "match_state_changed" → TextIfPresent event "state") :
    Readable localPlayerId event := fun _ =>
  (readableEvent_iff hType).mpr
    ⟨fun hSame _ _ => hDamage hSame, fun hSame _ => hPickup hSame, hPhase⟩

/-- An event of none of the three types whose fields are converted. -/
theorem readable_of_plain {localPlayerId : Nat} {event : Document F} (type : String)
    (hType : eventType event = some type) (hDamage : type ≠ "damage_event")
    (hPickup : type ≠ "treasure_pickup") (hPhase : type ≠ "match_state_changed") :
    Readable localPlayerId event :=
  readable_of_type type hType (fun hSame => absurd hSame hDamage) (fun hSame => absurd hSame hPickup)
    fun hSame => absurd hSame hPhase

theorem flag_of_member {payload : Document F} {field : String} {flag : Bool}
    (h : payload.member field = some (.boolean flag)) : FlagIfPresent payload field := by
  intro value hValue
  rw [h] at hValue
  cases hValue
  rfl

theorem text_of_member {payload : Document F} {field text : String}
    (h : payload.member field = some (.string text)) : TextIfPresent payload field := by
  intro value hValue
  rw [h] at hValue
  cases hValue
  rfl

/-- Each kind of event that the server builds can be read. -/
theorem readable_damage (localPlayerId : Nat) (event : DamageResolution) :
    Readable localPlayerId (damageToSnapshotEvent event : Document F) :=
  readable_of_type "damage_event" rfl (fun _ => flag_of_member rfl)
    (fun hOther => absurd hOther (by decide)) fun hOther => absurd hOther (by decide)

theorem readable_pickup (localPlayerId tick : Nat) (pickup : TreasurePickupResolution) :
    Readable localPlayerId (pickupToSnapshotEvent tick pickup : Document F) := by
  refine readable_of_type "treasure_pickup" rfl (fun hOther => absurd hOther (by decide))
    (fun _ => ⟨text_of_member rfl, fun _ => ⟨text_of_member rfl, ?_, ?_⟩⟩)
    fun hOther => absurd hOther (by decide)
  · intro value hValue
    cases hValue
    exact Or.inl rfl
  · intro value hValue
    cases hValue
    exact Or.inl rfl

/-- The event of a changed state carries its phase. -/
theorem carries_stateEvent (tick : Nat) (state : MatchLifecycleState) :
    Carries (stateEvent tick state : Document F) state.phase := rfl

/-- So does the packet of a match state. -/
theorem carries_matchStatePacket (state : MatchLifecycleState)
    (scoreboard : List MatchScoreEntry) :
    Carries (buildMatchStatePacket state scoreboard : Net.Packet (SingleFloat.Double F)).payload
      state.phase := rfl

/-- What waits for a snapshot after a tick, event by event. -/
theorem mem_appendOutputs {record : ServerTick F} {pending : List (Document F)}
    {event : Document F} (h : event ∈ (record.appendOutputs pending).1) :
    event ∈ pending ∨ event = stateEvent record.frame.tick record.lifecycle.state ∨
      isPhaseChange event = false ∧ ∀ localPlayerId, Readable localPlayerId event := by
  unfold ServerTick.appendOutputs appendCombatOutputs ServerTick.matchEvents
    ServerTick.lootEvents at h
  simp only [List.mem_append, List.mem_map] at h
  rcases h with (((hPending | ⟨playerId, -, rfl⟩ | hState) | ⟨hit, -, rfl⟩) | ⟨death, -, rfl⟩) |
    ⟨spawn, -, rfl⟩ | ⟨pickup, -, rfl⟩
  · exact Or.inl hPending
  · exact Or.inr (Or.inr ⟨rfl, fun _ => readable_of_plain "respawn_event" rfl
      (by decide) (by decide) (by decide)⟩)
  · split at hState
    · exact Or.inr (Or.inl (List.mem_singleton.mp hState))
    · cases hState
  · exact Or.inr (Or.inr ⟨rfl, fun localPlayerId => readable_damage localPlayerId hit⟩)
  · exact Or.inr (Or.inr ⟨rfl, fun _ => readable_of_plain "death_event" rfl
      (by decide) (by decide) (by decide)⟩)
  · exact Or.inr (Or.inr ⟨rfl, fun _ => readable_of_plain "treasure_spawned" rfl
      (by decide) (by decide) (by decide)⟩)
  · exact Or.inr (Or.inr ⟨rfl, fun localPlayerId => readable_pickup localPlayerId _ pickup⟩)

/-- The events that wait after a tick can all be read. -/
theorem readable_appendOutputs {localPlayerId : Nat} {record : ServerTick F}
    {pending : List (Document F)} (hPending : ∀ event ∈ pending, Readable localPlayerId event) :
    ∀ event ∈ (record.appendOutputs pending).1, Readable localPlayerId event := by
  intro event hEvent
  rcases mem_appendOutputs hEvent with hOld | rfl | ⟨-, hReadable⟩
  · exact hPending event hOld
  · exact readable_of_type "match_state_changed" rfl
      (fun hOther => absurd hOther (by decide)) (fun hOther => absurd hOther (by decide))
      fun _ => text_of_member rfl
  · exact hReadable localPlayerId

/-- Each change of the state that waits carries a phase. -/
theorem waiting_appendOutputs {record : ServerTick F} {pending : List (Document F)}
    (hPending : ∀ event ∈ pending, isPhaseChange event = true → ∃ phase, Carries event phase) :
    ∀ event ∈ (record.appendOutputs pending).1, isPhaseChange event = true →
      ∃ phase, Carries event phase := by
  intro event hEvent hChange
  rcases mem_appendOutputs hEvent with hOld | rfl | ⟨hOther, -⟩
  · exact hPending event hOld hChange
  · exact ⟨_, carries_stateEvent _ _⟩
  · rw [hOther] at hChange
    cases hChange

/-- What waited before a tick still waits. -/
theorem mem_appendOutputs_of_pending {record : ServerTick F} {pending : List (Document F)}
    {event : Document F} (h : event ∈ pending) : event ∈ (record.appendOutputs pending).1 := by
  unfold ServerTick.appendOutputs appendCombatOutputs
  simp only [List.mem_append]
  exact Or.inl (Or.inl (Or.inl (Or.inl h)))

/-- If all changes that waited carry the phase of the tick, those after it do. -/
theorem carries_appendOutputs {record : ServerTick F} {pending : List (Document F)}
    (hPending : ∀ event ∈ pending, isPhaseChange event = true →
      Carries event record.lifecycle.state.phase) :
    ∀ event ∈ (record.appendOutputs pending).1, isPhaseChange event = true →
      Carries event record.lifecycle.state.phase := by
  intro event hEvent hChange
  rcases mem_appendOutputs hEvent with hOld | rfl | ⟨hOther, -⟩
  · exact hPending event hOld hChange
  · exact carries_stateEvent _ _
  · rw [hOther] at hChange
    cases hChange

end DevyFps.Replication
