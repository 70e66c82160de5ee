import DevyFps.Client.EventReading
import DevyFps.Foundations.RecentMemory
import DevyFps.Server.CombatEvents

/-! What a client makes of the reports of hits, one by one and in the order of a tick or of a
snapshot: a message for each hit that is new to it and concerns its player. -/

namespace DevyFps.Replication

open Foundations RecentMemory Net Client Client.AuthoritativeEventFeed Server

variable {F : Type} [SingleFloat F]

/-- What a client remembers a hit by. -/
def signature (event : DamageResolution) : DamageSignature where
  tick := event.tick
  attackerId := event.attackerId
  victimId := event.victimId
  shotSeq := event.shotSeq

def Involves (localPlayerId : Nat) (hit : DamageSignature) : Prop :=
  hit.attackerId = localPlayerId ∨ hit.victimId = localPlayerId

instance (localPlayerId : Nat) : DecidablePred (Involves localPlayerId) :=
  fun _ => inferInstanceAs (Decidable (_ ∨ _))

/-- Payloads consumed one after another, with the messages that each of them leads to. -/
def consumeEach (consume : AuthoritativeEventFeed → Document F →
      Except JsonError (List String × AuthoritativeEventFeed)) :
    AuthoritativeEventFeed → List (Document F) →
      Except JsonError (List (List String) × AuthoritativeEventFeed)
  | feed, [] => .ok ([], feed)
  | feed, payload :: rest => do
      let answer ← consume feed payload
      let later ← consumeEach consume answer.2 rest
      return (answer.1 :: later.1, later.2)

/-- The first payload is taken, and then the others. -/
theorem consumeEach_cons {consume : AuthoritativeEventFeed → Document F →
      Except JsonError (List String × AuthoritativeEventFeed)}
    {feed last : AuthoritativeEventFeed} {payload : Document F} {rest : List (Document F)}
    {answers : List (List String)}
    (h : consumeEach consume feed (payload :: rest) = .ok (answers, last)) :
    ∃ answer later, consume feed payload = .ok answer ∧
      consumeEach consume answer.2 rest = .ok (later, last) ∧ answers = answer.1 :: later := by
  rw [consumeEach] at h
  obtain ⟨answer, hAnswer, hRest⟩ := ok_of_bind h
  obtain ⟨later, hLater, hBoth⟩ := ok_of_bind hRest
  cases hBoth
  exact ⟨answer, later.1, hAnswer, hLater, rfl⟩

def consumeReliable (localPlayerId : Nat) (feed : AuthoritativeEventFeed) (payload : Document F) :
    Except JsonError (List String × AuthoritativeEventFeed) :=
  (feed.consumeReliableDamageEvent payload localPlayerId).map fun answer =>
    (answer.1.toList, answer.2)

def consumeSnapshotEvent (localPlayerId : Nat) (feed : AuthoritativeEventFeed)
    (event : Document F) : Except JsonError (List String × AuthoritativeEventFeed) :=
  consumeEvent localPlayerId ([], feed) event

/-- The messages of one event do not depend on those before it. -/
theorem consumeEvent_eq_append (localPlayerId : Nat) (shown : List String)
    (feed : AuthoritativeEventFeed) (event : Document F) :
    consumeEvent localPlayerId (shown, feed) event =
      (consumeSnapshotEvent localPlayerId feed event).map fun answer =>
        (shown ++ answer.1, answer.2) := by
  unfold consumeSnapshotEvent
  cases hType : eventType event with
  | none =>
      rw [consumeEvent_of_no_type hType, consumeEvent_of_no_type hType]
      exact congrArg Except.ok (congrArg (·, feed) (List.append_nil shown).symm)
  | some type =>
      rw [consumeEvent_of_type hType, consumeEvent_of_type hType]
      cases feed.consumeEventOfType type event localPlayerId <;> rfl

/-- The messages of a snapshot are those of its events. -/
theorem consumeSnapshotEvents_eq (feed : AuthoritativeEventFeed) (payload : Document F)
    (localPlayerId : Nat) :
    feed.consumeSnapshotEvents payload localPlayerId =
      (consumeEach (consumeSnapshotEvent localPlayerId) feed (snapshotEvents payload)).map
        fun answers => (answers.1.flatten, answers.2) := by
  have hLoop : ∀ (events : List (Document F)) (shown : List String)
      (feed : AuthoritativeEventFeed),
      events.foldlM (consumeEvent localPlayerId) (shown, feed) =
        (consumeEach (consumeSnapshotEvent localPlayerId) feed events).map fun answers =>
          (shown ++ answers.1.flatten, answers.2) := by
    intro events
    induction events with
    | nil => exact fun shown feed =>
        congrArg Except.ok (congrArg (·, feed) (List.append_nil shown).symm)
    | cons event rest ih =>
        intro shown feed
        rw [List.foldlM_cons, consumeEvent_eq_append]
        unfold consumeEach
        cases consumeSnapshotEvent localPlayerId feed event with
        | error e => rfl
        | ok answer =>
            refine (ih (shown ++ answer.1) answer.2).trans ?_
            rw [ok_bind]
            cases consumeEach (consumeSnapshotEvent localPlayerId) answer.2 rest with
            | error e => rfl
            | ok later =>
                refine congrArg Except.ok (congrArg (·, later.2) ?_)
                rw [List.flatten_cons, List.append_assoc]
  unfold consumeSnapshotEvents snapshotEvents Json.contains Json.value
  cases hMember : payload.member "events" with
  | none => cases payload.isObject <;> rfl
  | some events =>
      rw [Json.isObject_of_member hMember, Json.index_of_member hMember]
      cases events with
      | array values => exact hLoop values [] feed
      | _ => rfl

def isHit (event : Document F) : Bool := decide (eventType event = some "damage_event")

/-- The hits that messages were shown for, once for each message. -/
def shownHits (isHit : Document F → Bool) (payloads : List (Document F))
    (answers : List (List String)) : List DamageSignature :=
  (payloads.zip answers).flatMap fun told =>
    if isHit told.1 then told.2.flatMap fun _ => (signatureOf told.1).toList else []

/-! One report of a hit. -/

/-- A payload that reports a hit. -/
structure Reports (payload : Document F) (event : DamageResolution) : Prop where
  hit : readHit payload = some (event.attackerId, event.victimId, event.damage)
  signature : signatureOf payload = some (signature event)
  lethal : payload.member "lethal" = some (.boolean event.lethal)

/-- A document with the fields of a hit reports it, as long as they fit their readers. -/
theorem reports_of_members {payload : Document F} {event : DamageResolution} (h : event.Fits)
    (hAttacker : payload.value "attacker_id" .null = ofUnsigned event.attackerId)
    (hVictim : payload.value "victim_id" .null = ofUnsigned event.victimId)
    (hDamage : payload.value "damage" .null = ofSigned event.damage)
    (hShot : payload.value "shot_seq" .null = ofUnsigned event.shotSeq)
    (hTick : payload.value "tick" .null = ofUnsigned event.tick)
    (hLethal : payload.member "lethal" = some (.boolean event.lethal)) :
    Reports payload event := by
  have hHit : readHit payload = some (event.attackerId, event.victimId, event.damage) := by
    unfold readHit
    rw [hAttacker, hVictim, hDamage, readU32_ofUnsigned h.attackerId,
      readU32_ofUnsigned h.victimId, readI32_ofSigned h.damage]
    rfl
  refine ⟨hHit, ?_, hLethal⟩
  unfold signatureOf
  rw [hHit, hShot, hTick, readU32_ofUnsigned h.shotSeq, readU64_ofUnsigned h.tick]
  rfl

/-- A hit is reported by its packet and by its event alike. -/
theorem reports_packet {event : DamageResolution} (h : event.Fits) :
    Reports (toDamagePacket event : Packet (SingleFloat.Double F)).payload event :=
  reports_of_members h rfl rfl rfl rfl rfl rfl

theorem reports_snapshotEvent {event : DamageResolution} (h : event.Fits) :
    Reports (damageToSnapshotEvent event : Document F) event :=
  reports_of_members h rfl rfl rfl rfl rfl rfl

/-- Among the events of a snapshot the hits are told by their type. -/
theorem isHit_damageToSnapshotEvent (event : DamageResolution) :
    isHit (damageToSnapshotEvent event : Document F) = true :=
  decide_eq_true rfl

theorem filter_isHit_damage (events : List DamageResolution) :
    (events.map damageToSnapshotEvent : List (Document F)).filter isHit =
      events.map damageToSnapshotEvent := by
  refine List.filter_eq_self.mpr fun doc hDoc => ?_
  obtain ⟨event, -, rfl⟩ := List.mem_map.mp hDoc
  exact isHit_damageToSnapshotEvent event

theorem isHit_deathToSnapshotEvent (event : DeathResolution) :
    isHit (deathToSnapshotEvent event : Document F) = false := by
  refine decide_eq_false fun h => ?_
  exact absurd (Option.some.inj h) (by decide)

/-- The messages that a new or an old hit leads to. -/
def shownFor (localPlayerId : Nat) (known : List DamageSignature) (hit : DamageSignature) :
    List DamageSignature :=
  (if hit ∈ known then [] else [hit]).filter fun hit => Involves localPlayerId hit

/-- A hit that is remembered is not shown again. -/
theorem shownFor_of_known (localPlayerId : Nat) {known : List DamageSignature}
    {hit : DamageSignature} (h : hit ∈ known) : shownFor localPlayerId known hit = [] := by
  unfold shownFor
  rw [if_pos h]
  rfl

/-- A new one is shown to the two players that it involves. -/
theorem shownFor_of_new (localPlayerId : Nat) {known : List DamageSignature}
    {hit : DamageSignature} (h : hit ∉ known) :
    shownFor localPlayerId known hit = if Involves localPlayerId hit then [hit] else [] := by
  unfold shownFor
  rw [if_neg h, List.filter_singleton]
  simp

/-- A feed that has heard of some hits. -/
def noted (feed : AuthoritativeEventFeed) (hits : List DamageSignature) : AuthoritativeEventFeed :=
  { feed with
    recentDamageSignatures := noteAll kMaxDamageSignatures feed.recentDamageSignatures hits }

/-- A report is answered by a message if the hit is new and concerns the player. -/
theorem consumeDamageEvent_report {payload : Document F} {event : DamageResolution}
    (h : Reports payload event) (feed : AuthoritativeEventFeed) (localPlayerId : Nat) :
    ∃ message, feed.consumeDamageEvent payload localPlayerId =
        .ok (message, noted feed [signature event]) ∧
      (message.toList.flatMap fun _ => (signatureOf payload).toList) =
        shownFor localPlayerId feed.recentDamageSignatures (signature event) := by
  have hObject : payload.isObject = true := Json.isObject_of_member h.lethal
  have hLethal : payload.valueAs Json.getBool "lethal" false = .ok event.lethal := by
    rw [Json.valueAs_of_isObject hObject, h.lethal]
    rfl
  rw [consumeDamageEvent_eq, h.hit, h.signature]
  dsimp only
  unfold noted noteAll
  rw [List.foldl_cons, List.foldl_nil]
  unfold note
  by_cases hKnown : signature event ∈ feed.recentDamageSignatures
  · rw [if_pos hKnown, if_pos hKnown, shownFor_of_known localPlayerId hKnown]
    exact ⟨none, rfl, rfl⟩
  · rw [if_neg hKnown, if_neg hKnown, shownFor_of_new localPlayerId hKnown]
    unfold damageMessage
    rw [hLethal, ok_bind]
    by_cases hShooter : event.attackerId = localPlayerId ∧ event.victimId ≠ localPlayerId
    · have hInvolved : Involves localPlayerId (signature event) := Or.inl hShooter.1
      rw [if_pos hShooter, if_pos hInvolved]
      exact ⟨_, rfl, rfl⟩
    · rw [if_neg hShooter]
      by_cases hVictim : event.victimId = localPlayerId
      · have hInvolved : Involves localPlayerId (signature event) := Or.inr hVictim
        rw [if_pos hVictim, if_pos hInvolved]
        exact ⟨_, rfl, rfl⟩
      · have hOther : ¬ Involves localPlayerId (signature event) := by
          rintro (hAttacker | hSame)
          · exact hShooter ⟨hAttacker, hVictim⟩
          · exact hVictim hSame
        rw [if_neg hVictim, if_neg hOther]
        exact ⟨none, rfl, rfl⟩

/-! All reports of a tick, and all events of a snapshot. -/

def freshFor (localPlayerId : Nat) (known hits : List DamageSignature) : List DamageSignature :=
  (fresh kMaxDamageSignatures known hits).filter fun hit => Involves localPlayerId hit

/-- The hits that are shown, the first one taken out. -/
theorem freshFor_cons (localPlayerId : Nat) (known : List DamageSignature) (hit : DamageSignature)
    (rest : List DamageSignature) :
    freshFor localPlayerId known (hit :: rest) =
      shownFor localPlayerId known hit ++
        freshFor localPlayerId (note kMaxDamageSignatures known hit) rest :=
  List.filter_append _ _

/-- The reliable packets of some hits are read one by one; by induction on the hits. -/
theorem consumeEach_reliable (localPlayerId : Nat) {events : List DamageResolution}
    (hFits : ∀ event ∈ events, event.Fits) (feed : AuthoritativeEventFeed) :
    ∃ answers, consumeEach (consumeReliable localPlayerId) feed
        ((events.map toDamagePacket).map Packet.payload : List (Document F)) =
          .ok (answers, noted feed (events.map signature)) ∧
      shownHits (fun _ => true)
          ((events.map toDamagePacket).map Packet.payload : List (Document F)) answers =
        freshFor localPlayerId feed.recentDamageSignatures (events.map signature) := by
  induction events generalizing feed with
  | nil => exact ⟨[], rfl, rfl⟩
  | cons event rest ih =>
      have hReport := reports_packet (F := F) (hFits event List.mem_cons_self)
      obtain ⟨message, hMessage, hShown⟩ := consumeDamageEvent_report hReport feed localPlayerId
      obtain ⟨answers, hRest, hLater⟩ := ih
        (fun other hOther => hFits other (List.mem_cons_of_mem event hOther))
        (noted feed [signature event])
      refine ⟨message.toList :: answers, ?_, ?_⟩
      · rw [List.map_cons, List.map_cons, consumeEach, consumeReliable, consumeReliableDamageEvent,
          hMessage]
        change (consumeEach (consumeReliable localPlayerId) _ _ >>= _) = _
        rw [hRest]
        rfl
      · change _ = freshFor localPlayerId _ (signature event :: rest.map signature)
        rw [freshFor_cons, ← hShown]
        exact congrArg (_ ++ ·) hLater

/-- Other events of a snapshot leave the memory alone. -/
theorem known_of_other {event : Document F} (hOther : isHit event = false) {localPlayerId : Nat}
    {feed next : AuthoritativeEventFeed} {messages : List String}
    (h : consumeSnapshotEvent localPlayerId feed event = .ok (messages, next)) :
    next.recentDamageSignatures = feed.recentDamageSignatures := by
  have hKnown := (consumeEvent_spec localPlayerId ([], feed) event).2 _ h
  rw [hKnown]
  exact if_neg (of_decide_eq_false hOther)

/-- The event of a hit is read as its packet would be. -/
theorem consumeSnapshotEvent_damage {event : DamageResolution} (hFits : event.Fits)
    (feed : AuthoritativeEventFeed) (localPlayerId : Nat) :
    ∃ message : Option String,
      consumeSnapshotEvent localPlayerId feed (damageToSnapshotEvent event : Document F) =
        .ok (message.toList, noted feed [signature event]) ∧
      (message.toList.flatMap fun _ =>
          (signatureOf (damageToSnapshotEvent event : Document F)).toList) =
        shownFor localPlayerId feed.recentDamageSignatures (signature event) := by
  obtain ⟨message, hMessage, hShown⟩ :=
    consumeDamageEvent_report (reports_snapshotEvent (F := F) hFits) feed localPlayerId
  refine ⟨message, ?_, hShown⟩
  have hType : eventType (damageToSnapshotEvent event : Document F) = some "damage_event" := rfl
  unfold consumeSnapshotEvent
  rw [consumeEvent_of_type hType]
  unfold consumeEventOfType
  rw [if_pos rfl, hMessage]
  rfl

/-- Hits alone are always taken. -/
theorem consumeEach_damage (localPlayerId : Nat) {events : List DamageResolution}
    (hFits : ∀ event ∈ events, event.Fits) (feed : AuthoritativeEventFeed) :
    ∃ answers, consumeEach (consumeSnapshotEvent localPlayerId) feed
        (events.map damageToSnapshotEvent : List (Document F)) = .ok answers := by
  induction events generalizing feed with
  | nil => exact ⟨([], feed), rfl⟩
  | cons event rest ih =>
      obtain ⟨message, hMessage, -⟩ := consumeSnapshotEvent_damage (F := F)
        (hFits event List.mem_cons_self) feed localPlayerId
      obtain ⟨answers, hRest⟩ := ih
        (fun other hOther => hFits other (List.mem_cons_of_mem event hOther))
        (noted feed [signature event])
      refine ⟨(message.toList :: answers.1, answers.2), ?_⟩
      rw [List.map_cons, consumeEach, hMessage, ok_bind, hRest]
      rfl

/-- The events of a snapshot that are hits are told in their order. -/
theorem consumeEach_snapshot {localPlayerId : Nat} {docs : List (Document F)}
    {events : List DamageResolution} (hDocs : docs.filter isHit = events.map damageToSnapshotEvent)
    (hFits : ∀ event ∈ events, event.Fits) {feed last : AuthoritativeEventFeed}
    {answers : List (List String)}
    (h : consumeEach (consumeSnapshotEvent localPlayerId) feed docs = .ok (answers, last)) :
    last.recentDamageSignatures = noteAll kMaxDamageSignatures feed.recentDamageSignatures
        (events.map signature) ∧
      shownHits isHit docs answers =
        freshFor localPlayerId feed.recentDamageSignatures (events.map signature) := by
  induction docs generalizing events feed answers with
  | nil =>
      cases events with
      | nil =>
          cases h
          exact ⟨rfl, rfl⟩
      | cons event rest => cases hDocs
  | cons doc docs ih =>
      obtain ⟨answer, later, hDoc, hLater, rfl⟩ := consumeEach_cons h
      cases hHit : isHit doc with
      | false =>
          rw [List.filter_cons_of_neg (by rw [hHit]; exact Bool.false_ne_true)] at hDocs
          obtain ⟨hKnown, hShown⟩ := ih hDocs hFits hLater
          have hSame := known_of_other hHit hDoc
          rw [hSame] at hKnown hShown
          refine ⟨hKnown, ?_⟩
          rw [← hShown]
          unfold shownHits
          rw [List.zip_cons_cons, List.flatMap_cons, hHit]
          rfl
      | true =>
          rw [List.filter_cons_of_pos hHit] at hDocs
          cases events with
          | nil => cases hDocs
          | cons event rest =>
              obtain ⟨rfl, hRest⟩ := List.cons.inj hDocs
              obtain ⟨message, hMessage, hFirst⟩ := consumeSnapshotEvent_damage (F := F)
                (hFits event List.mem_cons_self) feed localPlayerId
              rw [hMessage] at hDoc
              cases hDoc
              obtain ⟨hKnown, hShown⟩ := ih hRest
                (fun other hOther => hFits other (List.mem_cons_of_mem event hOther)) hLater
              refine ⟨hKnown, ?_⟩
              rw [List.map_cons, freshFor_cons, ← hFirst]
              unfold shownHits
              rw [List.zip_cons_cons, List.flatMap_cons, hHit, if_pos rfl]
              exact congrArg (_ ++ ·) hShown

end DevyFps.Replication
