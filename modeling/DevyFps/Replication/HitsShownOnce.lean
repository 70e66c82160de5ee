import DevyFps.Foundations.Run
import DevyFps.Replication.HitReports

/-! A hit on its way to the player's screen. The client hears of it twice, and shows it once
as long as it has not forgotten the first report when the second one comes. -/

namespace DevyFps.Replication

open Foundations RecentMemory Net Client Client.AuthoritativeEventFeed Server

variable {F : Type} [SingleFloat F]

/-- The server's hits since its last snapshot, and a client that hears all of them. -/
structure HitRelay (F : Type) [SingleFloat F] where
  nextTick : Nat := 0
  hits : List DamageResolution := []
  pendingSnapshotEvents : List (Document F) := []
  feed : AuthoritativeEventFeed := {}

/-- The hits of a label are those since the last snapshot, the new ones included. -/
inductive RelayEvent where
  | ticked (hits : List DamageResolution) (shown : List DamageSignature)
  | snapshot (shown : List DamageSignature)

def RelayEvent.shown : RelayEvent → List DamageSignature
  | ticked _ shown => shown
  | snapshot shown => shown

/-- The messages about hits in a run. -/
def shownIn (trace : List RelayEvent) : List DamageSignature := trace.flatMap RelayEvent.shown

/-- A tick tells its hits at once, among other pending events of any kind; a snapshot tells the
pending events, the hits for the second time. -/
inductive RelayStep (localPlayerId : Nat) : HitRelay F → RelayEvent → HitRelay F → Prop where
  | tick (s : HitRelay F) (tick : Nat) (result : CombatTickResult)
      (before after : List (Document F)) (answers : List (List String))
      (feed : AuthoritativeEventFeed) (hLater : s.nextTick ≤ tick)
      (hStamped : ∀ event ∈ result.damageEvents, event.tick = tick ∧ event.Fits)
      (hOthers : ∀ event ∈ before ++ after, isHit event = false)
      (hConsumed : consumeEach (consumeReliable localPlayerId) s.feed
        ((appendCombatOutputs result (s.pendingSnapshotEvents ++ before)).2.map Packet.payload) =
          .ok (answers, feed)) :
      RelayStep localPlayerId s
        (.ticked (s.hits ++ result.damageEvents)
          (shownHits (fun _ => true)
            ((appendCombatOutputs result (s.pendingSnapshotEvents ++ before)).2.map
              Packet.payload) answers))
        { nextTick := tick + 1
          hits := s.hits ++ result.damageEvents
          pendingSnapshotEvents :=
            (appendCombatOutputs result (s.pendingSnapshotEvents ++ before)).1 ++ after
          feed }
  | snapshot (s : HitRelay F) (payload : Document F) (answers : List (List String))
      (feed : AuthoritativeEventFeed)
      (hEvents : payload.member "events" = some (.array s.pendingSnapshotEvents))
      (hConsumed : consumeEach (consumeSnapshotEvent localPlayerId) s.feed
        (snapshotEvents payload) = .ok (answers, feed)) :
      RelayStep localPlayerId s (.snapshot (shownHits isHit (snapshotEvents payload) answers))
        { s with hits := [], pendingSnapshotEvents := [], feed }

/-- The hits since the last snapshot fit into the memory of a client, or none of them is one
that it shows. -/
def Remembered (localPlayerId : Nat) (hits : List DamageResolution) : Prop :=
  (hits.map signature).toFinset.card ≤ kMaxDamageSignatures ∨
    ∀ event ∈ hits, ¬ Involves localPlayerId (signature event)

def RelayEvent.Remembered (localPlayerId : Nat) : RelayEvent → Prop
  | ticked hits _ => Replication.Remembered localPlayerId hits
  | snapshot _ => True

/-- Between two reports of a hit: the client has heard of all hits up to the last tick, and
retains those since the last snapshot where they fit into its memory. -/
structure Balanced (localPlayerId : Nat) (shown : List DamageSignature) (s : HitRelay F) :
    Prop where
  hits : ∀ event ∈ s.hits, event.tick < s.nextTick ∧ event.Fits
  pending : s.pendingSnapshotEvents.filter isHit = s.hits.map damageToSnapshotEvent
  size : s.feed.recentDamageSignatures.length ≤ kMaxDamageSignatures
  known : ∀ hit ∈ s.feed.recentDamageSignatures, hit.tick < s.nextTick
  retains : (s.hits.map signature).toFinset.card ≤ kMaxDamageSignatures →
    Retains s.feed.recentDamageSignatures (s.hits.map signature)
  shownBefore : ∀ hit ∈ shown, hit.tick < s.nextTick
  shownOnce : shown.Nodup

theorem balanced_start (localPlayerId : Nat) : Balanced localPlayerId [] ({} : HitRelay F) where
  hits event hEvent := by cases hEvent
  pending := rfl
  size := Nat.zero_le _
  known hit hHit := by cases hHit
  retains _ := retains_nil []
  shownBefore hit hHit := by cases hHit
  shownOnce := List.nodup_nil

theorem tick_of_mem_map {events : List DamageResolution} {n : Nat}
    (h : ∀ event ∈ events, event.tick = n) : ∀ hit ∈ events.map signature, hit.tick = n := by
  intro hit hHit
  obtain ⟨event, hEvent, rfl⟩ := List.mem_map.mp hHit
  exact h event hEvent

theorem mem_freshFor {localPlayerId : Nat} {known hits : List DamageSignature}
    {hit : DamageSignature} (h : hit ∈ freshFor localPlayerId known hits) :
    hit ∈ hits ∧ Involves localPlayerId hit := by
  obtain ⟨hFresh, hInvolved⟩ := List.mem_filter.mp h
  exact ⟨mem_of_mem_fresh hFresh, of_decide_eq_true hInvolved⟩

theorem freshFor_of_uninvolved {localPlayerId : Nat} {events : List DamageResolution}
    (h : ∀ event ∈ events, ¬ Involves localPlayerId (signature event))
    (known : List DamageSignature) : freshFor localPlayerId known (events.map signature) = [] := by
  refine List.eq_nil_iff_forall_not_mem.mpr fun hit hHit => ?_
  obtain ⟨hMem, hInvolved⟩ := mem_freshFor hHit
  obtain ⟨event, hEvent, rfl⟩ := List.mem_map.mp hMem
  exact h event hEvent hInvolved

/-- The first reports of a tick: hits of a new tick are in nobody's memory. -/
theorem Balanced.tick {localPlayerId : Nat} {shown : List DamageSignature} {s : HitRelay F}
    (h : Balanced localPlayerId shown s) {tick : Nat} {events : List DamageResolution}
    (deaths : List DeathResolution) {before after : List (Document F)}
    (hLater : s.nextTick ≤ tick)
    (hStamped : ∀ event ∈ events, event.tick = tick ∧ event.Fits)
    (hOthers : ∀ event ∈ before ++ after, isHit event = false)
    (hRemembered : Remembered localPlayerId (s.hits ++ events)) :
    Balanced localPlayerId
      (shown ++ freshFor localPlayerId s.feed.recentDamageSignatures (events.map signature))
      { nextTick := tick + 1
        hits := s.hits ++ events
        pendingSnapshotEvents :=
          (appendCombatOutputs ⟨events, deaths⟩ (s.pendingSnapshotEvents ++ before)).1 ++ after
        feed := noted s.feed (events.map signature) } := by
  have hTicks := tick_of_mem_map fun event hEvent => (hStamped event hEvent).1
  have hUnknown : ∀ hit ∈ events.map signature, hit ∉ s.feed.recentDamageSignatures := by
    intro hit hHit hKnown
    have hTick := hTicks hit hHit
    have hOld := h.known hit hKnown
    omega
  have hRetained : ((s.hits ++ events).map signature).toFinset.card ≤ kMaxDamageSignatures →
      Retains (noteAll kMaxDamageSignatures s.feed.recentDamageSignatures (events.map signature))
        (s.hits.map signature ++ events.map signature) ∧
      (fresh kMaxDamageSignatures s.feed.recentDamageSignatures
        (events.map signature)).Nodup := by
    intro hRoom
    rw [List.map_append] at hRoom
    have hFirst : (s.hits.map signature).toFinset.card ≤ kMaxDamageSignatures := by
      refine (Finset.card_le_card fun hit hHit => ?_).trans hRoom
      rw [List.mem_toFinset] at hHit ⊢
      exact List.mem_append_left _ hHit
    have hAll := (h.retains hFirst).noteAll h.size
      (fun hit hHit hKnown => absurd hKnown (hUnknown hit hHit)) hRoom
    exact ⟨hAll.1, hAll.2.1⟩
  constructor
  · intro event hEvent
    dsimp only at hEvent ⊢
    rcases List.mem_append.mp hEvent with hOld | hNew
    · exact ⟨by have hBefore := (h.hits event hOld).1; omega, (h.hits event hOld).2⟩
    · exact ⟨by have hTick := (hStamped event hNew).1; omega, (hStamped event hNew).2⟩
  · have hNone : ∀ docs : List (Document F), (∀ doc ∈ docs, isHit doc = false) →
        docs.filter isHit = [] := fun docs hDocs =>
      List.filter_eq_nil_iff.mpr fun doc hDoc => by rw [hDocs doc hDoc]; exact Bool.false_ne_true
    have hDeaths : ∀ doc ∈ (deaths.map deathToSnapshotEvent : List (Document F)),
        isHit doc = false := by
      intro doc hDoc
      obtain ⟨event, -, rfl⟩ := List.mem_map.mp hDoc
      exact isHit_deathToSnapshotEvent event
    unfold appendCombatOutputs
    dsimp only
    rw [List.filter_append, List.filter_append, List.filter_append, List.filter_append, h.pending,
      filter_isHit_damage, hNone before fun doc hDoc => hOthers doc (List.mem_append_left _ hDoc),
      hNone _ hDeaths, hNone after fun doc hDoc => hOthers doc (List.mem_append_right _ hDoc),
      List.append_nil, List.append_nil, List.append_nil, List.map_append]
  · exact length_noteAll_le h.size _
  · intro hit hHit
    dsimp only
    rcases mem_noteAll hHit with hOld | hNew
    · have hBefore := h.known hit hOld
      omega
    · have hTick := hTicks hit hNew
      omega
  · intro hRoom
    dsimp only at hRoom ⊢
    rw [List.map_append]
    exact (hRetained hRoom).1
  · intro hit hHit
    dsimp only
    rcases List.mem_append.mp hHit with hOld | hNew
    · have hBefore := h.shownBefore hit hOld
      omega
    · have hTick := hTicks hit (mem_freshFor hNew).1
      omega
  · have hNew : (freshFor localPlayerId s.feed.recentDamageSignatures
        (events.map signature)).Nodup := by
      rcases hRemembered with hRoom | hUninvolved
      · exact (hRetained hRoom).2.filter _
      · rw [freshFor_of_uninvolved (fun event hEvent =>
          hUninvolved event (List.mem_append_right _ hEvent))]
        exact List.nodup_nil
    refine List.nodup_append.mpr ⟨h.shownOnce, hNew, ?_⟩
    rintro hit hOld other hOther rfl
    have hBefore := h.shownBefore hit hOld
    have hTick := hTicks hit (mem_freshFor hOther).1
    omega

/-- The second reports: what the client retains leads to no message. -/
theorem Balanced.freshFor_snapshot {localPlayerId : Nat} {shown : List DamageSignature}
    {s : HitRelay F} (h : Balanced localPlayerId shown s)
    (hRemembered : Remembered localPlayerId s.hits) :
    freshFor localPlayerId s.feed.recentDamageSignatures (s.hits.map signature) = [] := by
  rcases hRemembered with hRoom | hUninvolved
  · unfold freshFor
    rw [(noteAll_of_known fun hit hHit => (h.retains hRoom).known hHit).2]
    rfl
  · exact freshFor_of_uninvolved hUninvolved _

theorem Balanced.snapshot {localPlayerId : Nat} {shown : List DamageSignature} {s : HitRelay F}
    (h : Balanced localPlayerId shown s) {feed : AuthoritativeEventFeed}
    (hKnown : feed.recentDamageSignatures = noteAll kMaxDamageSignatures
      s.feed.recentDamageSignatures (s.hits.map signature)) :
    Balanced localPlayerId shown
      ({ s with hits := [], pendingSnapshotEvents := [], feed } : HitRelay F) where
  hits event hEvent := by cases hEvent
  pending := rfl
  size := by
    dsimp only
    rw [hKnown]
    exact length_noteAll_le h.size _
  known := by
    dsimp only
    rw [hKnown]
    intro hit hHit
    rcases mem_noteAll hHit with hOld | hNew
    · exact h.known hit hOld
    · obtain ⟨event, hEvent, rfl⟩ := List.mem_map.mp hNew
      exact (h.hits event hEvent).1
  retains _ := retains_nil _
  shownBefore := h.shownBefore
  shownOnce := h.shownOnce

/-- What holds of a run whose ticks leave the client able to remember the hits. -/
def Holds (localPlayerId : Nat) (trace : List RelayEvent) (s : HitRelay F) : Prop :=
  (∀ event ∈ trace, event.Remembered localPlayerId) →
    Balanced localPlayerId (shownIn trace) s ∧ Remembered localPlayerId s.hits

theorem holds_step {localPlayerId : Nat} {trace : List RelayEvent} {s t : HitRelay F}
    {event : RelayEvent} (h : Holds localPlayerId trace s)
    (hStep : RelayStep localPlayerId s event t) : Holds localPlayerId (trace ++ [event]) t := by
  intro hTrace
  obtain ⟨hBalanced, hRemembered⟩ := h fun other hOther => hTrace other (List.mem_append_left _ hOther)
  have hLast := hTrace event (List.mem_append_right _ (List.mem_singleton_self event))
  have hShown : shownIn (trace ++ [event]) = shownIn trace ++ event.shown := by
    unfold shownIn
    rw [List.flatMap_append, List.flatMap_singleton]
  rw [hShown]
  cases hStep with
  | tick tick result before after answers feed hLater hStamped hOthers hConsumed =>
      obtain ⟨told, hTold, hFresh⟩ := consumeEach_reliable (F := F) localPlayerId
        (fun event hEvent => (hStamped event hEvent).2) s.feed
      have hSame := hConsumed.symm.trans hTold
      cases hSame
      refine ⟨?_, hLast⟩
      have hNext := hBalanced.tick result.deathEvents hLater hStamped hOthers hLast
      rw [← hFresh] at hNext
      exact hNext
  | snapshot payload answers feed hEvents hConsumed =>
      have hPayload : snapshotEvents payload = s.pendingSnapshotEvents := by
        unfold snapshotEvents Json.value
        rw [hEvents]
        rfl
      rw [hPayload] at hConsumed
      obtain ⟨hKnown, hFresh⟩ := consumeEach_snapshot hBalanced.pending
        (fun event hEvent => (hBalanced.hits event hEvent).2) hConsumed
      refine ⟨?_, Or.inr fun event hEvent => by cases hEvent⟩
      have hNothing : RelayEvent.shown
          (.snapshot (shownHits isHit (snapshotEvents payload) answers)) = [] := by
        rw [hPayload]
        exact hFresh.trans (hBalanced.freshFor_snapshot hRemembered)
      rw [hNothing, List.append_nil]
      exact hBalanced.snapshot hKnown

/-- A hit is shown at most once in every run in which the hits of each snapshot interval fit
into the client's memory or leave its player out. -/
theorem hits_shown_once {localPlayerId : Nat} {trace : List RelayEvent} {s : HitRelay F}
    (run : Run (RelayStep localPlayerId) {} trace s)
    (hRemembered : ∀ event ∈ trace, event.Remembered localPlayerId) (hit : DamageSignature) :
    (shownIn trace).count hit ≤ 1 := by
  have hStart : Holds localPlayerId [] ({} : HitRelay F) := fun _ =>
    ⟨balanced_start localPlayerId, Or.inr fun event hEvent => by cases hEvent⟩
  have hEnd := run.history (I := Holds localPlayerId)
    (fun trace s event t hBefore hStep => holds_step hBefore hStep) hStart
  exact List.nodup_iff_count_le_one.mp (hEnd hRemembered).1.shownOnce hit

/-- A tick with the given hits and the snapshot after it. -/
theorem run_round (localPlayerId : Nat) {events : List DamageResolution}
    (hStamped : ∀ event ∈ events, event.tick = 1 ∧ event.Fits) :
    ∃ s : HitRelay F, Run (RelayStep localPlayerId) {}
      [.ticked events (freshFor localPlayerId [] (events.map signature)),
        .snapshot (freshFor localPlayerId
          (noteAll kMaxDamageSignatures [] (events.map signature)) (events.map signature))] s := by
  have hFits : ∀ event ∈ events, event.Fits := fun event hEvent => (hStamped event hEvent).2
  obtain ⟨first, hFirst, hShown⟩ := consumeEach_reliable (F := F) localPlayerId hFits {}
  obtain ⟨second, hSecond⟩ := consumeEach_damage (F := F) localPlayerId hFits
    (noted {} (events.map signature))
  obtain ⟨-, hAgain⟩ := consumeEach_snapshot (filter_isHit_damage events) hFits hSecond
  have hTick : RelayStep localPlayerId ({} : HitRelay F) _ _ :=
    RelayStep.tick {} 1 ⟨events, []⟩ [] [] first _ (Nat.zero_le 1) hStamped
      (fun _ hNone => by cases hNone) hFirst
  simp only [appendCombatOutputs, List.nil_append, List.append_nil, List.map_nil] at hTick
  rw [hShown] at hTick
  have hSnapshot := RelayStep.snapshot
    { nextTick := 1 + 1, hits := events, pendingSnapshotEvents := events.map damageToSnapshotEvent
      feed := noted {} (events.map signature) }
    (.object [("events", .array (events.map damageToSnapshotEvent))]) second.1 second.2 rfl hSecond
  exact ⟨_, ((Run.nil _).snoc hTick).snoc (hAgain ▸ hSnapshot)⟩

/-- A hit of the first player, the given one by its number. -/
def numberedHit (shotSeq : Nat) : DamageResolution where
  tick := 1
  attackerId := 1
  victimId := 2
  shotSeq := shotSeq
  damage := 1

theorem numberedHit_stamped {shotSeq : Nat} (h : shotSeq < 2 ^ 32) :
    (numberedHit shotSeq).tick = 1 ∧ (numberedHit shotSeq).Fits := by
  have hSmall : 1 < 2 ^ 64 ∧ 1 < 2 ^ 32 ∧ 2 < 2 ^ 32 := by decide
  have hDamage : -2 ^ 31 ≤ (1 : Int) ∧ (1 : Int) < 2 ^ 31 := by decide
  exact ⟨rfl, hSmall.1, hSmall.2.1, hSmall.2.2, h, hDamage⟩

theorem numberedHits_stamped {n : Nat} (h : n < 2 ^ 32) :
    ∀ event ∈ (List.range n).map numberedHit, event.tick = 1 ∧ event.Fits := by
  intro event hEvent
  obtain ⟨shotSeq, hSeq, rfl⟩ := List.mem_map.mp hEvent
  exact numberedHit_stamped ((List.mem_range.mp hSeq).trans h)

/-- Each hit of the first player is shown where the client does not know it yet. -/
theorem mem_freshFor_numberedHit {known : List DamageSignature} {n shotSeq : Nat}
    (hSeq : shotSeq < n) (hNew : signature (numberedHit shotSeq) ∉ known) :
    signature (numberedHit shotSeq) ∈
      freshFor 1 known (((List.range n).map numberedHit).map signature) := by
  have hMem : numberedHit shotSeq ∈ (List.range n).map numberedHit :=
    List.mem_map_of_mem (List.mem_range.mpr hSeq)
  refine List.mem_filter.mpr ⟨mem_fresh_of_unknown (List.mem_map_of_mem hMem) hNew, ?_⟩
  exact decide_eq_true (Or.inl rfl)

/-- Sixty-four hits in a tick are all shown, and none of them again by the next snapshot. -/
theorem hits_shown_once_full :
    ∃ trace, ∃ s : HitRelay ℚ, Run (RelayStep 1) {} trace s ∧
      ∀ shotSeq < 64, (shownIn trace).count (signature (numberedHit shotSeq)) = 1 := by
  obtain ⟨s, run⟩ := run_round (F := ℚ) 1 (numberedHits_stamped (n := 64) (by decide))
  refine ⟨_, s, run, fun shotSeq hSeq => le_antisymm (hits_shown_once run ?_ _) ?_⟩
  · intro event hEvent
    rcases List.mem_cons.mp hEvent with rfl | hLast
    · refine Or.inl ((List.toFinset_card_le _).trans_eq ?_)
      rw [List.length_map, List.length_map, List.length_range]
      rfl
    · rw [List.mem_singleton.mp hLast]
      trivial
  · exact List.one_le_count_iff.mpr
      (List.mem_append_left _ (mem_freshFor_numberedHit hSeq List.not_mem_nil))

/-- Sixty-five hits in a tick are all shown again by the next snapshot. -/
theorem hit_shown_twice :
    ¬ ∀ (localPlayerId : Nat) (trace : List RelayEvent) (s : HitRelay ℚ),
      Run (RelayStep localPlayerId) {} trace s → ∀ hit, (shownIn trace).count hit ≤ 1 := by
  intro hClaim
  obtain ⟨s, run⟩ := run_round (F := ℚ) 1 (numberedHits_stamped (n := 65) (by decide))
  have hOnce := hClaim 1 _ s run (signature (numberedHit 0))
  -- The last hit of the tick has pushed the first one out of the client's memory.
  have hForgotten : signature (numberedHit 0) ∉
      noteAll kMaxDamageSignatures [] (((List.range 65).map numberedHit).map signature) := by
    decide +kernel
  have hFirst : 1 ≤ (freshFor 1 [] (((List.range 65).map numberedHit).map signature)).count
      (signature (numberedHit 0)) :=
    List.one_le_count_iff.mpr (mem_freshFor_numberedHit (by decide) List.not_mem_nil)
  have hAgain : 1 ≤ (freshFor 1
      (noteAll kMaxDamageSignatures [] (((List.range 65).map numberedHit).map signature))
      (((List.range 65).map numberedHit).map signature)).count (signature (numberedHit 0)) :=
    List.one_le_count_iff.mpr (mem_freshFor_numberedHit (by decide) hForgotten)
  simp only [shownIn, List.flatMap_cons, List.flatMap_nil, List.append_nil, RelayEvent.shown,
    List.count_append] at hOnce
  omega

end DevyFps.Replication
