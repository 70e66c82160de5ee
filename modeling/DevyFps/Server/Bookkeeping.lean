import DevyFps.Server.RollCall

/-! The books of a match in a run of the loop: its coins are what the players hold, its records
are those of the ids handed out so far, and its kills account for the deaths that were reported. -/

namespace DevyFps.Server

open Foundations

variable {F : Type} [SingleFloat F]

/-- A view that does not see the mark of being connected does not see a player leave. -/
theorem MatchLifecycleSimulation.view_removePlayer {β : Type} (view : PlayerRecord → β)
    (hSame : ∀ record : PlayerRecord,
      view { record with connected := false, pendingRespawnTick := none } = view record)
    (s : MatchLifecycleSimulation) (playerId id : Nat) :
    view ((s.removePlayer playerId).recordOf id) = view (s.recordOf id) :=
  view_modifyPlayer view s playerId
    (fun record => { record with connected := false, pendingRespawnTick := none }) hSame id

namespace MainLoop

open MatchLifecycleSimulation

variable {s t : MainLoop F}

/-- The coins of a match record are what its player holds. -/
structure Booked (s : MainLoop F) : Prop where
  lawful : s.inventoryLootSimulation.Lawful
  keyed : s.matchLifecycleSimulation.Keyed
  enrolled : s.matchLifecycleSimulation.Enrolled
  coins : ∀ id, (s.matchLifecycleSimulation.recordOf id).coins =
    s.inventoryLootSimulation.valueHeld id

/-- The books are in order at the start. -/
theorem booked_create (setup : ServerSetup F) : (create setup).Booked where
  lawful := InventoryLootSimulation.lawful_create setup.treasures setup.inventory
  keyed _ := rfl
  enrolled _ _ hFind := by cases hFind
  coins _ := rfl

/-- The inventories after the loot of a tick are lawful. -/
theorem Booked.lawful_lootedIn (h : s.Booked) (frame : TickFrame F) :
    (s.lootedIn frame).2.Lawful := by
  rw [lootedIn_eq]
  exact h.lawful.tickWith (s.lootCall frame)

/-- The match reads the inventories as the tick leaves them. -/
theorem Booked.coins_playedIn (h : s.Booked) (frame : TickFrame F) (id : Nat) :
    ((s.playedIn frame).2.recordOf id).coins = (s.lootedIn frame).2.valueHeld id := by
  have hLawful := h.lawful_lootedIn frame
  rw [playedIn_eq, hLawful.coins_tickWith _ (s.summaries_matchCall frame)]
  split
  · rename_i hUnknown
    have hBefore : s.inventoryLootSimulation.playersById.find id = none := by
      by_contra hKnown
      rw [lootedIn_eq] at hUnknown
      exact (s.inventoryLootSimulation.nothingWaits_tickWith (s.lootCall frame)).2 id hKnown hUnknown
    rw [h.coins, InventoryLootSimulation.valueHeld_of_unknown hUnknown,
      InventoryLootSimulation.valueHeld_of_unknown hBefore]
  · rfl

/-- A join opens an empty account. -/
theorem Booked.ensurePlayer (h : s.Booked) (playerId : Nat) (sessions : SessionManager) :
    ({ s with sessionManager := sessions }.ensurePlayer playerId).Booked where
  lawful := (s.inventoryLootSimulation.keepsHoldings_ensurePlayer playerId).lawful h.lawful
  keyed id := (view_ensurePlayer unread_playerId _ playerId id).trans (h.keyed id)
  enrolled := h.enrolled.ensurePlayer playerId
  coins id := (coins_ensurePlayer _ playerId id).trans
    ((h.coins id).trans (InventoryLootSimulation.valueHeld_ensurePlayer _ playerId id).symm)

/-- Whoever leaves keeps its account. -/
theorem Booked.leave (h : s.Booked) (peerToken : PeerToken) (playerId : Nat) :
    (s.leave peerToken playerId).Booked where
  lawful := (s.inventoryLootSimulation.keepsHoldings_removePlayer playerId).lawful h.lawful
  keyed id := (view_removePlayer PlayerRecord.playerId (fun _ => rfl) _ playerId id).trans
    (h.keyed id)
  enrolled := h.enrolled.modifyPlayer playerId fun _ => rfl
  coins id := (view_removePlayer PlayerRecord.coins (fun _ => rfl) _ playerId id).trans
    ((h.coins id).trans (InventoryLootSimulation.valueHeld_removePlayer _ playerId id).symm)

/-- In a tick the match copies the coins of the inventories. -/
theorem Booked.tick (h : s.Booked) {frame : TickFrame F} (hTicked : s.Ticked frame t) :
    t.Booked where
  lawful := by
    rw [hTicked.inventoryLootSimulation]
    exact h.lawful_lootedIn frame
  keyed := by
    rw [hTicked.matchLifecycleSimulation, playedIn_eq]
    exact h.keyed.tickWith _
  enrolled := by
    rw [hTicked.matchLifecycleSimulation, playedIn_eq]
    exact h.enrolled.tickWith _
  coins := by
    rw [hTicked.matchLifecycleSimulation, hTicked.inventoryLootSimulation]
    exact h.coins_playedIn frame

/-- Every deed keeps the books. -/
theorem Booked.step {deed : Deed F} (h : s.Booked) (hStep : DeedStep s deed t) : t.Booked := by
  cases hStep with
  | idle hIdles =>
      obtain ⟨hLawful, hKeyed, hEnrolled, hCoins⟩ := h
      constructor
      · rw [hIdles.inventoryLootSimulation]
        exact hLawful
      · rw [hIdles.matchLifecycleSimulation]
        exact hKeyed
      · rw [hIdles.matchLifecycleSimulation]
        exact hEnrolled
      · rw [hIdles.matchLifecycleSimulation, hIdles.inventoryLootSimulation]
        exact hCoins
  | seat peerToken playerName now playerId status hToken hNew hFree hSlot hSeats =>
      exact h.ensurePlayer playerId _
  | rejoin peerToken playerId hSeat => exact h.ensurePlayer playerId s.sessionManager
  | leave peerToken playerId hIdle hSeat => exact h.leave peerToken playerId
  | input peerToken command hSeat => exact ⟨h.lawful, h.keyed, h.enrolled, h.coins⟩
  | fire peerToken command hPhase hSeat => exact ⟨h.lawful, h.keyed, h.enrolled, h.coins⟩
  | pickup peerToken command hPhase hSeat =>
      refine ⟨(s.inventoryLootSimulation.keepsHoldings_enqueuePickup command).lawful h.lawful,
        h.keyed, h.enrolled, fun id => ?_⟩
      exact (h.coins id).trans
        (s.inventoryLootSimulation.valueHeld_enqueuePickup command id).symm
  | advance now hIdle => exact ⟨h.lawful, h.keyed, h.enrolled, h.coins⟩
  | tick frame rest hFrames => exact h.tick (s.ticked_runFrame frame rest)

/-! The kills that the deaths of a run have credited. -/

/-- How many deaths the ticks of the trace report. -/
def deathsTold : List (LoopEvent F) → Nat
  | [] => 0
  | .ticked record :: later => record.combat.deathEvents.length + deathsTold later
  | _ :: later => deathsTold later

theorem deathsTold_ticked (record : ServerTick F) :
    deathsTold [LoopEvent.ticked record] = record.combat.deathEvents.length := rfl

/-- The deaths that are told add up over a run. -/
theorem deathsTold_snoc (trace : List (LoopEvent F)) (event : LoopEvent F) :
    deathsTold (trace ++ [event]) = deathsTold trace + deathsTold [event] := by
  induction trace with
  | nil => exact (Nat.zero_add _).symm
  | cons first rest ih =>
      cases first with
      | ticked record =>
          rw [List.cons_append, deathsTold, deathsTold, ih, Nat.add_assoc]
      | _ => exact ih

/-- No kill is credited at the start. -/
theorem credited_create (setup : ServerSetup F) :
    (create setup).matchLifecycleSimulation.Credited 0 where
  kills _ := Nat.le_refl 0
  credit _ hDied := absurd hDied (Nat.lt_irrefl 0)

/-- Nobody is killed outside the ticks. -/
theorem credited_deed {deed : Deed F} {deaths : Nat}
    (h : s.matchLifecycleSimulation.Credited deaths) (hStep : DeedStep s deed t)
    (hQuiet : ∀ record, deed ≠ .ticked record) : t.matchLifecycleSimulation.Credited deaths := by
  cases hStep with
  | idle hIdles =>
      rw [hIdles.matchLifecycleSimulation]
      exact h
  | seat peerToken playerName now playerId status hToken hNew hFree hSlot hSeats =>
      exact h.of_tally (view_ensurePlayer unread_tallyOf _ playerId)
  | rejoin peerToken playerId hSeat =>
      exact h.of_tally (view_ensurePlayer unread_tallyOf _ playerId)
  | leave peerToken playerId hIdle hSeat =>
      exact h.of_tally (view_removePlayer tallyOf (fun _ => rfl) _ playerId)
  | input peerToken command hSeat => exact h
  | fire peerToken command hPhase hSeat => exact h
  | pickup peerToken command hPhase hSeat => exact h
  | advance now hIdle => exact h
  | tick frame rest hFrames => exact absurd rfl (hQuiet _)

/-- The deaths of a tick are kills of one player by another, and counted as such. -/
theorem Cast.credited_tick (h : s.Cast) (hApart : s.combatSimulation.Apart) {deaths : Nat}
    (hCredited : s.matchLifecycleSimulation.Credited deaths) {frame : TickFrame F}
    {rest : List (TickFrame F)} (hFrames : s.tickFrames = frame :: rest)
    (hTicked : s.Ticked frame t)
    (hFits : deaths + (s.foughtIn frame).1.deathEvents.length < 2 ^ 32) :
    t.matchLifecycleSimulation.Credited (deaths + (s.foughtIn frame).1.deathEvents.length) := by
  have hInputs : ∀ input ∈ frame.inputs, s.sessionManager.Seated input.playerId :=
    h.frames frame (hFrames ▸ List.mem_cons_self)
  have hKills : ∀ death ∈ (s.matchCall frame).deathEvents,
      death.killerId ≠ 0 ∧ death.killerId ≠ death.victimId := by
    intro death hDeath
    rw [deathEvents_matchCall] at hDeath
    obtain ⟨hAnother, hKiller, -⟩ := h.kill_foughtIn hApart hInputs hDeath
    exact ⟨Nat.one_le_iff_ne_zero.mp (h.pos_of_seated hKiller), hAnother⟩
  rw [← deathEvents_matchCall] at hFits ⊢
  rw [hTicked.matchLifecycleSimulation, playedIn_eq]
  exact hCredited.tickWith (s.matchCall frame) hKills hFits

/-- What holds in every state that the loop reaches. -/
structure Consistent (s : MainLoop F) : Prop where
  cast : s.Cast
  booked : s.Booked
  apart : s.combatSimulation.Apart
  roll : s.RollCall

/-- Seats, rolls and books agree at the start. -/
theorem consistent_create (setup : ServerSetup F) : (create setup).Consistent :=
  ⟨cast_create setup, booked_create setup, fun _ hHit => (List.not_mem_nil hHit).elim,
    rollCall_create setup⟩

/-- Every deed keeps them in agreement. -/
theorem Consistent.step {deed : Deed F} (h : s.Consistent) (hStep : DeedStep s deed t) : t.Consistent :=
  ⟨h.cast.step hStep, h.booked.step hStep, h.cast.apart_step h.apart hStep,
    h.roll.step h.cast h.apart h.booked.lawful hStep⟩

/-- They agree in every state that is reached. -/
theorem consistent_run {setup : ServerSetup F} {trace : List (LoopEvent F)}
    (run : Run LoopStep (create setup) trace s) : s.Consistent :=
  (run_deeds run (cast_create setup).tables).2.invariant (fun _ _ _ h hStep => h.step hStep)
    (consistent_create setup)

/-- The books are in order in every state that is reached. -/
theorem booked_run {setup : ServerSetup F} {trace : List (LoopEvent F)}
    (run : Run LoopStep (create setup) trace s) : s.Booked :=
  (consistent_run run).booked

/-- A step credits a kill for each death that it tells of, as long as the counters do not wrap. -/
theorem Consistent.credited_step (h : s.Consistent) {event : LoopEvent F} {deaths : Nat}
    (hCredited : s.matchLifecycleSimulation.Credited deaths)
    (hFits : deaths + deathsTold [event] < 2 ^ 32) (hStep : LoopStep s event t) :
    t.matchLifecycleSimulation.Credited (deaths + deathsTold [event]) := by
  by_cases hTick : ∃ record, event = .ticked record
  · obtain ⟨record, rfl⟩ := hTick
    obtain ⟨frame, rest, hFrames, hRecord, hTicked⟩ := ticked_of_step hStep
    rw [deathsTold_ticked, hRecord, combat_runFrame] at hFits ⊢
    exact h.cast.credited_tick h.apart hCredited hFrames hTicked hFits
  · have hQuiet : ∀ deed ∈ deedsOf event, ∀ record, deed ≠ .ticked record := by
      rintro deed hDeed record rfl
      exact hTick ⟨record, ticked_mem_deedsOf hDeed⟩
    have hSame : ∀ deeds (u : MainLoop F), (∀ deed ∈ deeds, ∀ record, deed ≠ .ticked record) →
        Run DeedStep s deeds u → u.matchLifecycleSimulation.Credited deaths := by
      intro deeds u hNone run
      refine run.history (I := fun deeds u => (∀ deed ∈ deeds, ∀ record, deed ≠ .ticked record) →
        u.matchLifecycleSimulation.Credited deaths) ?_ (fun _ => hCredited) hNone
      intro trace u deed v hBefore hDeed hAll
      have hEarlier := hBefore fun other hOther => hAll other (List.mem_append_left _ hOther)
      exact credited_deed hEarlier hDeed (hAll deed (by simp))
    exact (hSame _ t hQuiet (run_step h.cast.tables hStep)).mono (Nat.le_add_right _ _)

/-- The kills of a run account for its deaths, as long as no counter can wrap. -/
theorem credited_run {setup : ServerSetup F} {trace : List (LoopEvent F)}
    (run : Run LoopStep (create setup) trace s) (hFits : deathsTold trace < 2 ^ 32) :
    s.matchLifecycleSimulation.Credited (deathsTold trace) := by
  refine (run.history (I := fun trace s => s.Consistent ∧ (deathsTold trace < 2 ^ 32 →
    s.matchLifecycleSimulation.Credited (deathsTold trace))) ?_
      ⟨consistent_create setup, fun _ => credited_create setup⟩).2 hFits
  rintro before s event t ⟨hOrder, hBefore⟩ hStep
  refine ⟨?_, fun hBound => ?_⟩
  · exact (run_step hOrder.cast.tables hStep).invariant (fun _ _ _ h hDeed => h.step hDeed) hOrder
  · rw [deathsTold_snoc] at hBound ⊢
    exact hOrder.credited_step (hBefore (by omega)) hBound hStep

end MainLoop

end DevyFps.Server
