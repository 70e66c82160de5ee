import DevyFps.Server.FinalScores
import DevyFps.Server.HealthAccounts
import DevyFps.Server.InventoryDeltas
import DevyFps.Server.Listeners
import DevyFps.Server.LootSums
import DevyFps.Server.PhaseChanges

/-! What the server holds of one player: its health, its inventory and the phase of the match.
Between two ticks nothing of it changes while the player is seated, and a tick changes no more
than its events and deltas tell, but for a respawn. -/

namespace DevyFps.Server

open Foundations

variable {F : Type} [SingleFloat F]

/-- A strike as its victim feels it. -/
def struck (playerId : Nat) (known : Option (Int × Bool)) (event : DamageResolution) :
    Option (Int × Bool) :=
  if event.victimId = playerId then some (event.victimHealth, !event.lethal) else known

/-- What a player feels of a strike. -/
theorem Strike.felt {vitals vitals' : Vitals} {event : DamageResolution}
    (h : Strike vitals event vitals') (playerId : Nat) :
    vitals' playerId = struck playerId (vitals playerId) event := by
  cases h with
  | strike health hAlive hDamage hHealth hLethal =>
      unfold struck
      split
      · rename_i hVictim
        rw [hVictim, Function.update_self]
      · rename_i hOther
        rw [Function.update_of_ne (Ne.symm hOther)]

/-- The last strike on a player tells what is left of it. -/
theorem felt_of_strikes {vitals vitals' : Vitals} {events : List DamageResolution}
    (run : Run Strike vitals events vitals') (playerId : Nat) :
    vitals' playerId = events.foldl (struck playerId) (vitals playerId) := by
  induction run with
  | nil => rfl
  | snoc prior last ih =>
      rw [List.foldl_append, ← ih]
      exact last.felt playerId

namespace CombatSimulation

/-- The positions of a tick change nothing about the health of a known player. -/
theorem vitals_setPlayerPositions {playerId : Nat} (states : List (PlayerMotionState F))
    (s : CombatSimulation F) (h : s.vitals playerId ≠ none) :
    (s.setPlayerPositions states).vitals playerId = s.vitals playerId := by
  induction states generalizing s with
  | nil => rfl
  | cons state rest ih =>
      have hFirst : (s.setPlayerPosition state.playerId state.positionX state.positionY).vitals
          playerId = s.vitals playerId := by
        rw [vitals_setPlayerPosition, vitals_ensurePlayer]
        by_cases hSame : playerId = state.playerId
        · rw [← hSame, Function.update_self]
          obtain ⟨known, hKnown⟩ := Option.ne_none_iff_exists'.mp h
          rw [hKnown]
          rfl
        · rw [Function.update_of_ne hSame]
      exact (ih _ (hFirst ▸ h)).trans hFirst

/-- A player that is not among the respawned keeps its health. -/
theorem vitals_respawnPlayers {playerId : Nat} (ids : List Nat) (s : CombatSimulation F)
    (h : playerId ∉ ids) : (ids.foldl respawnPlayer s).vitals playerId = s.vitals playerId := by
  induction ids generalizing s with
  | nil => rfl
  | cons id rest ih =>
      rw [List.mem_cons, not_or] at h
      rw [List.foldl_cons, ih _ h.2, vitals_respawnPlayer, Function.update_of_ne h.1]

/-- Known players have vitals. -/
theorem vitals_ne_none {s : CombatSimulation F} {playerId : Nat} :
    s.vitals playerId ≠ none ↔ s.knows playerId = true := by
  unfold vitals knows
  rw [Option.map_eq_none_iff.ne, Option.isSome_iff_ne_none]

theorem Healthy.run {s t : CombatSimulation F} {trace : List CombatEvent} (h : s.Healthy)
    (run : Run CombatCall s trace t) : t.Healthy :=
  run.invariant (fun _ _ _ hBefore hStep => hBefore.step hStep) h

theorem Healthy.enqueueFire {s : CombatSimulation F} (h : s.Healthy) (fire : FireCommand F) :
    (s.enqueueFire fire).2.Healthy := by
  by_cases hStatus : (s.enqueueFire fire).1 = .accepted
  · exact h.step (.enqueueFire s fire hStatus)
  · exact h.step (.refuseFire s fire hStatus)

/-- Respawns keep health and life in agreement. -/
theorem Healthy.respawnPlayers {s : CombatSimulation F} (h : s.Healthy) (ids : List Nat) :
    (ids.foldl respawnPlayer s).Healthy := by
  induction ids generalizing s with
  | nil => exact h
  | cons id rest ih => exact ih (h.step (.respawnPlayer s id))

end CombatSimulation

namespace MainLoop

variable {s t : MainLoop F}

/-! The calls that the deeds of the loop make on the inventories and on the combat. -/

/-- A deed makes a few calls on the inventories, and never resets them. -/
theorem loot_deed {deed : Deed F} (hStep : DeedStep s deed t) :
    ∃ actions, t.inventoryLootSimulation = s.inventoryLootSimulation.history actions ∧
      ∀ action ∈ actions, action ≠ .reset := by
  have hOne : ∀ action : LootAction F, action ≠ .reset →
      t.inventoryLootSimulation = s.inventoryLootSimulation.act action →
      ∃ actions, t.inventoryLootSimulation = s.inventoryLootSimulation.history actions ∧
        ∀ action ∈ actions, action ≠ .reset :=
    fun action hAction hAct => ⟨[action], hAct, fun other hOther =>
      List.mem_singleton.mp hOther ▸ hAction⟩
  have hNone : t.inventoryLootSimulation = s.inventoryLootSimulation →
      ∃ actions, t.inventoryLootSimulation = s.inventoryLootSimulation.history actions ∧
        ∀ action ∈ actions, action ≠ .reset :=
    fun hSame => ⟨[], hSame, fun other hOther => absurd hOther List.not_mem_nil⟩
  cases hStep with
  | idle hIdles => exact hNone hIdles.inventoryLootSimulation
  | seat peerToken playerName now playerId status hToken hNew hFree hSlot hSeats =>
      exact hOne (.ensurePlayer playerId) nofun rfl
  | rejoin peerToken playerId hSeat => exact hOne (.ensurePlayer playerId) nofun rfl
  | leave peerToken playerId hIdle hSeat =>
      exact hOne (.removePlayer playerId) nofun rfl
  | input peerToken command hSeat => exact hNone rfl
  | fire peerToken command hPhase hSeat => exact hNone rfl
  | pickup peerToken command hPhase hSeat =>
      exact hOne (.enqueuePickup command) nofun rfl
  | advance now hIdle => exact hNone rfl
  | tick frame rest hFrames =>
      refine hOne (.resolveTick (s.lootCall frame)) nofun ?_
      rw [InventoryLootSimulation.act_resolveTick, ← lootedIn_eq]
      exact (s.ticked_runFrame frame rest).inventoryLootSimulation

/-- The inventories of a loop are what calls without a reset lead to. -/
theorem loot_run {setup : ServerSetup F} {trace : List (LoopEvent F)}
    (run : Run LoopStep (create setup) trace s) :
    ∃ actions, s.inventoryLootSimulation =
        (InventoryLootSimulation.create setup.treasures setup.inventory).history actions ∧
      ∀ action ∈ actions, action ≠ .reset := by
  refine (run_deeds run (SessionManager.tablesAgree_create setup.session)).2.invariant
    (I := fun s => ∃ actions, s.inventoryLootSimulation =
        (InventoryLootSimulation.create setup.treasures setup.inventory).history actions ∧
      ∀ action ∈ actions, action ≠ .reset) ?_
    ⟨[], rfl, fun action hAction => absurd hAction List.not_mem_nil⟩
  rintro s deed t ⟨actions, hBefore, hActions⟩ hStep
  obtain ⟨more, hAfter, hMore⟩ := loot_deed hStep
  refine ⟨actions ++ more, ?_, fun action hAction => ?_⟩
  · rw [hAfter, hBefore]
    exact (List.foldl_append ..).symm
  · exact (List.mem_append.mp hAction).elim (hActions action) (hMore action)

/-- So does a tick of the loop. -/
theorem healthy_tick (h : s.combatSimulation.Healthy) (frame : TickFrame F) :
    (s.respawnedIn frame).Healthy := by
  obtain ⟨calls, hPositions⟩ :=
    s.combatSimulation.run_setPlayerPositions (s.movedIn frame).snapshot
  have hFought : (s.foughtIn frame).2.Healthy :=
    (h.run hPositions).step (.resolveTick _ frame.tick s.tickInterval)
  exact hFought.respawnPlayers _

/-- So does every deed. -/
theorem healthy_deed {deed : Deed F} (h : s.combatSimulation.Healthy)
    (hStep : DeedStep s deed t) : t.combatSimulation.Healthy := by
  cases hStep with
  | idle hIdles =>
      have hConfig : t.combatSimulation.config = s.combatSimulation.config := by
        rw [hIdles.combatRest]
      have hVitals : t.combatSimulation.vitals = s.combatSimulation.vitals := by
        funext id
        unfold CombatSimulation.vitals
        rw [hIdles.players id]
      unfold CombatSimulation.Healthy
      rw [hConfig, hVitals]
      exact h
  | seat peerToken playerName now playerId status hToken hNew hFree hSlot hSeats =>
      exact h.ensurePlayer playerId
  | rejoin peerToken playerId hSeat => exact h.ensurePlayer playerId
  | leave peerToken playerId hIdle hSeat => exact h.step (.removePlayer _ playerId)
  | fire peerToken command hPhase hSeat => exact h.enqueueFire command
  | tick frame rest hFrames =>
      rw [(s.ticked_runFrame frame rest).combatSimulation]
      exact healthy_tick h frame
  | _ => exact h

/-- Health and life agree in every state that is reached. -/
theorem healthy_run {setup : ServerSetup F} {trace : List (LoopEvent F)}
    (run : Run LoopStep (create setup) trace s) : s.combatSimulation.Healthy :=
  (run_deeds run (SessionManager.tablesAgree_create setup.session)).2.invariant
    (fun _ _ _ hBefore hStep => healthy_deed hBefore hStep)
    (CombatSimulation.healthy_create setup.weapons setup.combat)

/-! What is held of one player. -/

/-- The part of the state that a player is told of as its own. -/
structure PlayerFacts where
  vitals : Option (Int × Bool)
  totals : InventoryTotals
  phase : MatchPhase

def factsOf (s : MainLoop F) (playerId : Nat) : PlayerFacts where
  vitals := s.combatSimulation.vitals playerId
  totals := s.inventoryLootSimulation.totalsFor playerId
  phase := s.matchLifecycleSimulation.phase

/-- The facts of a player are read from three components. -/
theorem factsOf_eq {playerId : Nat}
    (hVitals : t.combatSimulation.vitals playerId = s.combatSimulation.vitals playerId)
    (hHeld : t.inventoryLootSimulation.holdingsOf playerId =
      s.inventoryLootSimulation.holdingsOf playerId)
    (hPhase : t.matchLifecycleSimulation.phase = s.matchLifecycleSimulation.phase) :
    t.factsOf playerId = s.factsOf playerId := by
  unfold factsOf
  rw [hVitals, InventoryLootSimulation.totalsFor_eq, InventoryLootSimulation.totalsFor_eq, hHeld,
    hPhase]

variable {peer : PeerToken} {playerId : Nat}

/-- Whoever has a seat has vitals. -/
theorem Cast.vitals_ne_none (h : s.Cast) (hSeat : s.sessionManager.seat peer = some playerId) :
    s.combatSimulation.vitals playerId ≠ none :=
  CombatSimulation.vitals_ne_none.mpr ((h.fighters playerId).mpr ⟨peer, hSeat⟩)

/-- A player that is known is not touched when somebody is made known. -/
theorem facts_ensurePlayer (hKnown : s.combatSimulation.vitals playerId ≠ none) (id : Nat) :
    (s.ensurePlayer id).factsOf playerId = s.factsOf playerId := by
  refine factsOf_eq ?_ (s.inventoryLootSimulation.holdingsOf_ensurePlayer id playerId) rfl
  change (s.combatSimulation.ensurePlayer id).vitals playerId = _
  rw [CombatSimulation.vitals_ensurePlayer]
  by_cases hSame : playerId = id
  · obtain ⟨known, hVitals⟩ := Option.ne_none_iff_exists'.mp hKnown
    rw [← hSame, Function.update_self, hVitals]
    rfl
  · rw [Function.update_of_ne hSame]

/-- What is held of a seated player changes with the ticks and with its leave only. -/
theorem DeedStep.facts_eq {deed : Deed F} (h : s.Cast) (hStep : DeedStep s deed t)
    (hSeat : s.sessionManager.seat peer = some playerId)
    (hStays : deed ≠ .left peer playerId) (hQuiet : ∀ record, deed ≠ .ticked record) :
    t.sessionManager.seat peer = some playerId ∧ t.factsOf playerId = s.factsOf playerId := by
  have hKnown := h.vitals_ne_none hSeat
  cases hStep with
  | idle hIdles =>
      refine ⟨(hIdles.seats peer).trans hSeat, factsOf_eq ?_ ?_ ?_⟩
      · unfold CombatSimulation.vitals
        rw [hIdles.players playerId]
      · rw [hIdles.inventoryLootSimulation]
      · rw [hIdles.matchLifecycleSimulation]
  | seat peerToken playerName now id status hToken hNew hFree hSlot hSeats =>
      refine ⟨?_, facts_ensurePlayer (s := { s with sessionManager := _ }) hKnown id⟩
      change (s.sessionManager.handleJoinRequest peerToken playerName now).2.seat peer = _
      rw [hSeats, if_neg fun hSame => ?_]
      · exact hSeat
      · rw [hSame, hNew] at hSeat
        cases hSeat
  | rejoin peerToken id hOther => exact ⟨hSeat, facts_ensurePlayer hKnown id⟩
  | leave peerToken id hIdle hOther =>
      have hPeer : peer ≠ peerToken := by
        rintro rfl
        rw [hOther] at hSeat
        exact hStays (congrArg (Deed.left peer) (Option.some.inj hSeat))
      have hId : playerId ≠ id := fun hSame =>
        hPeer (h.tables.seat_unique hSeat (hSame ▸ hOther))
      refine ⟨?_, factsOf_eq ?_ (s.inventoryLootSimulation.holdingsOf_removePlayer id playerId) rfl⟩
      · change (s.sessionManager.handleDisconnect peerToken).2.seat peer = _
        rw [SessionManager.seat_handleDisconnect, if_neg hPeer]
        exact hSeat
      · change (s.combatSimulation.removePlayer id).vitals playerId = _
        rw [CombatSimulation.vitals_removePlayer, Function.update_of_ne hId]
  | input peerToken command hSender => exact ⟨hSeat, rfl⟩
  | fire peerToken command hPhase hSender =>
      refine ⟨hSeat, factsOf_eq ?_ rfl rfl⟩
      change (s.combatSimulation.enqueueFire command).2.vitals playerId = _
      unfold CombatSimulation.vitals
      rw [CombatSimulation.players_enqueueFire ((h.fighters _).mpr ⟨peerToken, hSender⟩)]
  | pickup peerToken command hPhase hSender =>
      exact ⟨hSeat, factsOf_eq rfl
        (s.inventoryLootSimulation.holdingsOf_enqueuePickup command playerId) rfl⟩
  | advance now hIdle => exact ⟨hSeat, rfl⟩
  | tick frame rest hFrames => exact absurd rfl (hQuiet _)

/-- Who leaves loses its connection or has timed out. -/
theorem left_mem_deedsOf {event : LoopEvent F} (h : .left peer playerId ∈ deedsOf event) :
    (∃ session, event = .disconnected peer session) ∨
      ∃ sessions, event = .timedOut sessions ∧ peer ∈ sessions.map SessionView.peerToken := by
  cases event with
  | disconnected other session =>
      cases session with
      | none => simp [deedsOf] at h
      | some session =>
          obtain ⟨rfl, -⟩ := Deed.left.inj (List.mem_singleton.mp h)
          exact Or.inl ⟨_, rfl⟩
  | timedOut sessions =>
      obtain ⟨session, hSession, hLeft⟩ := List.mem_map.mp h
      obtain ⟨rfl, -⟩ := Deed.left.inj hLeft
      exact Or.inr ⟨sessions, rfl, List.mem_map_of_mem hSession⟩
  | received other packet outcome =>
      cases outcome with
      | join result =>
          simp only [deedsOf] at h
          split_ifs at h <;> simp at h
      | _ => simp [deedsOf] at h
  | _ => simp [deedsOf] at h

/-- Between two ticks nothing changes of what is held of a player that stays. -/
theorem facts_step {event : LoopEvent F} (h : s.Cast) (hStep : LoopStep s event t)
    (hSeat : s.sessionManager.seat peer = some playerId)
    (hStays : .left peer playerId ∉ deedsOf event) (hQuiet : ∀ record, event ≠ .ticked record) :
    t.factsOf playerId = s.factsOf playerId := by
  have hDeeds : Run (fun u deed v => DeedStep u deed v ∧
      deed ≠ .left peer playerId ∧ ∀ record, deed ≠ .ticked record) s (deedsOf event) t := by
    refine (run_step h.tables hStep).guard (P := fun _ deed => deed ≠ .left peer playerId ∧
      ∀ record, deed ≠ .ticked record) fun deed hDeed _ => ⟨fun hLeft => ?_, fun record hTicked => ?_⟩
    · exact hStays (hLeft ▸ hDeed)
    · exact hQuiet record (ticked_mem_deedsOf (hTicked ▸ hDeed))
  refine (hDeeds.invariant (I := fun u => u.Cast ∧ u.sessionManager.seat peer = some playerId ∧
    u.factsOf playerId = s.factsOf playerId) ?_ ⟨h, hSeat, rfl⟩).2.2
  rintro u deed v ⟨hCast, hThere, hSame⟩ ⟨hDeed, hLeft, hTick⟩
  obtain ⟨hStill, hEq⟩ := hDeed.facts_eq hCast hThere hLeft hTick
  exact ⟨hCast.step hDeed, hStill, hEq.trans hSame⟩

/-- The damage of a tick is a run of strikes on the players as it finds them. -/
theorem strikes_foughtIn (s : MainLoop F) (frame : TickFrame F) :
    Run Strike (s.combatSimulation.setPlayerPositions (s.movedIn frame).snapshot).vitals
      (s.foughtIn frame).1.damageEvents (s.foughtIn frame).2.vitals := by
  unfold foughtIn
  exact (CombatSimulation.strikes_resolveTick _ _ _).1

/-- What a tick tells of a player that it does not respawn. -/
theorem facts_tick {record : ServerTick F} (h : s.Cast) (hBooked : s.Booked)
    (hStep : LoopStep s (.ticked record) t) (hSeat : s.sessionManager.seat peer = some playerId)
    (hStays : playerId ∉ record.lifecycle.respawnedPlayers) :
    t.combatSimulation.vitals playerId =
        record.combat.damageEvents.foldl (struck playerId)
          (s.combatSimulation.vitals playerId) ∧
      t.inventoryLootSimulation.totalsFor playerId =
        record.inventory.inventoryDeltas.foldl
          (InventoryLootSimulation.overwrite playerId)
          (s.inventoryLootSimulation.totalsFor playerId) := by
  obtain ⟨frame, rest, -, rfl, hTicked⟩ := ticked_of_step hStep
  constructor
  · have hFelt := felt_of_strikes (s.strikes_foughtIn frame) playerId
    rw [CombatSimulation.vitals_setPlayerPositions _ _ (h.vitals_ne_none hSeat)] at hFelt
    rw [lifecycle_runFrame] at hStays
    rw [hTicked.combatSimulation, combat_runFrame]
    unfold respawnedIn
    rw [CombatSimulation.vitals_respawnPlayers _ _ hStays, hFelt]
  · rw [hTicked.inventoryLootSimulation, inventory_runFrame, lootedIn_eq,
      hBooked.lawful.overwritten]

end MainLoop

end DevyFps.Server
