import DevyFps.Server.FreshIdentity
import DevyFps.Server.MatchLives

/-! Life and death across the components. The combat forgets who leaves while the match keeps
its record, so a death binds a player as long as nobody marked dead takes a seat. -/

namespace DevyFps.Server

open Foundations

variable {F : Type} [SingleFloat F]

namespace CombatSimulation

/-- Who is made known is alive if it was not known before. -/
theorem aliveIn_ensurePlayer (s : CombatSimulation F) (playerId id : Nat) :
    (s.ensurePlayer playerId).aliveIn id =
      (s.aliveIn id || (id == playerId && !s.knows playerId)) := by
  unfold aliveIn knows
  rw [find_ensurePlayer]
  by_cases hSame : id = playerId
  · rw [if_pos hSame, hSame, BEq.rfl]
    cases s.playersById.find playerId with
    | none => rfl
    | some state => simp
  · rw [if_neg hSame, beq_false_of_ne hSame, Bool.false_and, Bool.or_false]

/-- A removed player is not alive, and the others are as before. -/
theorem aliveIn_removePlayer (s : CombatSimulation F) (playerId id : Nat) :
    (s.removePlayer playerId).aliveIn id = (id != playerId && s.aliveIn id) := by
  unfold removePlayer aliveIn
  dsimp only
  rw [UnorderedMap.find_erase]
  by_cases hSame : id = playerId
  · rw [if_pos hSame, hSame, bne_self_eq_false]
    rfl
  · rw [if_neg hSame, bne_iff_ne.mpr hSame, Bool.true_and]

/-- After some respawns the living are those before and the respawned. -/
theorem aliveIn_respawnPlayers (ids : List Nat) (s : CombatSimulation F) (id : Nat) :
    (ids.foldl respawnPlayer s).aliveIn id = (s.aliveIn id || ids.contains id) := by
  have hOne : ∀ (t : CombatSimulation F) playerId,
      (t.respawnPlayer playerId).aliveIn id = (t.aliveIn id || id == playerId) := by
    intro t playerId
    have hEnsured := t.find_ensurePlayer playerId playerId
    rw [if_pos rfl] at hEnsured
    unfold respawnPlayer aliveIn
    dsimp only
    rw [UnorderedMap.find_modify]
    by_cases hSame : id = playerId
    · rw [if_pos hSame, hEnsured, hSame, BEq.rfl, Bool.or_true]
      rfl
    · rw [if_neg hSame, find_ensurePlayer, if_neg hSame, beq_false_of_ne hSame, Bool.or_false]
  induction ids generalizing s with
  | nil => rw [List.foldl_nil, List.contains_nil, Bool.or_false]
  | cons head rest ih => rw [List.foldl_cons, ih, hOne, List.contains_cons, Bool.or_assoc]

/-- Positions of known players change nothing else. -/
theorem setPlayerPositions_of_known (states : List (PlayerMotionState F)) (s : CombatSimulation F)
    (h : ∀ state ∈ states, s.knows state.playerId = true) :
    ∃ positions, s.setPlayerPositions states = { s with positionsByPlayer := positions } := by
  induction states generalizing s with
  | nil => exact ⟨_, rfl⟩
  | cons head rest ih =>
      have hHead : ∃ positions, s.setPlayerPosition head.playerId head.positionX head.positionY =
          { s with positionsByPlayer := positions } := by
        obtain ⟨state, hFind⟩ := Option.isSome_iff_exists.mp (h head List.mem_cons_self)
        have hSame : s.ensurePlayer head.playerId = s := by
          unfold ensurePlayer
          rw [UnorderedMap.tryEmplace_of_find hFind]
        unfold setPlayerPosition
        dsimp only
        rw [hSame]
        split
        · exact ⟨_, rfl⟩
        · exact ⟨_, rfl⟩
      obtain ⟨positions, hHead⟩ := hHead
      change ∃ later, (s.setPlayerPosition head.playerId head.positionX
        head.positionY).setPlayerPositions rest = _
      rw [hHead]
      obtain ⟨later, hRest⟩ := ih { s with positionsByPlayer := positions }
        (fun state hState => h state (List.mem_cons_of_mem _ hState))
      exact ⟨later, hRest⟩

/-- Nobody was hurt, and nothing is under way that could hurt anybody. -/
structure Unharmed (s : CombatSimulation F) : Prop where
  queues : ∀ id, s.fireQueueByPlayer.find id = none
  pending : s.pendingProjectiles = []
  alive : ∀ id state, s.playersById.find id = some state → state.alive = true

/-- Whoever becomes known before the match is unharmed. -/
theorem Unharmed.ensurePlayer {s : CombatSimulation F} (h : s.Unharmed) (playerId : Nat) :
    (s.ensurePlayer playerId).Unharmed := by
  refine ⟨h.queues, h.pending, fun id state hFind => ?_⟩
  rw [find_ensurePlayer] at hFind
  split at hFind
  · cases hOld : s.playersById.find playerId with
    | none =>
        rw [hOld] at hFind
        injection hFind with hNew
        rw [← hNew]
        rfl
    | some old =>
        rw [hOld] at hFind
        injection hFind with hSame
        exact hSame ▸ h.alive playerId old hOld
  · exact h.alive id state hFind

theorem Unharmed.removePlayer {s : CombatSimulation F} (h : s.Unharmed) (playerId : Nat) :
    (s.removePlayer playerId).Unharmed := by
  unfold CombatSimulation.removePlayer
  refine ⟨fun id => ?_, ?_, fun id state hFind => ?_⟩
  · dsimp only
    rw [UnorderedMap.find_erase, h.queues, ite_self]
  · dsimp only
    rw [h.pending]
    rfl
  · dsimp only at hFind
    rw [UnorderedMap.find_erase] at hFind
    split at hFind
    · cases hFind
    · exact h.alive id state hFind

/-- A tick without shots and projectiles hurts nobody. -/
theorem Unharmed.resolveTick {s : CombatSimulation F} (h : s.Unharmed) (tick : Nat)
    (tickInterval : Int) : (s.resolveTick tick tickInterval).2.Unharmed := by
  have hFires : s.fireQueueByPlayer.drain.1 = [] := by
    rw [List.eq_nil_iff_forall_not_mem]
    intro fire hFire
    obtain ⟨id, queue, hFind, -⟩ := CommandQueues.mem_drain hFire
    rw [h.queues] at hFind
    cases hFind
  have hLanded : s.resolveProjectiles tick {} = ({}, { s with pendingProjectiles := [] }) := by
    unfold resolveProjectiles
    rw [h.pending]
    rfl
  have hDrained : ({ s with pendingProjectiles := [] } : CombatSimulation F).drainFireCommands =
      ([], { s with
        pendingProjectiles := []
        fireQueueByPlayer := s.fireQueueByPlayer.drain.2 }) := by
    unfold drainFireCommands
    dsimp only
    rw [hFires]
    rfl
  have hTick : (s.resolveTick tick tickInterval).2 =
      { s with pendingProjectiles := [], fireQueueByPlayer := s.fireQueueByPlayer.drain.2 } := by
    unfold CombatSimulation.resolveTick
    rw [hLanded]
    dsimp only
    rw [hDrained]
    rfl
  rw [hTick]
  exact ⟨fun id => CommandQueues.find_drain_none (h.queues id), rfl, h.alive⟩

end CombatSimulation

namespace MatchLifecycleSimulation

/-- Whoever waits or is out is marked dead, and whoever is marked dead does not live. -/
structure DeathsBind (s : MatchLifecycleSimulation) (combat : CombatSimulation F) : Prop where
  waiting : ∀ id, (s.standing id).pendingRespawnTick ≠ none → s.markedAlive id = false
  out : ∀ id, (s.standing id).eliminated = true → s.markedAlive id = false
  dead : ∀ id, s.markedAlive id = false → combat.aliveIn id = false

/-- A tick in play next to the combat that it reads: before, after the fights, and after the
respawns of the match. -/
structure LivesTick (s t : MatchLifecycleSimulation) (before fought after : CombatSimulation F)
    (record : TickRecord) : Prop where
  plays : Plays s t record
  died : ∀ id, Died record.deathEvents id ↔ before.aliveIn id = true ∧ fought.aliveIn id = false
  stays : ∀ id, fought.aliveIn id = true → before.aliveIn id = true
  revived : ∀ id, after.aliveIn id =
    (fought.aliveIn id || record.result.respawnedPlayers.contains id)
  known : ∀ id, after.knows id = true → before.knows id = true ∧ fought.knows id = true
  marked : ∀ id, t.markedAlive id =
    if id ∈ record.result.respawnedPlayers then true
    else if Died record.deathEvents id then false
    else if s.phase = .preMatch then true
    else if fought.knows id = true ∧ (s.standing id).pendingRespawnTick = none then
      fought.aliveIn id
    else s.markedAlive id

/-- A player may be made known if it is known or the match holds it alive. -/
theorem DeathsBind.ensurePlayer {lifecycle : MatchLifecycleSimulation} {combat : CombatSimulation F}
    (h : DeathsBind lifecycle combat) {playerId : Nat}
    (hReturns : combat.knows playerId = true ∨ lifecycle.markedAlive playerId = true) :
    DeathsBind (lifecycle.ensurePlayer playerId) (combat.ensurePlayer playerId) := by
  refine ⟨fun id hPending => ?_, fun id hOut => ?_, fun id hMarked => ?_⟩
  · rw [standing_ensurePlayer] at hPending
    rw [markedAlive_ensurePlayer]
    exact h.waiting id hPending
  · rw [standing_ensurePlayer] at hOut
    rw [markedAlive_ensurePlayer]
    exact h.out id hOut
  · rw [markedAlive_ensurePlayer] at hMarked
    rw [CombatSimulation.aliveIn_ensurePlayer, h.dead id hMarked, Bool.false_or]
    rcases hReturns with hKnown | hAlive
    · rw [hKnown, Bool.not_true, Bool.and_false]
    · rw [beq_false_of_ne, Bool.false_and]
      rintro rfl
      rw [hAlive] at hMarked
      cases hMarked

section LivesTick

variable {s t : MatchLifecycleSimulation} {before fought after : CombatSimulation F}
  {record : TickRecord}

/-- A tick with deaths is a tick of the match. -/
theorem LivesTick.phase (h : LivesTick s t before fought after record) (hIn : s.phase ≠ .preMatch) :
    s.phase = .inMatch := by
  have hOpen := h.plays.inPlay.1
  rw [h.plays.startPhase] at hOpen
  cases hPhase : s.phase with
  | preMatch => exact absurd hPhase hIn
  | inMatch => rfl
  | postMatch => exact absurd hPhase hOpen

/-- Nobody comes back to life while the shots of a tick are resolved. -/
theorem LivesTick.not_alive (h : LivesTick s t before fought after record) {id : Nat}
    (hDead : before.aliveIn id = false) : fought.aliveIn id = false := by
  rw [Bool.eq_false_iff]
  intro hAlive
  rw [h.stays id hAlive] at hDead
  cases hDead

/-- The marked stay marked unless they respawn. -/
theorem LivesTick.marked_stays (h : LivesTick s t before fought after record)
    (hBind : s.phase = .inMatch → DeathsBind s before) {id : Nat} (hIn : s.phase ≠ .preMatch)
    (hMarked : s.markedAlive id = false)
    (hStays : id ∉ record.result.respawnedPlayers) : t.markedAlive id = false := by
  have hDead := h.not_alive ((hBind (h.phase hIn)).dead id hMarked)
  rw [h.marked, if_neg hStays, if_neg hIn, hDead, hMarked, ite_self, ite_self]

/-- Nobody who waits or is out after the deaths was alive in the match and survived. -/
theorem LivesTick.marked_of_buried (h : LivesTick s t before fought after record)
    (hBind : s.phase = .inMatch → DeathsBind s before) {id : Nat}
    (hStays : id ∉ record.result.respawnedPlayers)
    (hBuried : (s.buried record id).pendingRespawnTick ≠ none ∨
      (s.buried record id).eliminated = true) : t.markedAlive id = false := by
  by_cases hDied : Died record.deathEvents id
  · rw [h.marked, if_neg hStays, if_pos hDied]
  · have hSame : s.buried record id = s.entering id := by
      unfold buried Standing.dieIf
      rw [if_neg hDied]
    rw [hSame, entering] at hBuried
    by_cases hPre : s.phase = .preMatch
    · rw [if_pos hPre] at hBuried
      rcases hBuried with hPending | hOut
      · exact absurd rfl hPending
      · cases hOut
    · rw [if_neg hPre] at hBuried
      have hDeaths := hBind (h.phase hPre)
      apply h.marked_stays hBind hPre _ hStays
      rcases hBuried with hPending | hOut
      · exact hDeaths.waiting id hPending
      · exact hDeaths.out id hOut

/-- Over a tick the match and the combat keep agreeing on who is dead. -/
theorem LivesTick.deathsBind (h : LivesTick s t before fought after record)
    (hBind : s.phase = .inMatch → DeathsBind s before) : DeathsBind t after := by
  refine ⟨fun id hPending => ?_, fun id hOut => ?_, fun id hMarked => ?_⟩
  · rw [h.plays.standing] at hPending
    obtain ⟨pending, hPending⟩ := Option.ne_none_iff_exists'.mp hPending
    obtain ⟨hEarly, hBuried⟩ := Standing.pending_revive hPending
    apply h.marked_of_buried hBind
    · intro hRespawned
      rw [((h.plays.respawned id).mp hRespawned).1] at hEarly
      cases hEarly
    · exact Or.inl (hBuried ▸ Option.some_ne_none pending)
  · have hBuried : (s.buried record id).eliminated = true := by
      rw [h.plays.standing] at hOut
      unfold Standing.revive at hOut
      split at hOut
      · exact hOut
      · exact hOut
    apply h.marked_of_buried hBind _ (Or.inr hBuried)
    intro hRespawned
    rw [((h.plays.respawned id).mp hRespawned).2] at hBuried
    cases hBuried
  · rw [h.marked] at hMarked
    by_cases hRespawned : id ∈ record.result.respawnedPlayers
    · rw [if_pos hRespawned] at hMarked
      cases hMarked
    · rw [if_neg hRespawned] at hMarked
      have hSame : after.aliveIn id = fought.aliveIn id := by
        rw [h.revived, List.contains_eq_mem, decide_eq_false hRespawned, Bool.or_false]
      rw [hSame]
      split at hMarked
      · rename_i hDied
        exact ((h.died id).mp hDied).2
      · split at hMarked
        · cases hMarked
        · rename_i hPre
          split at hMarked
          · exact hMarked
          · exact h.not_alive ((hBind (h.phase hPre)).dead id hMarked)

/-- Whoever lies dead after the tick is marked. -/
theorem LivesTick.marked_of_dead (h : LivesTick s t before fought after record)
    (hAlive : s.phase = .preMatch → before.Unharmed)
    (hBind : s.phase = .inMatch → DeathsBind s before) {id : Nat} (hKnown : after.knows id = true)
    (hDead : after.aliveIn id = false) : t.markedAlive id = false := by
  rw [h.revived, Bool.or_eq_false_iff, List.contains_eq_mem, decide_eq_false_iff_not] at hDead
  obtain ⟨hFought, hStays⟩ := hDead
  obtain ⟨hBefore, hListed⟩ := h.known id hKnown
  rw [h.marked, if_neg hStays]
  by_cases hDied : Died record.deathEvents id
  · rw [if_pos hDied]
  · have hLay : before.aliveIn id = false := by
      rw [Bool.eq_false_iff]
      exact fun hLived => hDied ((h.died id).mpr ⟨hLived, hFought⟩)
    have hPre : s.phase ≠ .preMatch := by
      intro hPre
      obtain ⟨state, hFind⟩ := Option.isSome_iff_exists.mp hBefore
      rw [CombatSimulation.aliveIn, hFind, Option.any_some,
        (hAlive hPre).alive id state hFind] at hLay
      cases hLay
    rw [if_neg hDied, if_neg hPre]
    by_cases hPending : (s.standing id).pendingRespawnTick = none
    · rw [if_pos ⟨hListed, hPending⟩, hFought]
    · rw [if_neg (fun hBoth => hPending hBoth.2)]
      exact (hBind (h.phase hPre)).waiting id hPending

end LivesTick

end MatchLifecycleSimulation

namespace CombatSimulation

/-- The snapshot as the match reads it. -/
theorem KeyedById.mem_snapshot_iff {s : CombatSimulation F} (h : s.KeyedById) :
    (∀ state ∈ s.snapshot, state.alive = s.aliveIn state.playerId) ∧
      ∀ id, (∃ state ∈ s.snapshot, state.playerId = id) ↔ s.knows id = true := by
  refine ⟨fun state hState => ?_, fun id => ⟨?_, fun hKnown => ?_⟩⟩
  · obtain ⟨id, hFind⟩ := mem_snapshot.mp hState
    rw [h id state hFind, aliveIn, hFind, Option.any_some]
  · rintro ⟨state, hState, rfl⟩
    obtain ⟨id, hFind⟩ := mem_snapshot.mp hState
    rw [h id state hFind, knows, hFind]
    rfl
  · obtain ⟨state, hFind⟩ := Option.isSome_iff_exists.mp hKnown
    exact ⟨state, mem_snapshot.mpr ⟨id, hFind⟩, h id state hFind⟩

end CombatSimulation

namespace MainLoop

open MatchLifecycleSimulation

/-- The match of a tick before its deaths are recorded. -/
def openedIn (s : MainLoop F) (frame : TickFrame F) : MatchLifecycleSimulation :=
  (s.matchLifecycleSimulation.openTick frame.tick s.tickInterval
    (s.sessionManager.activeSessions.map SessionView.playerId) (s.foughtIn frame).2.snapshot
    (s.lootedIn frame).2.inventorySnapshot).2.2

variable {s t : MainLoop F} {frame : TickFrame F}

/-- The fights of a tick, next to the combat before it. -/
theorem Cast.fights (h : s.Cast)
    (hInputs : ∀ input ∈ frame.inputs, s.sessionManager.Seated input.playerId) (id : Nat) :
    (Died (s.foughtIn frame).1.deathEvents id ↔
        s.combatSimulation.aliveIn id = true ∧ (s.foughtIn frame).2.aliveIn id = false) ∧
      ((s.foughtIn frame).2.aliveIn id = true → s.combatSimulation.aliveIn id = true) := by
  have hHarms := s.harms_foughtIn frame
  obtain ⟨positions, hPlaced⟩ := CombatSimulation.setPlayerPositions_of_known
    (s.movedIn frame).snapshot s.combatSimulation
    (fun state hState => (h.fighters _).mpr (h.mem_movedIn_snapshot hInputs hState))
  have hSame : (s.combatSimulation.setPlayerPositions (s.movedIn frame).snapshot).aliveIn id =
      s.combatSimulation.aliveIn id := by
    rw [hPlaced]
    rfl
  rw [← hSame]
  exact ⟨hHarms.death_iff id, hHarms.dead_stays id⟩

/-- The tick of the loop while the match is in play. -/
theorem Cast.livesTick (h : s.Cast)
    (hInputs : ∀ input ∈ frame.inputs, s.sessionManager.Seated input.playerId)
    (hPlays : (s.openedIn frame).phase = .inMatch) :
    LivesTick s.matchLifecycleSimulation (s.playedIn frame).2 s.combatSimulation
      (s.foughtIn frame).2 (s.respawnedIn frame) (s.matchRecord frame) := by
  have hIds := (s.harms_foughtIn frame).keyed (h.fighterIds.setPlayerPositions _)
  obtain ⟨hLives, hListed⟩ := hIds.mem_snapshot_iff
  obtain ⟨hFighters, -, -⟩ := h.fighters_respawnedIn hInputs
  unfold openedIn at hPlays
  constructor
  · unfold playedIn matchRecord playedIn
    exact s.matchLifecycleSimulation.plays_resolveTick frame.tick s.tickInterval
      (s.sessionManager.activeSessions.map SessionView.playerId) (s.foughtIn frame).2.snapshot
      (s.foughtIn frame).1.deathEvents (s.lootedIn frame).2.inventorySnapshot hPlays
  · rw [deathEvents_matchRecord]
    exact fun id => (h.fights hInputs id).1
  · exact fun id => (h.fights hInputs id).2
  · rw [result_matchRecord]
    exact CombatSimulation.aliveIn_respawnPlayers _ _
  · intro id hKnown
    have hSeated := (hFighters id).mp hKnown
    exact ⟨(h.fighters id).mpr hSeated, (h.knows_foughtIn hInputs id).mpr hSeated⟩
  · intro id
    have hMarked := s.matchLifecycleSimulation.markedAlive_resolveTick frame.tick s.tickInterval
      (s.sessionManager.activeSessions.map SessionView.playerId) (s.foughtIn frame).1.deathEvents
      (s.lootedIn frame).2.inventorySnapshot hLives id hPlays
    simp only [hListed] at hMarked
    rw [deathEvents_matchRecord, result_matchRecord]
    unfold playedIn
    exact hMarked

/-- The tick of the loop while the match is not in play. -/
theorem idles_playedIn (s : MainLoop F) (frame : TickFrame F)
    (hIdle : (s.openedIn frame).phase ≠ .inMatch) :
    s.matchLifecycleSimulation.phase ≠ .inMatch ∧
      (s.playedIn frame).2.phase = s.matchLifecycleSimulation.phase ∧
      s.respawnedIn frame = (s.foughtIn frame).2 := by
  unfold openedIn at hIdle
  have hResult : (s.matchRecord frame).result = (s.matchLifecycleSimulation.resolveTick frame.tick
      s.tickInterval (s.sessionManager.activeSessions.map SessionView.playerId)
      (s.foughtIn frame).2.snapshot (s.foughtIn frame).1.deathEvents
      (s.lootedIn frame).2.inventorySnapshot).1 := by
    rw [result_matchRecord, playedIn]
  have hIdles := s.matchLifecycleSimulation.idles_resolveTick frame.tick s.tickInterval
    (s.sessionManager.activeSessions.map SessionView.playerId) (s.foughtIn frame).2.snapshot
    (s.foughtIn frame).1.deathEvents (s.lootedIn frame).2.inventorySnapshot hIdle hResult
  have hNobody : (s.playedIn frame).1.respawnedPlayers = [] := by
    rw [List.eq_nil_iff_forall_not_mem]
    intro id
    have hNone := hIdles.nobody id
    rwa [respawns_ticked, List.count_eq_zero, result_matchRecord] at hNone
  refine ⟨fun hIn => hIdle ?_, hIdles.phase, ?_⟩
  · exact (s.matchLifecycleSimulation.phase_openTick _ _ _ _ _).mpr (Or.inl hIn)
  · rw [respawnedIn, hNobody]
    rfl

/-- What binds the dead between the deeds of the loop. -/
structure Mortal (s : MainLoop F) : Prop where
  before : s.matchLifecycleSimulation.phase = .preMatch → s.combatSimulation.Unharmed
  during : s.matchLifecycleSimulation.phase = .inMatch →
    DeathsBind s.matchLifecycleSimulation s.combatSimulation

/-- At the start nobody is known, so nobody is dead. -/
theorem mortal_create (setup : ServerSetup F) : (create setup).Mortal where
  before _ := ⟨fun id => UnorderedMap.find_empty id, rfl, fun _ _ hFind => by cases hFind⟩
  during hPhase := by cases hPhase

/-- Before the match a tick harms nobody, since no shot waits and no projectile is in flight. -/
theorem Cast.unharmed_foughtIn (h : s.Cast)
    (hInputs : ∀ input ∈ frame.inputs, s.sessionManager.Seated input.playerId)
    (hBefore : s.combatSimulation.Unharmed) : (s.foughtIn frame).2.Unharmed := by
  obtain ⟨positions, hPlaced⟩ := CombatSimulation.setPlayerPositions_of_known
    (s.movedIn frame).snapshot s.combatSimulation
    (fun state hState => (h.fighters _).mpr (h.mem_movedIn_snapshot hInputs hState))
  unfold foughtIn
  apply CombatSimulation.Unharmed.resolveTick
  rw [hPlaced]
  exact ⟨hBefore.queues, hBefore.pending, hBefore.alive⟩

/-- A tick of the loop keeps the deaths binding. -/
theorem Mortal.tick (h : s.Mortal) (hCast : s.Cast)
    (hInputs : ∀ input ∈ frame.inputs, s.sessionManager.Seated input.playerId)
    (hTicked : s.Ticked frame t) : t.Mortal := by
  by_cases hPlays : (s.openedIn frame).phase = .inMatch
  · have hLives := hCast.livesTick hInputs hPlays
    constructor
    · rw [hTicked.matchLifecycleSimulation]
      exact fun hPhase => absurd hPhase hLives.plays.endPhase
    · rw [hTicked.matchLifecycleSimulation, hTicked.combatSimulation]
      exact fun _ => hLives.deathsBind h.during
  · obtain ⟨hOut, hPhase, hSame⟩ := s.idles_playedIn frame hPlays
    constructor
    · rw [hTicked.matchLifecycleSimulation, hTicked.combatSimulation, hPhase, hSame]
      exact fun hPre => hCast.unharmed_foughtIn hInputs (h.before hPre)
    · rw [hTicked.matchLifecycleSimulation, hPhase]
      exact fun hIn => absurd hIn hOut

/-- So does a join, if the joining player does not come back from the dead by it. -/
theorem Mortal.ensurePlayer (h : s.Mortal) (sessions : SessionManager) {playerId : Nat}
    (hReturns : s.combatSimulation.knows playerId = true ∨
      (s.matchLifecycleSimulation.phase = .inMatch →
        s.matchLifecycleSimulation.markedAlive playerId = true)) :
    ({ s with sessionManager := sessions }.ensurePlayer playerId).Mortal where
  before hPhase := (h.before hPhase).ensurePlayer playerId
  during hPhase := (h.during hPhase).ensurePlayer (hReturns.imp_right fun hAlive => hAlive hPhase)

/-- Whoever leaves is not known to the combat any more. -/
theorem Mortal.leave (h : s.Mortal) (peerToken : PeerToken) (playerId : Nat) :
    (s.leave peerToken playerId).Mortal where
  before hPhase := (h.before hPhase).removePlayer playerId
  during hPhase := by
    have hDeaths := h.during hPhase
    have hStanding := s.matchLifecycleSimulation.standing_removePlayer playerId
    have hMarks := s.matchLifecycleSimulation.markedAlive_removePlayer playerId
    change DeathsBind (s.matchLifecycleSimulation.removePlayer playerId)
      (s.combatSimulation.removePlayer playerId)
    refine ⟨fun id hPending => ?_, fun id hOut => ?_, fun id hMarked => ?_⟩
    · rw [hMarks]
      apply hDeaths.waiting id
      rw [hStanding] at hPending
      split at hPending
      · exact absurd rfl hPending
      · exact hPending
    · rw [hMarks]
      apply hDeaths.out id
      rw [hStanding] at hOut
      split at hOut
      · exact hOut
      · exact hOut
    · rw [hMarks] at hMarked
      rw [CombatSimulation.aliveIn_removePlayer, hDeaths.dead id hMarked, Bool.and_false]

/-- The deaths depend on the match and on the lives of the players only. -/
theorem Mortal.of_players (h : s.Mortal)
    (hMatch : t.matchLifecycleSimulation = s.matchLifecycleSimulation)
    (hPlayers : s.combatSimulation.playersById.SameContents t.combatSimulation.playersById)
    (hShots : s.matchLifecycleSimulation.phase = .preMatch →
      t.combatSimulation.fireQueueByPlayer = s.combatSimulation.fireQueueByPlayer ∧
        t.combatSimulation.pendingProjectiles = s.combatSimulation.pendingProjectiles) :
    t.Mortal := by
  constructor
  · intro hPhase
    rw [hMatch] at hPhase
    obtain ⟨hQueues, hPending⟩ := hShots hPhase
    have hBefore := h.before hPhase
    refine ⟨fun id => ?_, ?_, fun id state hFind => ?_⟩
    · rw [hQueues, hBefore.queues]
    · rw [hPending, hBefore.pending]
    · exact hBefore.alive id state ((hPlayers id).trans hFind)
  · rw [hMatch]
    intro hPhase
    have hDeaths := h.during hPhase
    refine ⟨hDeaths.waiting, hDeaths.out, fun id hMarked => ?_⟩
    rw [CombatSimulation.aliveIn, ← hPlayers id]
    exact hDeaths.dead id hMarked

/-- Whoever is seated in the match is not marked dead, by an earlier stay or another owner of
its id. -/
def SeatsTheLiving (s : MainLoop F) : Deed F → Prop
  | .seated _ playerId => s.matchLifecycleSimulation.phase = .inMatch →
      s.matchLifecycleSimulation.markedAlive playerId = true
  | _ => True

/-- Every deed keeps the deaths binding, as long as it seats no dead player. -/
theorem Mortal.step {deed : Deed F} (h : s.Mortal) (hCast : s.Cast) (hStep : DeedStep s deed t)
    (hSeats : s.SeatsTheLiving deed) : t.Mortal := by
  cases hStep with
  | idle hIdles =>
      refine h.of_players hIdles.matchLifecycleSimulation hIdles.players fun _ => ?_
      rw [hIdles.combatRest]
      exact ⟨rfl, rfl⟩
  | seat peerToken playerName now playerId status hToken hNew hFree hSlot hSeat =>
      exact h.ensurePlayer _ (Or.inr hSeats)
  | rejoin peerToken playerId hSeat =>
      exact h.ensurePlayer s.sessionManager (Or.inl ((hCast.fighters playerId).mpr ⟨peerToken, hSeat⟩))
  | leave peerToken playerId hIdle hSeat => exact h.leave peerToken playerId
  | input peerToken command hSeat => exact h.of_players rfl (.refl _) fun _ => ⟨rfl, rfl⟩
  | fire peerToken command hPhase hSeat =>
      have hKnown := (hCast.fighters command.attackerId).mpr ⟨peerToken, hSeat⟩
      refine h.of_players rfl ?_ fun hPre => ?_
      · dsimp only
        rw [CombatSimulation.players_enqueueFire hKnown]
        exact .refl _
      · rw [hPhase] at hPre
        cases hPre
  | pickup peerToken command hPhase hSeat => exact h.of_players rfl (.refl _) fun _ => ⟨rfl, rfl⟩
  | advance now hIdle => exact h.of_players rfl (.refl _) fun _ => ⟨rfl, rfl⟩
  | tick frame rest hFrames =>
      exact h.tick hCast (hCast.frames frame (hFrames ▸ List.mem_cons_self))
        (s.ticked_runFrame frame rest)

/-- A new peer does not return in the match under an id whose record is marked dead. -/
def ReturnsAlive (s : MainLoop F) : LoopEvent F → Prop
  | .received peerToken (.joinRequest playerName) _ =>
      s.matchLifecycleSimulation.phase = .inMatch →
      s.sessionManager.sessionForPeer peerToken = none →
      ∀ status slot, s.sessionManager.chooseSlot playerName = .ok (status, slot) →
      ∀ record, s.matchLifecycleSimulation.playersById.find slot = some record → record.alive = true
  | _ => True

/-- The steps in which nobody returns from the dead by joining. -/
def FairStep (s : MainLoop F) (event : LoopEvent F) (t : MainLoop F) : Prop :=
  LoopStep s event t ∧ s.ReturnsAlive event

/-- A fair step of the loop is a run of such deeds. -/
theorem FairStep.deeds {event : LoopEvent F} (h : FairStep s event t)
    (hTables : s.sessionManager.TablesAgree) :
    Run (fun s deed t => DeedStep s deed t ∧ s.SeatsTheLiving deed) s (deedsOf event) t := by
  have hDeeds := run_step hTables h.1
  by_cases hSeated : ∃ peerToken playerId, .seated peerToken playerId ∈ deedsOf event
  · obtain ⟨peerToken, playerId, hMem⟩ := hSeated
    obtain ⟨hOnly, packet, result, rfl, hAccepted, hNew, rfl⟩ := seated_mem_deedsOf hMem
    rw [hOnly] at hDeeds ⊢
    refine Run.single ⟨hDeeds.of_single, fun hPhase => ?_⟩
    obtain ⟨playerName, now, rfl, rfl, -⟩ := join_step h.1
    rcases SessionManager.handleJoinRequest_seats hTables peerToken playerName now with
      ⟨hRefused, -⟩ | ⟨-, hStatus, -⟩ | ⟨-, hSlot, hFree, -⟩
    · rw [hRefused] at hAccepted
      cases hAccepted
    · exact absurd hStatus hNew
    · have hSession : s.sessionManager.sessionForPeer peerToken = none :=
        Option.map_eq_none_iff.mpr (Option.map_eq_none_iff.mp hFree)
      have hAlive := h.2 hPhase hSession _ _ hSlot
      unfold markedAlive vitals recordOf
      cases hFind : s.matchLifecycleSimulation.playersById.find
          (s.sessionManager.handleJoinRequest peerToken playerName now).1.session.playerId with
      | none => rfl
      | some record => exact hAlive record hFind
  · refine hDeeds.guard fun deed hDeed u => ?_
    cases deed with
    | seated peerToken playerId => exact absurd ⟨peerToken, playerId, hDeed⟩ hSeated
    | _ => trivial

/-- What the runs are about: everybody is known where it has a session, and deaths bind. -/
theorem FairStep.keeps {event : LoopEvent F} (h : FairStep s event t) (hCast : s.Cast)
    (hMortal : s.Mortal) : t.Cast ∧ t.Mortal :=
  (h.deeds hCast.tables).invariant (I := fun u => u.Cast ∧ u.Mortal)
    (fun _ _ _ hBoth hDeed => ⟨hBoth.1.step hDeed.1, hBoth.2.step hBoth.1 hDeed.1 hDeed.2⟩)
    ⟨hCast, hMortal⟩

/-- In a run of fair steps the deaths bind. -/
theorem fair_run {setup : ServerSetup F} {trace : List (LoopEvent F)}
    (run : Run FairStep (create setup) trace s) : s.Cast ∧ s.Mortal :=
  run.invariant (I := fun u => u.Cast ∧ u.Mortal)
    (fun _ _ _ hBoth hStep => hStep.keeps hBoth.1 hBoth.2)
    ⟨cast_create setup, mortal_create setup⟩

/-- The tick from one state to the other was spent in the match. -/
def PlayedTick (s t : MainLoop F) : Prop :=
  s.matchLifecycleSimulation.phase ≠ .postMatch ∧ t.matchLifecycleSimulation.phase ≠ .preMatch

instance (s t : MainLoop F) : Decidable (PlayedTick s t) :=
  inferInstanceAs (Decidable (_ ∧ _))

/-- At the end of a tick, those who are out do not live, and the dead live again at the end of
a later tick only if they respawned since. -/
structure DeathBinds (step : MainLoop F → LoopEvent F → MainLoop F → Prop) (s : MainLoop F) :
    Prop where
  out : ∀ playerId player, s.matchLifecycleSimulation.playersById.find playerId = some player →
    player.eliminated = true → s.combatSimulation.aliveIn playerId = false
  dead : ∀ playerId state, s.combatSimulation.stateFor playerId = some state →
    state.alive = false → ∀ trace u record v, Run step s trace u → step u (.ticked record) v →
      PlayedTick u v → v.combatSimulation.aliveIn playerId = true →
        ∃ later, .ticked later ∈ trace ++ [.ticked record] ∧
          playerId ∈ later.lifecycle.respawnedPlayers

/-- A tick of the loop in the match. -/
theorem Cast.playedTick (h : s.Cast) {record : ServerTick F}
    (hStep : DeedStep s (.ticked record) t) (hPlayed : PlayedTick s t) :
    ∃ frame, record.lifecycle = (s.playedIn frame).1 ∧
      LivesTick s.matchLifecycleSimulation t.matchLifecycleSimulation s.combatSimulation
        (s.foughtIn frame).2 t.combatSimulation (s.matchRecord frame) := by
  cases hStep with
  | tick frame rest hFrames =>
      have hInputs := h.frames frame (hFrames ▸ List.mem_cons_self)
      have hTicked := s.ticked_runFrame frame rest
      refine ⟨frame, ?_, ?_⟩
      · unfold runFrame
        dsimp only
      · rw [hTicked.matchLifecycleSimulation, hTicked.combatSimulation]
        apply h.livesTick hInputs
        by_contra hIdle
        obtain ⟨hOut, hPhase, -⟩ := s.idles_playedIn frame hIdle
        unfold PlayedTick at hPlayed
        rw [hTicked.matchLifecycleSimulation, hPhase] at hPlayed
        cases hBefore : s.matchLifecycleSimulation.phase with
        | preMatch => exact hPlayed.2 hBefore
        | inMatch => exact hOut hBefore
        | postMatch => exact hPlayed.1 hBefore

/-- Between the ticks nobody's record changes its life, and the phase stays. -/
theorem DeedStep.match_stays {deed : Deed F} (hStep : DeedStep s deed t)
    (hDeed : ∀ record, deed ≠ .ticked record) :
    t.matchLifecycleSimulation.phase = s.matchLifecycleSimulation.phase ∧
      ∀ id, t.matchLifecycleSimulation.markedAlive id =
        s.matchLifecycleSimulation.markedAlive id := by
  cases hStep with
  | idle hIdles =>
      rw [hIdles.matchLifecycleSimulation]
      exact ⟨rfl, fun _ => rfl⟩
  | seat peerToken playerName now playerId status hToken hNew hFree hSlot hSeats =>
      exact ⟨rfl, s.matchLifecycleSimulation.markedAlive_ensurePlayer playerId⟩
  | rejoin peerToken playerId hSeat =>
      exact ⟨rfl, s.matchLifecycleSimulation.markedAlive_ensurePlayer playerId⟩
  | leave peerToken playerId hIdle hSeat =>
      exact ⟨rfl, s.matchLifecycleSimulation.markedAlive_removePlayer playerId⟩
  | input peerToken command hSeat => exact ⟨rfl, fun _ => rfl⟩
  | fire peerToken command hPhase hSeat => exact ⟨rfl, fun _ => rfl⟩
  | pickup peerToken command hPhase hSeat => exact ⟨rfl, fun _ => rfl⟩
  | advance now hIdle => exact ⟨rfl, fun _ => rfl⟩
  | tick frame rest hFrames => exact absurd rfl (hDeed _)

/-- A player whose death was seen, in the deeds since. -/
structure Lies (playerId : Nat) (deeds : List (Deed F)) (s : MainLoop F) : Prop where
  cast : s.Cast
  mortal : s.Mortal
  begun : s.matchLifecycleSimulation.phase ≠ .preMatch
  marked : (∃ later, .ticked later ∈ deeds ∧ playerId ∈ later.lifecycle.respawnedPlayers) ∨
    (s.matchLifecycleSimulation.phase = .inMatch →
      s.matchLifecycleSimulation.markedAlive playerId = false)

/-- A dead player stays dead until a deed respawns it. -/
theorem Lies.step {playerId : Nat} {deeds : List (Deed F)} {deed : Deed F}
    (h : Lies playerId deeds s) (hStep : DeedStep s deed t) (hSeats : s.SeatsTheLiving deed) :
    Lies playerId (deeds ++ [deed]) t := by
  have hCast := h.cast.step hStep
  have hMortal := h.mortal.step h.cast hStep hSeats
  have hSeen : (∃ later, .ticked later ∈ deeds ∧ playerId ∈ later.lifecycle.respawnedPlayers) →
      ∃ later, .ticked later ∈ deeds ++ [deed] ∧ playerId ∈ later.lifecycle.respawnedPlayers := by
    rintro ⟨later, hMem, hRespawned⟩
    exact ⟨later, List.mem_append_left _ hMem, hRespawned⟩
  by_cases hTick : ∃ record, deed = .ticked record
  · obtain ⟨record, rfl⟩ := hTick
    by_cases hPlayed : PlayedTick s t
    · obtain ⟨frame, hResult, hLives⟩ := h.cast.playedTick hStep hPlayed
      have hIn := hLives.phase h.begun
      refine ⟨hCast, hMortal, hPlayed.2, ?_⟩
      rcases h.marked with hRespawned | hMarked
      · exact Or.inl (hSeen hRespawned)
      · by_cases hNow : playerId ∈ (s.matchRecord frame).result.respawnedPlayers
        · rw [result_matchRecord, ← hResult] at hNow
          exact Or.inl ⟨record, List.mem_append_right _ (List.mem_singleton_self _), hNow⟩
        · exact Or.inr fun _ =>
            hLives.marked_stays h.mortal.during h.begun (hMarked hIn) hNow
    · have hOver : t.matchLifecycleSimulation.phase ≠ .preMatch ∧
          t.matchLifecycleSimulation.phase ≠ .inMatch := by
        cases hStep with
        | tick frame rest hFrames =>
            have hTicked := s.ticked_runFrame frame rest
            have hCall := s.matchCall_playedIn frame
            unfold PlayedTick at hPlayed
            rw [hTicked.matchLifecycleSimulation] at hPlayed ⊢
            obtain ⟨-, hIdles | ⟨played, -, hPlays⟩⟩ := hCall.idles_or_plays
            · rw [hIdles.phase] at hPlayed ⊢
              have hPost : s.matchLifecycleSimulation.phase = .postMatch := by
                by_contra hNot
                exact hPlayed ⟨hNot, h.begun⟩
              rw [hPost]
              exact ⟨MatchPhase.noConfusion, MatchPhase.noConfusion⟩
            · have hOpen := hPlays.inPlay.1
              rw [hPlays.startPhase] at hOpen
              exact absurd ⟨hOpen, hPlays.endPhase⟩ hPlayed
      exact ⟨hCast, hMortal, hOver.1, Or.inr fun hIn => absurd hIn hOver.2⟩
  · obtain ⟨hPhase, hMarks⟩ := hStep.match_stays fun record hDeed => hTick ⟨record, hDeed⟩
    refine ⟨hCast, hMortal, hPhase ▸ h.begun, ?_⟩
    rw [hPhase, hMarks]
    exact h.marked.imp_left hSeen

/-- Over a run of fair steps, by induction on its deeds. -/
theorem lies_run {playerId : Nat} {trace : List (LoopEvent F)} (run : Run FairStep s trace t)
    (h : Lies playerId [] s) : Lies playerId (trace.flatMap deedsOf) t := by
  have hDeeds := run.refine (I := fun u => u.sessionManager.TablesAgree) (f := id)
    (fun _ _ _ hTables hStep =>
      ⟨(hStep.deeds hTables).invariant (fun _ _ _ hBefore hDeed => hDeed.1.tables hBefore) hTables,
        hStep.deeds hTables⟩) h.cast.tables
  exact hDeeds.2.history (I := Lies playerId)
    (fun _ _ _ _ hLies hDeed => hLies.step hDeed.1 hDeed.2) h

/-- In every run in which nobody returns from the dead by joining, deaths bind. -/
theorem death_binds {setup : ServerSetup F} {trace : List (LoopEvent F)} {record : ServerTick F}
    (run : Run FairStep (create setup) trace s) (hTick : FairStep s (.ticked record) t)
    (hPlayed : PlayedTick s t) : t.DeathBinds FairStep := by
  obtain ⟨hCast, hMortal⟩ := fair_run run
  have hDeed := (hTick.deeds hCast.tables).of_single.1
  obtain ⟨frame, -, hLives⟩ := hCast.playedTick hDeed hPlayed
  have hDeaths := hLives.deathsBind hMortal.during
  obtain ⟨hCast', hMortal'⟩ := hTick.keeps hCast hMortal
  constructor
  · intro id player hFind hOut
    apply hDeaths.dead id
    apply hDeaths.out id
    rw [standing_of_find hFind]
    exact hOut
  · intro id state hState hDead between u record' v hRun hLater hPlayed' hAlive
    have hFind : t.combatSimulation.playersById.find id = some state := hState
    have hMarked : t.matchLifecycleSimulation.markedAlive id = false := by
      apply hLives.marked_of_dead hMortal.before hMortal.during
      · rw [CombatSimulation.knows, hFind]
        rfl
      · rw [CombatSimulation.aliveIn, hFind]
        exact hDead
    have hLies := lies_run hRun ⟨hCast', hMortal', hPlayed.2, Or.inr fun _ => hMarked⟩
    have hDeed' := (hLater.deeds hLies.cast.tables).of_single
    obtain ⟨frame', hResult, hLives'⟩ := hLies.cast.playedTick hDeed'.1 hPlayed'
    rcases hLies.marked with ⟨later, hMem, hRespawned⟩ | hStays
    · obtain ⟨event, hEvent, hIts⟩ := List.mem_flatMap.mp hMem
      exact ⟨later, List.mem_append_left _ (ticked_mem_deedsOf hIts ▸ hEvent), hRespawned⟩
    · by_cases hNow : id ∈ (u.matchRecord frame').result.respawnedPlayers
      · rw [result_matchRecord, ← hResult] at hNow
        exact ⟨record', List.mem_append_right _ (List.mem_singleton_self _), hNow⟩
      · have hStill := hLives'.marked_stays hLies.mortal.during hLies.begun
          (hStays (hLives'.phase hLies.begun)) hNow
        rw [(hLives'.deathsBind hLies.mortal.during).dead id hStill] at hAlive
        cases hAlive

/-- Three players, of whom nobody may respawn. -/
def trio : ServerSetup ℚ :=
  { duel with
    weapons := [{ id := Bytes.ofString "rifle", type := Bytes.ofString "hitscan", damage := 100,
                  rangeUnits := 10 }]
    lifecycle := { preMatchTicks := 1, respawnsPerPlayer := 0 } }

/-- They join and the match starts. -/
def trioStarted : MainLoop ℚ :=
  ((((((create trio).receive 101 (.joinRequest SessionManager.alpha) 0).2.receive 102
    (.joinRequest SessionManager.bravo) 0).2.receive 103 (.joinRequest [0x63]) 0).2.advance
      33333333).tickNext)

/-- The first of them shoots the second. -/
def trioShot : MainLoop ℚ :=
  (trioStarted.receive 101 (.message (.weaponFire (some
    { attackerId := 1, shotSeq := 1, weaponId := Bytes.ofString "rifle", directionX := 1 }))) 0).2

def trioOut : MainLoop ℚ := (trioShot.advance 66666666).tickNext

/-- The second leaves and returns. -/
def trioBack : MainLoop ℚ :=
  ((trioOut.disconnect 102).2.receive 102 (.joinRequest SessionManager.bravo) 0).2

/-- They joined before the match, and nobody has left yet. -/
theorem run_trioShot : ∃ trace, Run FairStep (create trio) trace trioShot := by
  have hAlpha := (Run.nil (create trio)).snoc (show FairStep _ _ _ from
    ⟨LoopStep.receive _ 101 (.joinRequest SessionManager.alpha) 0 rfl (by decide),
      fun hPhase => absurd hPhase (by decide)⟩)
  have hBravo := hAlpha.snoc (show FairStep _ _ _ from
    ⟨LoopStep.receive _ 102 (.joinRequest SessionManager.bravo) 0 rfl (by decide),
      fun hPhase => absurd hPhase (by decide)⟩)
  have hThird := hBravo.snoc (show FairStep _ _ _ from
    ⟨LoopStep.receive _ 103 (.joinRequest [0x63]) 0 rfl (by decide),
      fun hPhase => absurd hPhase (by decide)⟩)
  have hDue := hThird.snoc (show FairStep _ _ _ from ⟨LoopStep.advance _ 33333333 rfl, trivial⟩)
  obtain ⟨first, hFirst⟩ := step_tickNext (s := MainLoop.advance (MainLoop.receive (MainLoop.receive
    (MainLoop.receive (create trio) 101 (.joinRequest SessionManager.alpha) 0).2 102
      (.joinRequest SessionManager.bravo) 0).2 103 (.joinRequest [0x63]) 0).2 33333333)
    (by decide +kernel)
  have hStarted := hDue.snoc (show FairStep _ _ _ from ⟨hFirst, trivial⟩)
  exact ⟨_, hStarted.snoc ⟨.receive trioStarted 101 (.message (.weaponFire (some
    { attackerId := 1, shotSeq := 1, weaponId := Bytes.ofString "rifle", directionX := 1 }))) 0
    (List.isEmpty_iff.mp (by decide +kernel)) (by decide), trivial⟩⟩

/-- Who is shot and may not respawn stays dead while nobody returns. -/
theorem death_binds_trio : trioOut.DeathBinds FairStep ∧
    (trioOut.matchLifecycleSimulation.playersById.find 2).any (·.eliminated) = true ∧
      trioOut.combatSimulation.aliveIn 2 = false := by
  obtain ⟨trace, run⟩ := run_trioShot
  have hNext := run.snoc (show FairStep _ _ _ from
    ⟨.advance trioShot 66666666 (List.isEmpty_iff.mp (by decide +kernel)), trivial⟩)
  obtain ⟨record, hTick⟩ := step_tickNext (s := trioShot.advance 66666666) (by decide +kernel)
  have hBinds := death_binds hNext ⟨hTick, trivial⟩ (by decide +kernel)
  have hFound : (trioOut.matchLifecycleSimulation.playersById.find 2).any (·.eliminated) = true := by
    decide +kernel
  obtain ⟨player, hFind, hOut⟩ := (Option.any_eq_true _ _).mp hFound
  exact ⟨hBinds, hFound, hBinds.out 2 player hFind hOut⟩

/-- The run of three players in which one is shot, leaves and comes back. -/
theorem run_trioBack : ∃ trace, Run LoopStep (create trio) trace trioBack := by
  obtain ⟨trace, hFair⟩ := run_trioShot
  have run := hFair.mono fun _ _ _ hStep => hStep.1
  have hNext := run.snoc (.advance trioShot 66666666 (List.isEmpty_iff.mp (by decide +kernel)))
  obtain ⟨second, hSecond⟩ := step_tickNext (s := trioShot.advance 66666666) (by decide +kernel)
  have hLeft := (hNext.snoc hSecond).snoc
    (.disconnect trioOut 102 (List.isEmpty_iff.mp (by decide +kernel)))
  exact ⟨_, hLeft.snoc (.receive _ 102 (.joinRequest SessionManager.bravo) 0
    (List.isEmpty_iff.mp (by decide +kernel)) (by decide))⟩

/-- An eliminated player leaves, returns under the same name, and lives in the next tick. -/
theorem eliminated_player_returns :
    ¬ ∀ (setup : ServerSetup ℚ) (trace : List (LoopEvent ℚ)) (s t : MainLoop ℚ)
      (record : ServerTick ℚ), Run LoopStep (create setup) trace s →
        LoopStep s (.ticked record) t → PlayedTick s t → t.DeathBinds LoopStep := by
  intro hClaim
  obtain ⟨trace, run⟩ := run_trioBack
  obtain ⟨record, hTick⟩ := step_tickNext (s := trioBack.advance 100000000) (by decide +kernel)
  have hBinds := hClaim trio _ _ _ record
    (run.snoc (.advance trioBack 100000000 (List.isEmpty_iff.mp (by decide +kernel)))) hTick
    (by decide +kernel)
  have hFound : ((trioBack.advance 100000000).tickNext.matchLifecycleSimulation.playersById.find
      2).any (·.eliminated) = true := by decide +kernel
  obtain ⟨player, hFind, hOut⟩ := (Option.any_eq_true _ _).mp hFound
  have hDead := hBinds.out 2 player hFind hOut
  have hAlive : (trioBack.advance 100000000).tickNext.combatSimulation.aliveIn 2 = true := by
    decide +kernel
  rw [hAlive] at hDead
  cases hDead

end MainLoop

end DevyFps.Server
