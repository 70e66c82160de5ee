import DevyFps.Server.MatchHistory
import Mathlib.Data.List.DropRight

/-! The countdown before a match: the match starts in the first tick that ends a block of
consecutive ticks with enough players. -/

namespace DevyFps.Server

open Foundations

/-- How many players the lists of the tick name, each of them counted once. -/
def TickCall.players (call : TickCall) : Nat :=
  (call.activePlayerIds ++ call.combatStates.map PlayerCombatState.playerId ++
    call.inventorySummaries.map InventorySummary.playerId).toFinset.card

def MatchAction.tick? : MatchAction → Option TickCall
  | .ensurePlayer _ => none
  | .removePlayer _ => none
  | .resolveTick call => some call

/-- The last `count` ticks of the history all name at least `least` players. -/
def EndsBlock (least count : Nat) (actions : List MatchAction) : Prop :=
  ∃ earlier block, actions.filterMap MatchAction.tick? = earlier ++ block ∧
    block.length = count ∧ ∀ call ∈ block, least ≤ call.players

/-- How many of the last ticks in a row name at least `least` players. -/
def streak (least : Nat) (actions : List MatchAction) : Nat :=
  ((actions.filterMap MatchAction.tick?).rtakeWhile fun call => least ≤ call.players).length

section Blocks

variable {least count : Nat} {actions : List MatchAction}

theorem le_length_rtakeWhile {α : Type} {p : α → Bool} (earlier : List α) {block : List α}
    (h : ∀ a ∈ block, p a = true) : block.length ≤ ((earlier ++ block).rtakeWhile p).length := by
  induction block using List.reverseRecOn with
  | nil => exact Nat.zero_le _
  | append_singleton block last ih =>
      have hLast := h last (List.mem_append_right _ (List.mem_singleton_self last))
      have hBlock := ih fun a ha => h a (List.mem_append_left _ ha)
      rw [← List.append_assoc, List.rtakeWhile_concat_pos _ _ _ hLast, List.length_append,
        List.length_append]
      exact Nat.add_le_add_right hBlock _

/-- A block of ticks with enough players, as a streak. -/
theorem endsBlock_iff : EndsBlock least count actions ↔ count ≤ streak least actions := by
  constructor
  · rintro ⟨earlier, block, hSplit, rfl, hBlock⟩
    unfold streak
    rw [hSplit]
    exact le_length_rtakeWhile earlier fun call hCall => decide_eq_true (hBlock call hCall)
  · intro hCount
    obtain ⟨earlier, hSplit⟩ := List.rtakeWhile_suffix (fun call : TickCall =>
      decide (least ≤ call.players)) (actions.filterMap MatchAction.tick?)
    generalize hTail : ((actions.filterMap MatchAction.tick?).rtakeWhile fun call =>
      decide (least ≤ call.players)) = tail at hSplit
    have hLength : count ≤ tail.length := by
      unfold streak at hCount
      rwa [hTail] at hCount
    refine ⟨earlier ++ tail.take (tail.length - count), tail.drop (tail.length - count), ?_, ?_, ?_⟩
    · rw [List.append_assoc, List.take_append_drop, hSplit]
    · rw [List.length_drop]
      omega
    · intro call hCall
      have hMem := List.mem_of_mem_drop hCall
      rw [← hTail] at hMem
      exact of_decide_eq_true (List.mem_rtakeWhile_imp
        (p := fun call : TickCall => decide (least ≤ call.players)) hMem)

/-- Only a tick counts. -/
theorem streak_called {action : MatchAction} (h : action.tick? = none) :
    streak least (actions ++ [action]) = streak least actions := by
  unfold streak
  rw [List.filterMap_append, List.filterMap_cons_none h, List.filterMap_nil, List.append_nil]

/-- A tick with too few players ends the streak. -/
theorem streak_ticked (call : TickCall) :
    streak least (actions ++ [.resolveTick call]) =
      if least ≤ call.players then streak least actions + 1 else 0 := by
  have hTick : MatchAction.tick? (.resolveTick call) = some call := rfl
  unfold streak
  rw [List.filterMap_append, List.filterMap_cons_some hTick, List.filterMap_nil]
  by_cases hEnough : least ≤ call.players
  · rw [if_pos hEnough, List.rtakeWhile_concat_pos
      (fun call : TickCall => decide (least ≤ call.players)) _ _ (decide_eq_true hEnough), List.length_append]
    rfl
  · rw [if_neg hEnough, List.rtakeWhile_concat_neg _ _ _ (by simpa using hEnough)]
    rfl

end Blocks

namespace MatchLifecycleSimulation

/-- The countdown of the call starts the match: `enter_in_match`. -/
def Enters (s : MatchLifecycleSimulation) (call : TickCall) : Prop :=
  s.phase ≠ .inMatch ∧ (s.openWith call).2.2.phase = .inMatch

variable {s : MatchLifecycleSimulation}

/-- A tick enters the match if enough players are there and the countdown is over. -/
theorem enters_iff (call : TickCall) :
    s.Enters call ↔ s.phase = .preMatch ∧ s.config.minPlayersToStart ≤ call.players ∧
      s.preMatchTicksRemaining ≤ 1 := by
  have hOpen := s.phase_openTick call.tick call.tickInterval call.activePlayerIds
    call.combatStates call.inventorySummaries
  rw [starts_observe] at hOpen
  unfold Enters openWith
  rw [hOpen]
  constructor
  · rintro ⟨hOut, hIn | hStarts⟩
    · exact absurd hIn hOut
    · exact hStarts
  · intro hStarts
    refine ⟨?_, Or.inr hStarts⟩
    rw [hStarts.1]
    exact MatchPhase.noConfusion

/-- While the match waits, a tick with enough players counts down and another one starts
the countdown again. -/
theorem ticksRemaining_countDown (hPre : s.phase = .preMatch) (hWaits : ¬ s.Starts) (tick : Nat) :
    (s.countDown tick).2.2.preMatchTicksRemaining =
      if s.config.minPlayersToStart ≤ s.connectedCount then s.preMatchTicksRemaining - 1
      else s.config.preMatchTicks := by
  unfold countDown
  rw [if_neg (not_not.mpr hPre)]
  by_cases hEnough : s.config.minPlayersToStart ≤ s.connectedCount
  · have hMore : ¬ s.preMatchTicksRemaining - 1 = 0 := fun hZero =>
      hWaits ⟨hPre, hEnough, by omega⟩
    rw [if_neg (not_lt.mpr hEnough), if_pos hEnough]
    dsimp only
    rw [if_neg hMore]
  · rw [if_pos (not_le.mp hEnough), if_neg hEnough]

/-- A tick that does not start the match leaves it waiting. -/
theorem tickWith_waits (hPre : s.phase = .preMatch) {call : TickCall} (hWaits : ¬ s.Enters call) :
    (s.tickWith call).2.phase = .preMatch ∧
      (s.tickWith call).2.preMatchTicksRemaining =
        if s.config.minPlayersToStart ≤ call.players then s.preMatchTicksRemaining - 1
        else s.config.preMatchTicks := by
  have hObserve := s.sameClock_observeWith call
  have hStays : ¬ (s.observeWith call).Starts := by
    unfold observeWith
    rw [starts_observe]
    exact fun hStarts => hWaits ((enters_iff call).mpr hStarts)
  have hPhase : (s.openWith call).2.2.phase = .preMatch :=
    (s.phase_openTick_of_waits call.tick call.tickInterval call.activePlayerIds call.combatStates
      call.inventorySummaries hStays).trans hPre
  have hTicks : (s.openWith call).2.2.preMatchTicksRemaining =
      ((s.observeWith call).countDown call.tick).2.2.preMatchTicksRemaining := by
    obtain ⟨-, _, _, hClock, -⟩ := ((s.observeWith call).countDown call.tick).2.2.runClock_spec
      call.tickInterval ((s.observeWith call).countDown call.tick).2.1
    change (((s.observeWith call).countDown call.tick).2.2.runClock call.tickInterval
      ((s.observeWith call).countDown call.tick).2.1).2.preMatchTicksRemaining = _
    rw [hClock]
  have hPlay := s.sameClock_playWith call
  have hSame : (s.tickWith call).2 = (s.playWith call).2 := by
    rcases s.tickWith_cases call with ⟨hIn, -⟩ | ⟨-, hSame⟩
    · rw [hPlay.phase_eq, hPhase] at hIn
      cases hIn
    · exact hSame
  have hCount : (s.observeWith call).connectedCount = call.players :=
    s.connectedCount_observe call.activePlayerIds call.combatStates call.inventorySummaries
  rw [hSame]
  refine ⟨hPlay.phase_eq.trans hPhase, ?_⟩
  rw [hPlay, hTicks, ticksRemaining_countDown (hObserve.phase_eq.trans hPre) hStays, hCount,
    hObserve.config_eq, hObserve]

/-- A tick that starts the match leaves the countdown behind. -/
theorem tickWith_enters {call : TickCall} (h : s.Enters call) :
    (s.tickWith call).2.phase ≠ .preMatch := by
  have hPlayed : (s.playWith call).2.phase = .inMatch :=
    (s.sameClock_playWith call).phase_eq.trans h.2
  rcases s.tickWith_cases call with ⟨-, -, winner, hEnd⟩ | ⟨-, hSame⟩
  · rw [hEnd]
    exact MatchPhase.noConfusion
  · rw [hSame, hPlayed]
    exact MatchPhase.noConfusion

/-- A match with the full countdown before it: a fresh one, or one that was reset. -/
structure Waits (config : MatchLifecycleConfig) (s : MatchLifecycleSimulation) : Prop where
  config_eq : s.config = sanitizeConfig config
  phase : s.phase = .preMatch
  ticks : s.preMatchTicksRemaining = s.config.preMatchTicks

/-- A new match waits for a full countdown. -/
theorem Waits.create (config : MatchLifecycleConfig) : Waits config (create config) := ⟨rfl, rfl, rfl⟩

/-- So does one after a reset. -/
theorem Waits.reset {config : MatchLifecycleConfig} (h : Reachable config s) :
    Waits config s.reset := ⟨h.config_eq, rfl, rfl⟩

/-- The ticks left of the countdown after a history. -/
def Counts (s : MatchLifecycleSimulation) (actions : List MatchAction) : Prop :=
  (s.history actions).phase = .preMatch →
    (s.history actions).preMatchTicksRemaining =
      s.config.preMatchTicks - streak s.config.minPlayersToStart actions

variable {config : MatchLifecycleConfig}

/-- While it waits the countdown is the streak; by induction on the operations. -/
theorem Waits.counts (h : Waits config s) (actions : List MatchAction) : s.Counts actions := by
  induction actions using List.reverseRecOn with
  | nil => exact fun _ => h.ticks
  | append_singleton actions action ih =>
      intro hPre
      rw [history_snoc] at hPre ⊢
      cases action with
      | ensurePlayer playerId =>
          rw [streak_called rfl]
          exact ih hPre
      | removePlayer playerId =>
          rw [streak_called rfl]
          exact ih hPre
      | resolveTick call =>
          rw [act_resolveTick] at hPre ⊢
          have hConfig := s.config_history actions
          have hBefore : (s.history actions).phase = .preMatch := by
            by_contra hStarted
            exact phase_of_started hStarted call hPre
          have hWaits : ¬ (s.history actions).Enters call := fun hEnters =>
            tickWith_enters hEnters hPre
          obtain ⟨-, hTicks⟩ := tickWith_waits hBefore hWaits
          rw [hTicks, streak_ticked, hConfig, ih hBefore]
          split
          · exact Nat.sub_sub ..
          · rfl

/-- The tick that starts the match is the one whose streak is long enough. -/
theorem Waits.enters_iff (h : Waits config s) (actions : List MatchAction) (call : TickCall) :
    (s.history actions).Enters call ↔ (s.history actions).phase = .preMatch ∧
      max 1 s.config.preMatchTicks ≤
        streak s.config.minPlayersToStart (actions ++ [.resolveTick call]) := by
  rw [MatchLifecycleSimulation.enters_iff, s.config_history, streak_ticked]
  constructor
  · rintro ⟨hPre, hEnough, hLast⟩
    rw [h.counts actions hPre] at hLast
    rw [if_pos hEnough]
    exact ⟨hPre, by omega⟩
  · rintro ⟨hPre, hLong⟩
    rw [h.counts actions hPre]
    split at hLong
    · rename_i hEnough
      exact ⟨hPre, hEnough, by omega⟩
    · omega

/-- The match waits until some streak is long enough. -/
theorem Waits.phase_history (h : Waits config s) (actions : List MatchAction) :
    (s.history actions).phase = .preMatch ↔ ∀ earlier, earlier <+: actions →
      streak s.config.minPlayersToStart earlier < max 1 s.config.preMatchTicks := by
  induction actions using List.reverseRecOn with
  | nil =>
      refine ⟨fun _ earlier hEarlier => ?_, fun _ => h.phase⟩
      rw [List.prefix_nil.mp hEarlier]
      exact Nat.lt_of_lt_of_le Nat.one_pos (Nat.le_max_left ..)
  | append_singleton actions action ih =>
      have hStep : (s.history (actions ++ [action])).phase = .preMatch ↔
          (s.history actions).phase = .preMatch ∧
            streak s.config.minPlayersToStart (actions ++ [action]) <
              max 1 s.config.preMatchTicks := by
        rw [history_snoc]
        cases action with
        | ensurePlayer playerId =>
            rw [streak_called rfl]
            exact ⟨fun hPre => ⟨hPre, ih.mp hPre actions List.prefix_rfl⟩, And.left⟩
        | removePlayer playerId =>
            rw [streak_called rfl]
            exact ⟨fun hPre => ⟨hPre, ih.mp hPre actions List.prefix_rfl⟩, And.left⟩
        | resolveTick call =>
            rw [act_resolveTick]
            constructor
            · intro hPre
              have hBefore : (s.history actions).phase = .preMatch := by
                by_contra hStarted
                exact phase_of_started hStarted call hPre
              refine ⟨hBefore, ?_⟩
              by_contra hLong
              exact tickWith_enters ((h.enters_iff actions call).mpr ⟨hBefore, not_lt.mp hLong⟩) hPre
            · rintro ⟨hBefore, hShort⟩
              have hWaits : ¬ (s.history actions).Enters call := fun hEnters =>
                absurd ((h.enters_iff actions call).mp hEnters).2 (not_le.mpr hShort)
              exact (tickWith_waits hBefore hWaits).1
      rw [hStep, ih]
      constructor
      · rintro ⟨hEarlier, hLast⟩ earlier hPrefix
        rcases List.prefix_concat_iff.mp hPrefix with rfl | hBefore
        · exact hLast
        · exact hEarlier earlier hBefore
      · intro hAll
        exact ⟨fun earlier hPrefix => hAll earlier (hPrefix.trans (List.prefix_append ..)),
          hAll _ List.prefix_rfl⟩

/-- From a fresh or a reset match, whatever is called in between: the match starts in the
first tick that ends a block of consecutive ticks, as many as the countdown has but at least
one, which all name enough players; and a tick that does not starts the countdown again. -/
theorem match_starts {config : MatchLifecycleConfig} {s : MatchLifecycleSimulation}
    (hStart : s = create config ∨ ∃ t, Reachable config t ∧ s = t.reset)
    (actions : List MatchAction) (call : TickCall) :
    let least := (sanitizeConfig config).minPlayersToStart
    let count := max 1 (sanitizeConfig config).preMatchTicks
    let waiting := s.history actions
    (waiting.Enters call ↔ EndsBlock least count (actions ++ [.resolveTick call]) ∧
      ∀ earlier, earlier <+: actions → ¬ EndsBlock least count earlier) ∧
    (waiting.phase = .preMatch ↔
      ∀ earlier, earlier <+: actions → ¬ EndsBlock least count earlier) ∧
    (waiting.phase = .preMatch → call.players < least →
      (waiting.tickWith call).2.phase = .preMatch ∧
      (waiting.tickWith call).2.preMatchTicksRemaining =
        (sanitizeConfig config).preMatchTicks) := by
  intro least count waiting
  have hWaits : Waits config s := by
    rcases hStart with rfl | ⟨t, hReach, rfl⟩
    · exact Waits.create config
    · exact Waits.reset hReach
  have hEnters := hWaits.enters_iff actions call
  have hPhase := hWaits.phase_history actions
  rw [hWaits.config_eq] at hEnters hPhase
  have hNoBlock : waiting.phase = .preMatch ↔
      ∀ earlier, earlier <+: actions → ¬ EndsBlock least count earlier := by
    simp only [endsBlock_iff, not_le]
    exact hPhase
  refine ⟨?_, hNoBlock, fun hPre hFew => ?_⟩
  · rw [← hNoBlock, hEnters, endsBlock_iff, and_comm]
  · have hConfig : waiting.config = sanitizeConfig config :=
      (s.config_history actions).trans hWaits.config_eq
    have hNot : ¬ waiting.Enters call := by
      intro h
      have hEnough := ((MatchLifecycleSimulation.enters_iff call).mp h).2.1
      rw [hConfig] at hEnough
      exact absurd hFew (not_lt.mpr hEnough)
    obtain ⟨hStays, hTicks⟩ := tickWith_waits hPre hNot
    rw [hConfig, if_neg (not_le.mpr hFew)] at hTicks
    exact ⟨hStays, hTicks⟩

/-- Two players, of whom one leaves during a countdown of two ticks. -/
theorem match_starts_again :
    (((create { preMatchTicks := 2, minPlayersToStart := 2 }).history
      [.resolveTick { tick := 1, activePlayerIds := [1, 2] }]).tickWith
        { tick := 2, activePlayerIds := [1] }).2.preMatchTicksRemaining = 2 :=
  ((match_starts (s := create { preMatchTicks := 2, minPlayersToStart := 2 }) (Or.inl rfl)
    [.resolveTick { tick := 1, activePlayerIds := [1, 2] }]
    { tick := 2, activePlayerIds := [1] }).2.2 (by decide) (by decide)).2

end MatchLifecycleSimulation

end DevyFps.Server
