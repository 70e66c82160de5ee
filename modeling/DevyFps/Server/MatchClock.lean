import DevyFps.Server.MatchHistory
import DevyFps.Server.MatchPhases

/-! The clock of a match in play: whole seconds are taken from an accumulator that carries
the fraction, so that only the sum of the positive intervals counts. -/

namespace DevyFps.Server

open Foundations

/-- The time that a call adds to the clock of a match in play. -/
def MatchAction.playedTime : MatchAction → Int
  | .ensurePlayer _ => 0
  | .removePlayer _ => 0
  | .resolveTick call => max 0 call.tickInterval

/-- The positive intervals of the ticks together. -/
def playedTime (actions : List MatchAction) : Int := (actions.map MatchAction.playedTime).sum

@[simp] theorem playedTime_snoc (actions : List MatchAction) (action : MatchAction) :
    playedTime (actions ++ [action]) = playedTime actions + action.playedTime := by
  simp [playedTime]

namespace MatchLifecycleSimulation

/-- Taking seconds moves time from the accumulator, down to a fraction or until none is left. -/
theorem drainSeconds_account (accumulator : Int) (seconds : Nat) :
    accumulator - (drainSeconds accumulator seconds).1 =
        ((seconds : Int) - (drainSeconds accumulator seconds).2) * kOneSecond ∧
      ((drainSeconds accumulator seconds).2 = 0 ∨
        (drainSeconds accumulator seconds).1 < kOneSecond) ∧
      (0 ≤ accumulator → 0 ≤ (drainSeconds accumulator seconds).1) := by
  induction seconds generalizing accumulator with
  | zero => simp [drainSeconds]
  | succ seconds ih =>
      unfold drainSeconds
      split
      · rename_i hSecond
        obtain ⟨hAccount, hEnd, hNonneg⟩ := ih (accumulator - kOneSecond)
        refine ⟨?_, hEnd, fun _ => hNonneg (by omega)⟩
        push_cast
        linarith
      · rename_i hFraction
        exact ⟨by simp, Or.inr (not_le.mp hFraction), fun h => h⟩

/-- The clock of a match of `duration` seconds after `elapsed` nanoseconds of play. -/
structure Shows (duration : Nat) (elapsed : Int) (s : MatchLifecycleSimulation) : Prop where
  left : 0 < s.inMatchSecondsRemaining
  fraction_nonneg : 0 ≤ s.inMatchSecondAccumulator
  fraction_lt : s.inMatchSecondAccumulator < kOneSecond
  account : elapsed =
    ((duration : Int) - s.inMatchSecondsRemaining) * kOneSecond + s.inMatchSecondAccumulator

namespace Shows

variable {duration : Nat} {elapsed : Int} {s t : MatchLifecycleSimulation}

theorem sameClock (h : Shows duration elapsed s) (hSame : SameClock s t) :
    Shows duration elapsed t := by
  rw [hSame]
  exact ⟨h.left, h.fraction_nonneg, h.fraction_lt, h.account⟩

/-- The whole seconds that have passed are missing on the clock. -/
theorem seconds (h : Shows duration elapsed s) :
    (s.inMatchSecondsRemaining : Int) = duration - elapsed / kOneSecond := by
  have hWhole : elapsed / kOneSecond = (duration : Int) - s.inMatchSecondsRemaining := by
    rw [h.account, Int.add_comm, Int.add_mul_ediv_right _ _ (by decide),
      Int.ediv_eq_zero_of_lt h.fraction_nonneg h.fraction_lt, Int.zero_add]
  omega

theorem lt_duration (h : Shows duration elapsed s) : elapsed < duration * kOneSecond := by
  have hLeft := h.left
  have hFraction := h.fraction_lt
  rw [h.account]
  unfold kOneSecond at *
  omega

/-- One tick of the clock: it runs out when the time reaches the duration, and shows the new
time otherwise. -/
theorem runClock (h : Shows duration elapsed s) (hPhase : s.phase = .inMatch)
    (tickInterval : Int) :
    ((s.runClock tickInterval false).1 = true ↔
        duration * kOneSecond ≤ elapsed + max 0 tickInterval) ∧
      ((s.runClock tickInterval false).1 = false →
        Shows duration (elapsed + max 0 tickInterval) (s.runClock tickInterval false).2) := by
  have hBefore := h.lt_duration
  have hLeft := h.left
  unfold MatchLifecycleSimulation.runClock
  by_cases hInterval : 0 < tickInterval
  · rw [if_pos (by simp [hPhase, hInterval, hLeft]), max_eq_right hInterval.le]
    obtain ⟨hAccount, hEnd, hNonneg⟩ := drainSeconds_account
      (s.inMatchSecondAccumulator + tickInterval) s.inMatchSecondsRemaining
    have hZero := drainSeconds_eq_zero (s.inMatchSecondAccumulator + tickInterval)
      s.inMatchSecondsRemaining
    have hElapsed := h.account
    have hFraction := h.fraction_nonneg
    dsimp only
    constructor
    · rw [decide_eq_true_iff, hZero, hElapsed]
      unfold kOneSecond
      omega
    · intro hGoesOn
      rw [decide_eq_false_iff_not] at hGoesOn
      refine ⟨Nat.pos_of_ne_zero hGoesOn, hNonneg (by omega), hEnd.resolve_left hGoesOn, ?_⟩
      dsimp only
      rw [hElapsed]
      unfold kOneSecond at *
      omega
  · rw [if_neg (by simp [hInterval]), max_eq_left (not_lt.mp hInterval), add_zero]
    exact ⟨⟨fun hOver => absurd hOver Bool.false_ne_true, fun hOver => absurd hBefore (not_lt.mpr hOver)⟩,
      fun _ => h⟩

/-- One tick of a match in play. -/
theorem tickWith (h : Shows duration elapsed s) (hPhase : s.phase = .inMatch)
    (call : TickCall) :
    ((s.tickWith call).2.phase = .inMatch ∨ (s.tickWith call).2.phase = .postMatch) ∧
      ((s.tickWith call).2.phase = .postMatch ↔
        (s.playWith call).2.contenders.length = 1 ∨
          duration * kOneSecond ≤ elapsed + max 0 call.tickInterval) ∧
      ((s.tickWith call).2.phase = .inMatch →
        Shows duration (elapsed + max 0 call.tickInterval) (s.tickWith call).2) := by
  have hObserve := s.sameClock_observeWith call
  have hObserved : (s.observeWith call).phase = .inMatch := hObserve.phase_eq.trans hPhase
  have hOpen : s.openWith call = _ :=
    openWith_of_started (by rw [hPhase]; exact MatchPhase.noConfusion) call
  obtain ⟨hOut, hShows⟩ := (h.sameClock hObserve).runClock hObserved call.tickInterval
  have hPlay := s.sameClock_playWith call
  have hPlayed : (s.playWith call).2.phase = .inMatch := by
    rw [hPlay.phase_eq, hOpen]
    obtain ⟨-, _, _, hClock, -⟩ := (s.observeWith call).runClock_spec call.tickInterval false
    rw [hClock]
    exact hObserved
  rcases s.tickWith_cases call with ⟨-, hOver, winner, hEnd⟩ | ⟨hGoesOn, hSame⟩
  · rw [hOpen] at hOver
    rw [hEnd]
    exact ⟨Or.inr rfl, ⟨fun _ => hOver.imp_right hOut.mp, fun _ => rfl⟩,
      fun hIn => MatchPhase.noConfusion hIn⟩
  · obtain ⟨hMany, hLasts⟩ := hGoesOn.resolve_left (not_not.mpr hPlayed)
    rw [hOpen] at hLasts hPlay
    rw [hSame]
    refine ⟨Or.inl hPlayed, ⟨fun hPost => ?_, fun hOver => ?_⟩, fun _ => (hShows hLasts).sameClock hPlay⟩
    · rw [hPlayed] at hPost
      cases hPost
    · rcases hOver with hOne | hTime
      · exact absurd hOne hMany
      · rw [hOut.mpr hTime] at hLasts
        cases hLasts

end Shows

theorem runClock_started (s : MatchLifecycleSimulation) (tickInterval : Int) :
    s.runClock tickInterval true = (false, s) := by
  simp [runClock]

/-- The tick that starts a match sets the clock and does not run it. -/
theorem shows_of_started {s : MatchLifecycleSimulation} {start : TickCall}
    (hLasting : 0 < s.config.matchDurationSeconds) (hPre : s.phase = .preMatch)
    (hStarted : (s.tickWith start).2.phase = .inMatch) :
    Shows s.config.matchDurationSeconds 0 (s.tickWith start).2 := by
  have hObserve := s.sameClock_observeWith start
  have hPlay := s.sameClock_playWith start
  have hOpen : s.openWith start =
      ((((s.observeWith start).countDown start.tick).2.2.runClock start.tickInterval
        ((s.observeWith start).countDown start.tick).2.1).1,
        ((s.observeWith start).countDown start.tick).1,
        (((s.observeWith start).countDown start.tick).2.2.runClock start.tickInterval
          ((s.observeWith start).countDown start.tick).2.1).2) := rfl
  have hPlayed : (s.playWith start).2.phase = .inMatch ∧
      (s.tickWith start).2 = (s.playWith start).2 := by
    rcases s.tickWith_cases start with ⟨-, -, winner, hEnd⟩ | ⟨-, hSame⟩
    · rw [hEnd] at hStarted
      cases hStarted
    · exact ⟨hSame ▸ hStarted, hSame⟩
  rw [hPlayed.2]
  refine Shows.sameClock (s := (s.openWith start).2.2) ?_ hPlay
  have hOpened : (s.openWith start).2.2.phase = .inMatch := hPlay.phase_eq.symm.trans hPlayed.1
  rcases (s.observeWith start).countDown_cases start.tick with
    ⟨-, -, hBegun, ticks, hEntered⟩ | ⟨-, hWaits, ticks, hCounted⟩
  · rw [hOpen, hBegun, hEntered, runClock_started]
    refine ⟨?_, Int.le_refl 0, (show (0 : Int) < kOneSecond by decide), ?_⟩
    · change 0 < (s.observeWith start).config.matchDurationSeconds
      rw [hObserve.config_eq]
      exact hLasting
    · change (0 : Int) = ((s.config.matchDurationSeconds : Int) -
        (s.observeWith start).config.matchDurationSeconds) * kOneSecond + 0
      rw [hObserve.config_eq]
      simp
  · rw [hOpen, hWaits, hCounted] at hOpened
    obtain ⟨-, _, _, hClock, -⟩ := ({ s.observeWith start with
      preMatchTicksRemaining := ticks } : MatchLifecycleSimulation).runClock_spec
        start.tickInterval false
    rw [hClock] at hOpened
    have hStill : (s.observeWith start).phase = .inMatch := hOpened
    rw [hObserve.phase_eq, hPre] at hStill
    cases hStill

/-- In no tick of the history the match is down to one contender while it is in play. -/
def NeverDecided (s : MatchLifecycleSimulation) (actions : List MatchAction) : Prop :=
  ∀ before call rest, actions = before ++ .resolveTick call :: rest →
    (s.history before).phase = .inMatch →
      ((s.history before).playWith call).2.contenders.length ≠ 1

section Runs

variable {s : MatchLifecycleSimulation} {duration : Nat}

theorem NeverDecided.of_prefix {actions later : List MatchAction}
    (h : s.NeverDecided (actions ++ later)) : s.NeverDecided actions := by
  intro before call rest hSplit
  apply h before call (rest ++ later)
  rw [hSplit, List.append_assoc, List.cons_append]

/-- From a clock at zero the clock shows the time played for as long as the match lasts. -/
theorem Shows.history (h : Shows duration 0 s) (hPhase : s.phase = .inMatch)
    (actions : List MatchAction) :
    ((s.history actions).phase = .inMatch ∨ (s.history actions).phase = .postMatch) ∧
      ((s.history actions).phase = .inMatch →
        Shows duration (playedTime actions) (s.history actions)) := by
  induction actions using List.reverseRecOn with
  | nil => exact ⟨Or.inl hPhase, fun _ => h⟩
  | append_singleton actions action ih =>
      obtain ⟨hEither, hShows⟩ := ih
      rw [history_snoc, playedTime_snoc]
      cases action with
      | ensurePlayer playerId =>
          refine ⟨hEither, fun hIn => ?_⟩
          rw [MatchAction.playedTime, add_zero]
          exact (hShows hIn).sameClock rfl
      | removePlayer playerId =>
          refine ⟨hEither, fun hIn => ?_⟩
          rw [MatchAction.playedTime, add_zero]
          exact (hShows hIn).sameClock rfl
      | resolveTick call =>
          rw [act_resolveTick]
          rcases hEither with hIn | hPost
          · obtain ⟨hAfter, -, hLater⟩ := (hShows hIn).tickWith hIn call
            exact ⟨hAfter, hLater⟩
          · have hStays : ((s.history actions).tickWith call).2.phase = .postMatch :=
              phase_of_postMatch hPost call
            refine ⟨Or.inr hStays, fun hIn => ?_⟩
            rw [hStays] at hIn
            cases hIn

/-- A match that no contender decides lasts until its duration has been played. -/
theorem Shows.phase_history (h : Shows duration 0 s) (hPhase : s.phase = .inMatch)
    (actions : List MatchAction) (hNever : s.NeverDecided actions) :
    (s.history actions).phase = .inMatch ↔ playedTime actions < duration * kOneSecond := by
  induction actions using List.reverseRecOn with
  | nil =>
      refine ⟨fun _ => ?_, fun _ => hPhase⟩
      exact h.lt_duration
  | append_singleton actions action ih =>
      have hBefore := ih hNever.of_prefix
      rw [history_snoc, playedTime_snoc]
      cases action with
      | ensurePlayer playerId =>
          rw [MatchAction.playedTime, add_zero]
          exact hBefore
      | removePlayer playerId =>
          rw [MatchAction.playedTime, add_zero]
          exact hBefore
      | resolveTick call =>
          rw [act_resolveTick]
          obtain ⟨hEither, hShows⟩ := h.history hPhase actions
          rcases hEither with hIn | hPost
          · obtain ⟨hAfter, hEnds, -⟩ := (hShows hIn).tickWith hIn call
            have hMany := hNever actions call [] rfl hIn
            constructor
            · intro hStill
              by_contra hOver
              have hPost := hEnds.mpr (Or.inr (not_lt.mp hOver))
              rw [hPost] at hStill
              cases hStill
            · intro hTime
              apply hAfter.resolve_right
              intro hPost
              rcases hEnds.mp hPost with hOne | hOver
              · exact hMany hOne
              · exact absurd hTime (not_lt.mpr hOver)
          · have hStays : ((s.history actions).tickWith call).2.phase = .postMatch :=
              phase_of_postMatch hPost call
            have hOver : duration * kOneSecond ≤ playedTime actions := by
              by_contra hTime
              have hIn := hBefore.mpr (not_le.mp hTime)
              rw [hPost] at hIn
              cases hIn
            have hGrows : 0 ≤ MatchAction.playedTime (.resolveTick call) := le_max_left ..
            constructor
            · intro hIn
              rw [hStays] at hIn
              cases hIn
            · intro hTime
              omega

/-- The time shown is the duration less the whole seconds of the time played. -/
theorem Shows.remainingSeconds (h : Shows duration 0 s) (hPhase : s.phase = .inMatch)
    {actions : List MatchAction} (hIn : (s.history actions).phase = .inMatch)
    (tickInterval : Int) :
    (((s.history actions).state tickInterval).remainingSeconds : Int) =
      duration - playedTime actions / 1000000000 := by
  rw [state, buildState, hIn]
  exact ((h.history hPhase actions).2 hIn).seconds

theorem Shows.remainingSeconds_tickWith (h : Shows duration 0 s) (hPhase : s.phase = .inMatch)
    (actions : List MatchAction) (call : TickCall)
    (hIn : ((s.history actions).tickWith call).1.state.phase = .inMatch) :
    (((s.history actions).tickWith call).1.state.remainingSeconds : Int) =
      duration - playedTime (actions ++ [.resolveTick call]) / 1000000000 := by
  rw [phase_tickWith, ← act_resolveTick, ← history_snoc] at hIn
  have hShown := h.remainingSeconds hPhase hIn call.tickInterval
  rw [history_snoc, act_resolveTick, ← state_tickWith] at hShown
  exact hShown

/-- Two undecided histories of the same time played show the same. -/
theorem Shows.agree (h : Shows duration 0 s) (hPhase : s.phase = .inMatch)
    {actions others : List MatchAction} (hNever : s.NeverDecided actions)
    (hOthers : s.NeverDecided others) (hSame : playedTime others = playedTime actions) :
    (s.history others).phase = (s.history actions).phase ∧
      ∀ tickInterval, ((s.history others).state tickInterval).remainingSeconds =
        ((s.history actions).state tickInterval).remainingSeconds := by
  have hEqual : (s.history others).phase = (s.history actions).phase := by
    have hFirst := h.phase_history hPhase others hOthers
    have hSecond := h.phase_history hPhase actions hNever
    rw [hSame] at hFirst
    rcases (h.history hPhase others).1 with hIn | hPost
    · rw [hIn, hSecond.mpr (hFirst.mp hIn)]
    · rcases (h.history hPhase actions).1 with hIn' | hPost'
      · rw [hFirst.mpr (hSecond.mp hIn'), hIn']
      · rw [hPost, hPost']
  refine ⟨hEqual, fun tickInterval => ?_⟩
  rcases (h.history hPhase actions).1 with hIn | hPost
  · have hFirst := h.remainingSeconds hPhase (hEqual.trans hIn) tickInterval
    have hSecond := h.remainingSeconds hPhase hIn tickInterval
    rw [hSame] at hFirst
    exact_mod_cast hFirst.trans hSecond.symm
  · rw [state, buildState, state, buildState, hEqual, hPost]

end Runs

/-- Counted from the tick after the start, the clock of a match still in play shows the
duration less the whole seconds of the positive intervals. A tick ends the match when one
contender is left or when the intervals reach the duration, so a match that no contender
decides ends in the first tick that reaches it, however the intervals are split. -/
theorem match_clock {config : MatchLifecycleConfig} {s : MatchLifecycleSimulation}
    (hReach : Reachable config s) (start : TickCall) (hPre : s.phase = .preMatch)
    (hStarted : (s.tickWith start).2.phase = .inMatch) (later : List MatchAction) :
    let duration := (sanitizeConfig config).matchDurationSeconds
    let started := (s.tickWith start).2
    (∀ call,
      let after := (started.history later).tickWith call
      let played := playedTime (later ++ [.resolveTick call])
      (after.1.state.phase = .inMatch →
        (after.1.state.remainingSeconds : Int) = duration - played / 1000000000) ∧
      ((started.history later).phase = .inMatch →
        playedTime later < duration * 1000000000 ∧
        (after.1.state.phase = .inMatch ∨ after.1.state.phase = .postMatch) ∧
        (after.1.state.phase = .postMatch ↔
          ((started.history later).playWith call).2.contenders.length = 1 ∨
            duration * 1000000000 ≤ played))) ∧
    (started.NeverDecided later →
      ((started.history later).phase = .inMatch ↔ playedTime later < duration * 1000000000)) ∧
    ∀ other, started.NeverDecided later → started.NeverDecided other →
      playedTime other = playedTime later →
      (started.history other).phase = (started.history later).phase ∧
        ∀ tickInterval, ((started.history other).state tickInterval).remainingSeconds =
          ((started.history later).state tickInterval).remainingSeconds := by
  intro duration started
  have hDuration : s.config.matchDurationSeconds = duration := by rw [hReach.config_eq]
  have hShows : Shows duration 0 started := by
    rw [← hDuration]
    apply shows_of_started _ hPre hStarted
    rw [hReach.config_eq]
    exact (inOrder_create config).lasting
  have hPlays : started.phase = .inMatch := hStarted
  clear_value duration started
  refine ⟨fun call => ⟨?_, fun hIn => ?_⟩, hShows.phase_history hPlays later, ?_⟩
  · exact hShows.remainingSeconds_tickWith hPlays later call
  · have hNow := (hShows.history hPlays later).2 hIn
    obtain ⟨hEither, hEnds, -⟩ := hNow.tickWith hIn call
    rw [phase_tickWith, playedTime_snoc]
    exact ⟨hNow.lt_duration, hEither, hEnds⟩
  · intro other hLater hOther hSame
    exact hShows.agree hPlays hLater hOther hSame

/-- A tick of a second and a half in a match of three seconds. -/
theorem match_clock_late :
    (((((create { preMatchTicks := 1, matchDurationSeconds := 3 }).tickWith
        { tick := 1, activePlayerIds := [1, 2] }).2.tickWith
          { tick := 2, tickInterval := 1500000000, activePlayerIds := [1, 2] }).1.state.remainingSeconds
            : Nat) : Int) =
      (3 : Nat) - playedTime [.resolveTick
        { tick := 2, tickInterval := 1500000000, activePlayerIds := [1, 2] }] / 1000000000 :=
  ((match_clock (s := create { preMatchTicks := 1, matchDurationSeconds := 3 })
    Relation.ReflTransGen.refl { tick := 1, activePlayerIds := [1, 2] } rfl (by decide) []).1
      { tick := 2, tickInterval := 1500000000, activePlayerIds := [1, 2] }).1 (by decide)

end MatchLifecycleSimulation

end DevyFps.Server
