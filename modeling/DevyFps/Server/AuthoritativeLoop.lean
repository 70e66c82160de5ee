import DevyFps.Foundations.CommandQueue
import DevyFps.Foundations.Floating
import DevyFps.Server.SessionManager

/-! The fixed-rate loop: client inputs wait in order for the next tick frame, and
frames are cut whenever the clock has passed their deadline. -/

namespace DevyFps.Server

open Foundations FloatFormat

structure RuntimeConfig where
  tickRateHz : Nat := 30
  inputQueueCapacity : Nat := 2048
  snapshotIntervalTicks : Nat := 2

structure PlayerInputCommand (F : Type) [SingleFloat F] where
  playerId : Nat := 0
  inputSeq : Nat := 0
  moveX : F := ofRat 0
  moveY : F := ofRat 0
  jump : Bool := false
  fire : Bool := false
  receivedAt : TimePoint := 0
  sprint : Bool := false
  crouch : Bool := false

inductive InputEnqueueStatus where
  | accepted
  | queueFull
  | outOfOrder
  deriving DecidableEq, Repr

structure TickFrame (F : Type) [SingleFloat F] where
  tick : Nat := 0
  inputs : List (PlayerInputCommand F) := []
  snapshotDue : Bool := false

/-- The loop keeps a positive tick interval, since the constructor clamps it. -/
structure AuthoritativeLoop (F : Type) [SingleFloat F] where
  config : RuntimeConfig
  tickInterval : Int
  interval_pos : 0 < tickInterval
  nextTickDeadline : TimePoint
  tickCounter : Nat
  pendingInputCount : Nat
  inputQueuesByPlayer : CommandQueues (PlayerInputCommand F)
  lastInputSeqByPlayer : UnorderedMap Nat Nat

namespace AuthoritativeLoop

variable {F : Type} [SingleFloat F]

def sanitizeConfig (config : RuntimeConfig) : RuntimeConfig where
  tickRateHz := if config.tickRateHz = 0 then 30 else config.tickRateHz
  inputQueueCapacity := if config.inputQueueCapacity = 0 then 1 else config.inputQueueCapacity
  snapshotIntervalTicks :=
    if config.snapshotIntervalTicks = 0 then 1 else config.snapshotIntervalTicks

/-- One second divided by the tick rate, at least one nanosecond. -/
def intervalOf (config : RuntimeConfig) : Int :=
  let interval : Int := 1000000000 / config.tickRateHz
  if interval ≤ 0 then 1 else interval

/-- A tick takes some time. -/
theorem intervalOf_pos (config : RuntimeConfig) : 0 < intervalOf config := by
  unfold intervalOf
  simp only
  split <;> omega

/-- The constructor, which resets the counters to the start time. -/
def create (config : RuntimeConfig) (startTime : TimePoint) : AuthoritativeLoop F where
  config := sanitizeConfig config
  tickInterval := intervalOf (sanitizeConfig config)
  interval_pos := intervalOf_pos _
  nextTickDeadline := startTime + intervalOf (sanitizeConfig config)
  tickCounter := 0
  pendingInputCount := 0
  inputQueuesByPlayer := ∅
  lastInputSeqByPlayer := ∅

/-- Whether a sequence number fails to pass the last command waiting in a queue. -/
def behindQueue (queue : Option (List (PlayerInputCommand F))) (inputSeq : Nat) : Bool :=
  match queue.bind List.getLast? with
  | some back => inputSeq ≤ back.inputSeq
  | none => false

def enqueueInput (s : AuthoritativeLoop F) (input : PlayerInputCommand F) :
    InputEnqueueStatus × AuthoritativeLoop F :=
  if (s.lastInputSeqByPlayer.find input.playerId).any (input.inputSeq ≤ ·) then (.outOfOrder, s)
  else if behindQueue (s.inputQueuesByPlayer.find input.playerId) input.inputSeq then
    (.outOfOrder, s)
  else if s.config.inputQueueCapacity ≤ s.pendingInputCount then (.queueFull, s)
  else
    (.accepted,
      { s with
        inputQueuesByPlayer := s.inputQueuesByPlayer.push input.playerId input
        lastInputSeqByPlayer := s.lastInputSeqByPlayer.set input.playerId input.inputSeq
        pendingInputCount := s.pendingInputCount + 1 })

def clearPlayer (s : AuthoritativeLoop F) (playerId : Nat) : AuthoritativeLoop F :=
  match s.inputQueuesByPlayer.find playerId with
  | some queue =>
      { s with
        pendingInputCount := s.pendingInputCount - queue.length
        inputQueuesByPlayer := s.inputQueuesByPlayer.erase playerId
        lastInputSeqByPlayer := s.lastInputSeqByPlayer.erase playerId }
  | none => { s with lastInputSeqByPlayer := s.lastInputSeqByPlayer.erase playerId }

/-- `drain_inputs_deterministic`. -/
def drainInputs (s : AuthoritativeLoop F) : List (PlayerInputCommand F) × AuthoritativeLoop F :=
  let (drained, left) := s.inputQueuesByPlayer.drain
  (drained, { s with
    inputQueuesByPlayer := left
    pendingInputCount := s.pendingInputCount - drained.length })

/-- The body of the loop in `advance`: cut one frame. The counter is a `uint64_t`. -/
def cutFrame (s : AuthoritativeLoop F) : TickFrame F × AuthoritativeLoop F :=
  let tick := (s.tickCounter + 1) % 2 ^ 64
  let (inputs, drained) := s.drainInputs
  ({ tick := tick, inputs := inputs, snapshotDue := tick % s.config.snapshotIntervalTicks = 0 },
    { drained with
      tickCounter := tick
      nextTickDeadline := s.nextTickDeadline + s.tickInterval })

/-- Cut a given number of frames. -/
def cutFrames (s : AuthoritativeLoop F) : Nat → List (TickFrame F) × AuthoritativeLoop F
  | 0 => ([], s)
  | count + 1 =>
      let (frame, next) := s.cutFrame
      let (frames, finish) := next.cutFrames count
      (frame :: frames, finish)

/-- How many times a deadline that moves on by one interval is passed at `now`. -/
def periodsDue (deadline interval now : Int) : Nat :=
  if now < deadline then 0 else ((now - deadline) / interval).toNat + 1

/-- How often the loop condition `now >= next_tick_deadline_` holds. -/
def framesDue (s : AuthoritativeLoop F) (now : TimePoint) : Nat :=
  periodsDue s.nextTickDeadline s.tickInterval now

def advance (s : AuthoritativeLoop F) (now : TimePoint) :
    List (TickFrame F) × AuthoritativeLoop F :=
  s.cutFrames (s.framesDue now)

/-- When a deadline has passed, one more period is due than from the next deadline on. -/
theorem periodsDue_succ {deadline interval now : Int} (hPos : 0 < interval)
    (h : deadline ≤ now) :
    periodsDue deadline interval now = periodsDue (deadline + interval) interval now + 1 := by
  unfold periodsDue
  rw [if_neg (not_lt.mpr h)]
  by_cases hLast : now < deadline + interval
  · rw [if_pos hLast, Int.ediv_eq_zero_of_lt (by omega) (by omega)]
    rfl
  · rw [if_neg hLast]
    have hShift : now - deadline = now - (deadline + interval) + 1 * interval := by omega
    have hNonneg : 0 ≤ (now - (deadline + interval)) / interval :=
      Int.ediv_nonneg (by omega) hPos.le
    rw [hShift, Int.add_mul_ediv_right _ _ hPos.ne']
    omega

/-- Each frame that is cut is one less that is due. -/
theorem framesDue_cutFrame (s : AuthoritativeLoop F) {now : TimePoint}
    (h : s.nextTickDeadline ≤ now) : s.framesDue now = s.cutFrame.2.framesDue now + 1 :=
  periodsDue_succ s.interval_pos h

/-- No frame is due before the deadline. -/
theorem framesDue_eq_zero_iff (s : AuthoritativeLoop F) (now : TimePoint) :
    s.framesDue now = 0 ↔ now < s.nextTickDeadline := by
  simp [framesDue, periodsDue]

theorem deadline_le_of_framesDue {s : AuthoritativeLoop F} {now : TimePoint} {count : Nat}
    (h : s.framesDue now = count + 1) : s.nextTickDeadline ≤ now := by
  by_contra hBefore
  rw [(framesDue_eq_zero_iff s now).mpr (not_le.mp hBefore)] at h
  cases h

/-- The loop of the source: `advance` cuts frames while the deadline has passed. -/
theorem advance_eq (s : AuthoritativeLoop F) (now : TimePoint) :
    s.advance now =
      if now < s.nextTickDeadline then ([], s)
      else
        let (frame, next) := s.cutFrame
        let (frames, finish) := next.advance now
        (frame :: frames, finish) := by
  by_cases h : now < s.nextTickDeadline
  · rw [if_pos h, advance, (framesDue_eq_zero_iff s now).mpr h]
    rfl
  · rw [if_neg h, advance, framesDue_cutFrame s (not_lt.mp h)]
    rfl

/-- What is left of one player's queue and last sequence number by a frame. -/
theorem find_cutFrame {s : AuthoritativeLoop F} {playerId : Nat}
    {queue : List (PlayerInputCommand F)}
    (h : s.cutFrame.2.inputQueuesByPlayer.find playerId = some queue) :
    queue = [] ∧ s.inputQueuesByPlayer.find playerId = some [] :=
  CommandQueues.find_drain h

@[simp] theorem lastInputSeqByPlayer_cutFrame (s : AuthoritativeLoop F) :
    s.cutFrame.2.lastInputSeqByPlayer = s.lastInputSeqByPlayer := rfl

@[simp] theorem tickInterval_cutFrame (s : AuthoritativeLoop F) :
    s.cutFrame.2.tickInterval = s.tickInterval := rfl

/-- The counter of waiting inputs is the number of queued inputs, so that the
subtractions on it never wrap. -/
def CountsQueued (s : AuthoritativeLoop F) : Prop :=
  s.pendingInputCount = s.inputQueuesByPlayer.queued

/-- The counter of queued inputs goes up with each accepted one. -/
theorem CountsQueued.enqueueInput {s : AuthoritativeLoop F} (h : s.CountsQueued)
    (input : PlayerInputCommand F) : (s.enqueueInput input).2.CountsQueued := by
  unfold AuthoritativeLoop.enqueueInput
  split_ifs
  · exact h
  · exact h
  · exact h
  · change s.pendingInputCount + 1 = _
    rw [h, CommandQueues.queued_push]

/-- It goes down by those that are dropped with a player. -/
theorem CountsQueued.clearPlayer {s : AuthoritativeLoop F} (h : s.CountsQueued)
    (playerId : Nat) : (s.clearPlayer playerId).CountsQueued := by
  unfold AuthoritativeLoop.clearPlayer
  cases hFind : s.inputQueuesByPlayer.find playerId with
  | none => exact h
  | some queue =>
      change s.pendingInputCount - queue.length = _
      rw [h, CommandQueues.queued_of_find hFind, Nat.add_sub_cancel_left]

/-- And it is zero after a frame, which takes all of them. -/
theorem CountsQueued.cutFrame {s : AuthoritativeLoop F} (h : s.CountsQueued) :
    s.cutFrame.2.CountsQueued := by
  change s.pendingInputCount - s.inputQueuesByPlayer.drain.1.length = _
  have hLength := CommandQueues.length_drain s.inputQueuesByPlayer
  have hCount : s.pendingInputCount = s.inputQueuesByPlayer.queued := h
  change _ = s.inputQueuesByPlayer.drain.2.queued
  omega

end AuthoritativeLoop

end DevyFps.Server
