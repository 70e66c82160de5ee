import DevyFps.Server.InputDelivery
import Mathlib.Order.Bounds.Basic

/-! The schedule of the fixed-rate loop. Whatever times the clock shows, the frames cut so
far are the periods completed by the latest time shown, each of them once. -/

namespace DevyFps.Server

open Foundations

variable {F : Type} [SingleFloat F]

/-- The calls of the main thread on the loop. -/
inductive LoopCall (F : Type) [SingleFloat F] where
  | enqueueInput (input : PlayerInputCommand F)
  | clearPlayer (playerId : Nat)
  | advance (now : TimePoint)

namespace LoopCall

/-- The times the clock showed in a sequence of calls. -/
def readings (calls : List (LoopCall F)) : Set TimePoint := {now | .advance now ∈ calls}

end LoopCall

namespace AuthoritativeLoop

/-- One call, with the frames that it returns. -/
def call (s : AuthoritativeLoop F) : LoopCall F → List (TickFrame F) × AuthoritativeLoop F
  | .enqueueInput input => ([], (s.enqueueInput input).2)
  | .clearPlayer playerId => ([], s.clearPlayer playerId)
  | .advance now => s.advance now

/-- A sequence of calls, with the frames of all of them in order. -/
def runCalls (s : AuthoritativeLoop F) :
    List (LoopCall F) → List (TickFrame F) × AuthoritativeLoop F
  | [] => ([], s)
  | call :: calls =>
      let (frames, next) := s.call call
      let (later, finish) := next.runCalls calls
      (frames ++ later, finish)

/-- The executions of `while (now >= next_tick_deadline_)` that come to an end. -/
inductive AdvanceLoop (now : TimePoint) :
    AuthoritativeLoop F → List (TickFrame F) → AuthoritativeLoop F → Prop where
  | stop (s : AuthoritativeLoop F) (h : now < s.nextTickDeadline) : AdvanceLoop now s [] s
  | cut {s finish : AuthoritativeLoop F} {frames : List (TickFrame F)}
      (h : s.nextTickDeadline ≤ now) (rest : AdvanceLoop now s.cutFrame.2 frames finish) :
      AdvanceLoop now s (s.cutFrame.1 :: frames) finish

/-- The values of `steady_clock::time_point`: 64 bit counts of nanoseconds. -/
def InClock (time : TimePoint) : Prop := -2 ^ 63 ≤ time ∧ time < 2 ^ 63

instance (time : TimePoint) : Decidable (InClock time) :=
  inferInstanceAs (Decidable (-2 ^ 63 ≤ time ∧ time < 2 ^ 63))

/-- The clock never overflows: the loop computes no time beyond it but the deadlines, which
only grow. -/
structure NoClockOverflow (config : RuntimeConfig) (startTime : TimePoint)
    (calls : List (LoopCall F)) : Prop where
  start : InClock startTime
  deadline : ∀ taken, taken <+: calls →
    InClock ((create (F := F) config startTime).runCalls taken).2.nextTickDeadline

/-- How many whole periods have passed since the start. -/
def periodsBy (start interval now : Int) : Nat := ((now - start) / interval).toNat

/-- More periods have passed later. -/
theorem periodsBy_mono {start interval now later : Int} (hPos : 0 < interval)
    (h : now ≤ later) : periodsBy start interval now ≤ periodsBy start interval later :=
  Int.toNat_le_toNat (Int.ediv_le_ediv hPos (by omega))

/-- A deadline after `count` periods is passed once for each further period. -/
theorem periodsDue_eq {start interval now : Int} (hPos : 0 < interval) (count : Nat) :
    periodsDue (start + (count + 1) * interval) interval now =
      periodsBy start interval now - count := by
  have hMissing : now < start + (count + 1) * interval ↔
      (now - start) / interval < count + 1 := by
    rw [Int.ediv_lt_iff_lt_mul hPos]
    omega
  have hBeyond : (now - (start + (count + 1) * interval)) / interval =
      (now - start) / interval - (count + 1) := by
    have hShift : now - (start + (count + 1) * interval) =
        now - start + -(count + 1) * interval := by ring
    rw [hShift, Int.add_mul_ediv_right _ _ hPos.ne']
    ring
  unfold periodsDue periodsBy
  simp only [hMissing, hBeyond]
  split <;> omega

/-- The loop of the source ends, with the frames and the state of `advance`. -/
theorem advanceLoop_iff (s : AuthoritativeLoop F) (now : TimePoint)
    (frames : List (TickFrame F)) (finish : AuthoritativeLoop F) :
    AdvanceLoop now s frames finish ↔ s.advance now = (frames, finish) := by
  constructor
  · intro h
    induction h with
    | stop s h => rw [advance_eq, if_pos h]
    | cut h rest ih =>
        rw [advance_eq, if_neg (not_lt.mpr h)]
        dsimp only
        rw [ih]
  · suffices hCount : ∀ count (t : AuthoritativeLoop F), t.framesDue now = count →
        AdvanceLoop now t (t.advance now).1 (t.advance now).2 by
      intro h
      have hLoop := hCount _ s rfl
      rwa [h] at hLoop
    intro count
    induction count with
    | zero =>
        intro t hDue
        have hBefore := (framesDue_eq_zero_iff t now).mp hDue
        rw [advance_eq, if_pos hBefore]
        exact .stop t hBefore
    | succ count ih =>
        intro t hDue
        have hPassed := deadline_le_of_framesDue hDue
        rw [framesDue_cutFrame t hPassed] at hDue
        rw [advance_eq, if_neg (not_lt.mpr hPassed)]
        exact .cut hPassed (ih t.cutFrame.2 (by omega))

/-- What a frame shows of its number: the `uint64_t` tick and whether a snapshot is due. -/
def stampOf (config : RuntimeConfig) (count : Nat) : Nat × Bool :=
  (count % 2 ^ 64, count % 2 ^ 64 % config.snapshotIntervalTicks = 0)

/-- The stamps of the returned frames. -/
def stamps (frames : List (TickFrame F)) : List (Nat × Bool) :=
  frames.map fun frame => (frame.tick, frame.snapshotDue)

/-- The loop after `count` frames, on the schedule that began at `start`. -/
structure OnSchedule (config : RuntimeConfig) (start interval : Int) (count : Nat)
    (s : AuthoritativeLoop F) : Prop where
  config_eq : s.config = config
  interval_eq : s.tickInterval = interval
  deadline : s.nextTickDeadline = start + (count + 1) * interval
  counter : s.tickCounter = count % 2 ^ 64

section Schedule

variable {config : RuntimeConfig} {start interval : Int} {count : Nat} {s : AuthoritativeLoop F}

/-- The loop is on schedule before the first tick. -/
theorem OnSchedule.create (config : RuntimeConfig) (startTime : TimePoint) :
    OnSchedule (sanitizeConfig config) startTime (intervalOf (sanitizeConfig config)) 0
      (create (F := F) config startTime) where
  config_eq := rfl
  interval_eq := rfl
  deadline := by simp [AuthoritativeLoop.create]
  counter := rfl

/-- Inputs do not move the schedule. -/
theorem OnSchedule.enqueueInput (h : OnSchedule config start interval count s)
    (input : PlayerInputCommand F) :
    OnSchedule config start interval count (s.enqueueInput input).2 := by
  rcases enqueueInput_cases s input with ⟨-, hSame⟩ | ⟨-, -, -, -, hQueued⟩
  · rw [hSame]
    exact h
  · rw [hQueued]
    exact ⟨h.config_eq, h.interval_eq, h.deadline, h.counter⟩

theorem OnSchedule.clearPlayer (h : OnSchedule config start interval count s)
    (playerId : Nat) : OnSchedule config start interval count (s.clearPlayer playerId) := by
  unfold AuthoritativeLoop.clearPlayer
  cases s.inputQueuesByPlayer.find playerId with
  | none => exact ⟨h.config_eq, h.interval_eq, h.deadline, h.counter⟩
  | some queue => exact ⟨h.config_eq, h.interval_eq, h.deadline, h.counter⟩

/-- A frame moves it by one period. -/
theorem OnSchedule.cutFrame (h : OnSchedule config start interval count s) :
    OnSchedule config start interval (count + 1) s.cutFrame.2 where
  config_eq := h.config_eq
  interval_eq := h.interval_eq
  deadline := by
    change s.nextTickDeadline + s.tickInterval = _
    rw [h.deadline, h.interval_eq]
    push_cast
    ring
  counter := by
    change (s.tickCounter + 1) % 2 ^ 64 = _
    rw [h.counter]
    omega

/-- A frame has the number and the flag of the schedule. -/
theorem OnSchedule.stamp (h : OnSchedule config start interval count s) :
    (s.cutFrame.1.tick, s.cutFrame.1.snapshotDue) = stampOf config (count + 1) := by
  change ((s.tickCounter + 1) % 2 ^ 64,
    decide ((s.tickCounter + 1) % 2 ^ 64 % s.config.snapshotIntervalTicks = 0)) = _
  rw [h.counter, h.config_eq, stampOf, Nat.mod_add_mod]

/-- Cutting frames numbers them on. -/
theorem OnSchedule.cutFrames (h : OnSchedule config start interval count s) (more : Nat) :
    OnSchedule config start interval (count + more) (s.cutFrames more).2 ∧
      stamps (s.cutFrames more).1 = (List.range' (count + 1) more).map (stampOf config) := by
  induction more generalizing s count with
  | zero => exact ⟨h, rfl⟩
  | succ more ih =>
      obtain ⟨hLater, hStamps⟩ := ih h.cutFrame
      have hCount : count + (more + 1) = count + 1 + more := by omega
      refine ⟨hCount ▸ hLater, ?_⟩
      rw [List.range'_succ, List.map_cons, ← h.stamp, ← hStamps]
      rfl

/-- The number of frames cut after one more call. -/
def countAfter (start interval : Int) (count : Nat) : LoopCall F → Nat
  | .enqueueInput _ => count
  | .clearPlayer _ => count
  | .advance now => max count (periodsBy start interval now)

/-- One call keeps the loop on its schedule and cuts what the clock asks for. -/
theorem OnSchedule.call (h : OnSchedule config start interval count s) (hPos : 0 < interval)
    (call : LoopCall F) :
    OnSchedule config start interval (countAfter start interval count call) (s.call call).2 ∧
      stamps (s.call call).1 = (List.range' (count + 1)
        (countAfter start interval count call - count)).map (stampOf config) := by
  cases call with
  | enqueueInput input =>
      refine ⟨h.enqueueInput input, ?_⟩
      rw [countAfter, Nat.sub_self]
      rfl
  | clearPlayer playerId =>
      refine ⟨h.clearPlayer playerId, ?_⟩
      rw [countAfter, Nat.sub_self]
      rfl
  | advance now =>
      have hDue : s.framesDue now = periodsBy start interval now - count := by
        rw [framesDue, h.deadline, h.interval_eq, periodsDue_eq hPos]
      obtain ⟨hLater, hStamps⟩ := h.cutFrames (periodsBy start interval now - count)
      have hCount : count + (periodsBy start interval now - count) =
          countAfter (F := F) start interval count (.advance now) := by
        rw [countAfter]
        omega
      rw [← hCount, Nat.add_sub_cancel_left]
      rw [AuthoritativeLoop.call, advance, hDue]
      exact ⟨hLater, hStamps⟩

/-- No call takes a tick back. -/
theorem le_countAfter (start interval : Int) (count : Nat) (call : LoopCall F) :
    count ≤ countAfter start interval count call := by
  cases call with
  | enqueueInput input => exact Nat.le_refl _
  | clearPlayer playerId => exact Nat.le_refl _
  | advance now => exact Nat.le_max_left ..

theorem le_foldl_countAfter (start interval : Int) (count : Nat) (calls : List (LoopCall F)) :
    count ≤ calls.foldl (countAfter start interval) count := by
  induction calls generalizing count with
  | nil => exact Nat.le_refl _
  | cons call calls ih => exact (le_countAfter start interval count call).trans (ih _)

/-- Over any calls the frames are those of the schedule, without a gap; by induction on the calls.
-/
theorem OnSchedule.runCalls (h : OnSchedule config start interval count s) (hPos : 0 < interval)
    (calls : List (LoopCall F)) :
    OnSchedule config start interval (calls.foldl (countAfter start interval) count)
        (s.runCalls calls).2 ∧
      stamps (s.runCalls calls).1 = (List.range' (count + 1)
        (calls.foldl (countAfter start interval) count - count)).map (stampOf config) := by
  induction calls generalizing s count with
  | nil =>
      refine ⟨h, ?_⟩
      rw [List.foldl_nil, Nat.sub_self]
      rfl
  | cons call calls ih =>
      obtain ⟨hNext, hFrames⟩ := h.call hPos call
      obtain ⟨hFinish, hLater⟩ := ih hNext
      refine ⟨hFinish, ?_⟩
      have hFirst := le_countAfter start interval count call
      have hRest := le_foldl_countAfter start interval (countAfter start interval count call) calls
      have hNumber : countAfter start interval count call + 1 =
          count + 1 + (countAfter start interval count call - count) := by omega
      have hTotal : calls.foldl (countAfter start interval) (countAfter start interval count call) -
            count =
          countAfter start interval count call - count +
            (calls.foldl (countAfter start interval) (countAfter start interval count call) -
              countAfter start interval count call) := by omega
      rw [List.foldl_cons, hTotal, ← List.range'_append_1, List.map_append, ← hNumber, ← hFrames,
        ← hLater]
      exact List.map_append

/-- The frames cut so far are the periods completed by the latest time of the clock. -/
theorem isGreatest_foldl_countAfter (start interval : Int) (count : Nat)
    (calls : List (LoopCall F)) :
    IsGreatest (insert count (periodsBy start interval '' LoopCall.readings calls))
      (calls.foldl (countAfter start interval) count) := by
  induction calls using List.reverseRecOn with
  | nil => simp [LoopCall.readings, IsGreatest, upperBounds]
  | append_singleton calls call ih =>
      rw [List.foldl_append, List.foldl_cons, List.foldl_nil]
      cases call with
      | enqueueInput input => simpa [LoopCall.readings, countAfter] using ih
      | clearPlayer playerId => simpa [LoopCall.readings, countAfter] using ih
      | advance now =>
          have hReadings : LoopCall.readings (calls ++ [.advance now]) =
              insert now (LoopCall.readings calls) := by
            ext time
            simp [LoopCall.readings, or_comm]
          rw [hReadings, Set.image_insert_eq, Set.insert_comm, countAfter, max_comm]
          exact ih.insert _

/-- Times in between change nothing about what the last time asks for. -/
theorem foldl_countAfter_split (hPos : 0 < interval) (count : Nat) {between : List (LoopCall F)}
    {now : TimePoint} (hBefore : ∀ time ∈ LoopCall.readings between, time ≤ now) :
    (between ++ [LoopCall.advance now]).foldl (countAfter start interval) count =
      countAfter (F := F) start interval count (.advance now) := by
  have hLow := le_foldl_countAfter start interval count between
  have hHigh : between.foldl (countAfter start interval) count ≤
      max count (periodsBy start interval now) := by
    rcases (isGreatest_foldl_countAfter start interval count between).1 with
      hSame | ⟨time, hTime, hReached⟩
    · rw [hSame]
      exact Nat.le_max_left ..
    · rw [← hReached]
      exact (periodsBy_mono hPos (hBefore time hTime)).trans (Nat.le_max_right ..)
  rw [List.foldl_append, List.foldl_cons, List.foldl_nil, countAfter, countAfter]
  omega

end Schedule

/-- The queues hold what they are said to hold, so that a drain hands out exactly it. -/
structure Pending (s : AuthoritativeLoop F) : Prop where
  order : CommandQueues.InOrder PlayerInputCommand.playerId PlayerInputCommand.inputSeq
    s.inputQueuesByPlayer
  counted : s.CountsQueued

namespace Pending

variable {s : AuthoritativeLoop F}

theorem create (config : RuntimeConfig) (startTime : TimePoint) :
    Pending (AuthoritativeLoop.create (F := F) config startTime) :=
  ⟨CommandQueues.inOrder_empty, rfl⟩

theorem cutFrames (h : Pending s) (count : Nat) : Pending (s.cutFrames count).2 := by
  refine ⟨?_, h.counted.cutFrames count⟩
  exact h.order.run (s.queueRun_cutFrames count)

theorem call (h : Pending s) (call : LoopCall F) : Pending (s.call call).2 := by
  cases call with
  | enqueueInput input =>
      refine ⟨?_, h.counted.enqueueInput input⟩
      change CommandQueues.InOrder _ _ (s.enqueueInput input).2.inputQueuesByPlayer
      rcases s.enqueueInput_cases input with ⟨-, hSame⟩ | ⟨-, -, hBehind, -, hQueued⟩
      · rw [hSame]
        exact h.order
      · rw [hQueued]
        exact h.order.push input (lt_of_not_behindQueue h.order hBehind)
  | clearPlayer playerId =>
      refine ⟨?_, h.counted.clearPlayer playerId⟩
      change CommandQueues.InOrder _ _ (s.clearPlayer playerId).inputQueuesByPlayer
      rw [inputQueuesByPlayer_clearPlayer]
      exact h.order.erase playerId
  | advance now => exact h.cutFrames _

/-- Over any calls each input is handed out once or still waits. -/
theorem runCalls (h : Pending s) (calls : List (LoopCall F)) : Pending (s.runCalls calls).2 := by
  induction calls generalizing s with
  | nil => exact h
  | cons call calls ih => exact ih (h.call call)

/-- The next frame takes every waiting input, in the order of its sender. -/
theorem inputs_cutFrame (h : Pending s) :
    (∀ playerId, s.cutFrame.1.inputs.filter (fun input => input.playerId = playerId) =
        (s.inputQueuesByPlayer.find playerId).getD []) ∧
      s.cutFrame.1.inputs.length = s.pendingInputCount ∧
      s.cutFrame.2.pendingInputCount = 0 := by
  have hLength := CommandQueues.length_drain s.inputQueuesByPlayer
  rw [CommandQueues.queued_drain, Nat.add_zero] at hLength
  refine ⟨h.order.filter_drain, hLength.trans h.counted.symm, ?_⟩
  rw [h.counted.cutFrame]
  exact CommandQueues.queued_drain _

/-- Frames cut while nothing waits carry nothing. -/
theorem inputs_cutFrames (h : Pending s) (hNone : s.pendingInputCount = 0) (count : Nat) :
    (∀ frame ∈ (s.cutFrames count).1, frame.inputs = []) ∧
      (s.cutFrames count).2.pendingInputCount = 0 := by
  induction count generalizing s with
  | zero => exact ⟨fun frame hFrame => absurd hFrame List.not_mem_nil, hNone⟩
  | succ count ih =>
      obtain ⟨-, hLength, hLeft⟩ := h.inputs_cutFrame
      obtain ⟨hLater, hFinish⟩ := ih (h.cutFrames 1) hLeft
      refine ⟨?_, hFinish⟩
      intro frame hFrame
      rcases List.mem_cons.mp hFrame with rfl | hRest
      · exact List.length_eq_zero_iff.mp (hLength.trans hNone)
      · exact hLater frame hRest

/-- The first frame of a call takes all the waiting inputs, and the others none. -/
theorem inputs_advance (h : Pending s) {now : TimePoint} {first : TickFrame F}
    {rest : List (TickFrame F)} (hFrames : (s.advance now).1 = first :: rest) :
    (∀ playerId, first.inputs.filter (fun input => input.playerId = playerId) =
        (s.inputQueuesByPlayer.find playerId).getD []) ∧
      first.inputs.length = s.pendingInputCount ∧ (∀ frame ∈ rest, frame.inputs = []) ∧
      (s.advance now).2.pendingInputCount = 0 := by
  unfold advance at hFrames ⊢
  cases hDue : s.framesDue now with
  | zero =>
      rw [hDue] at hFrames
      cases hFrames
  | succ count =>
      rw [hDue] at hFrames
      obtain ⟨rfl, rfl⟩ := List.cons.inj hFrames
      obtain ⟨hFirst, hLength, hLeft⟩ := h.inputs_cutFrame
      obtain ⟨hRest, hFinish⟩ := (h.cutFrames 1).inputs_cutFrames hLeft count
      exact ⟨hFirst, hLength, hRest, hFinish⟩

end Pending

/-- `last_completed_tick`. -/
def lastCompletedTick (s : AuthoritativeLoop F) : Nat := s.tickCounter

section Runs

variable {config : RuntimeConfig} {startTime : TimePoint} {calls : List (LoopCall F)}

/-- There are no more deadlines than values of the clock. -/
theorem count_lt_of_deadline {start interval : Int} (hPos : 0 < interval) {count : Nat}
    (hStart : -2 ^ 63 ≤ start) (hDeadline : start + (count + 1) * interval < 2 ^ 63) :
    count + 1 < 2 ^ 64 := by
  have hGrown : (count + 1 : Int) ≤ (count + 1) * interval :=
    le_mul_of_one_le_right (by omega) hPos
  omega

/-- So the `uint64_t` counter never wraps. -/
theorem NoClockOverflow.count_lt (hClock : NoClockOverflow config startTime calls) {count : Nat}
    (h : OnSchedule (sanitizeConfig config) startTime (intervalOf (sanitizeConfig config)) count
      ((create (F := F) config startTime).runCalls calls).2) : count + 1 < 2 ^ 64 :=
  count_lt_of_deadline (intervalOf_pos _) hClock.start.1
    (h.deadline ▸ (hClock.deadline calls (List.prefix_refl calls)).2)

/-- Below the wrap of the counter a stamp is the number of its tick. -/
theorem stampOf_of_lt (config : RuntimeConfig) {count : Nat} (h : count < 2 ^ 64) :
    stampOf config count = (count, decide (count % config.snapshotIntervalTicks = 0)) := by
  rw [stampOf, Nat.mod_eq_of_lt h]

/-- Frames with the stamps of `1, 2, 3, …` are numbered so and tell when a snapshot is due. -/
theorem frames_of_stamps {frames : List (TickFrame F)} {count : Nat} (hCount : count < 2 ^ 64)
    (hStamps : stamps frames = (List.range' 1 count).map (stampOf config)) :
    frames.length = count ∧ frames.map TickFrame.tick = List.range' 1 count ∧
      ∀ frame ∈ frames, (frame.snapshotDue = true ↔ config.snapshotIntervalTicks ∣ frame.tick) := by
  have hPlain : stamps frames = (List.range' 1 count).map fun tick =>
      (tick, decide (tick % config.snapshotIntervalTicks = 0)) := by
    rw [hStamps]
    apply List.map_congr_left
    intro tick hTick
    rw [List.mem_range'_1] at hTick
    exact stampOf_of_lt config (by omega)
  refine ⟨?_, ?_, ?_⟩
  · have hLength := congrArg List.length hPlain
    simpa [stamps] using hLength
  · have hTicks := congrArg (List.map Prod.fst) hPlain
    simpa [stamps, Function.comp_def] using hTicks
  · intro frame hFrame
    have hStamp : (frame.tick, frame.snapshotDue) ∈ stamps frames := List.mem_map_of_mem hFrame
    rw [hPlain] at hStamp
    obtain ⟨tick, -, hEq⟩ := List.mem_map.mp hStamp
    obtain ⟨rfl, hDue⟩ := Prod.mk.inj hEq
    rw [← hDue, decide_eq_true_iff, Nat.dvd_iff_mod_eq_zero]

/-- The periods completed by the latest time shown. -/
theorem count_of_latest {start interval : Int} (hPos : 0 < interval) {count : Nat}
    (hCount : IsGreatest (insert 0 (periodsBy start interval '' LoopCall.readings calls)) count)
    {latest : TimePoint} (hLatest : IsGreatest (LoopCall.readings calls) latest) :
    (count : Int) = max 0 ((latest - start) / interval) := by
  have hSame : count = periodsBy start interval latest := by
    apply hCount.unique
    refine ⟨Or.inr (Set.mem_image_of_mem _ hLatest.1), ?_⟩
    rintro reached (rfl | ⟨time, hTime, rfl⟩)
    · exact Nat.zero_le _
    · exact periodsBy_mono hPos (hLatest.2 hTime)
  rw [hSame, periodsBy, Int.toNat_eq_max, max_comm]

/-- Whatever the clock shows and in whatever order, no tick is lost, repeated or moved: the
loop of `advance` ends, the ticks are numbered on from one, as many as whole intervals have
passed by the latest time, and a call split in several cuts the same ticks. -/
theorem ticks_on_schedule (config : RuntimeConfig) (startTime : TimePoint)
    (calls : List (LoopCall F)) (hClock : NoClockOverflow config startTime calls) :
    let interval := intervalOf (sanitizeConfig config)
    let frames := ((create (F := F) config startTime).runCalls calls).1
    let s := ((create (F := F) config startTime).runCalls calls).2
    (∀ now frames finish, AdvanceLoop now s frames finish ↔ s.advance now = (frames, finish)) ∧
      frames.map TickFrame.tick = List.range' 1 frames.length ∧
      frames.length = s.lastCompletedTick ∧
      (LoopCall.readings calls = ∅ → s.lastCompletedTick = 0) ∧
      (∀ latest, IsGreatest (LoopCall.readings calls) latest →
        (s.lastCompletedTick : Int) = max 0 ((latest - startTime) / interval)) ∧
      s.nextTickDeadline = startTime + (s.lastCompletedTick + 1) * interval ∧
      (∀ frame ∈ frames, (frame.snapshotDue = true ↔
        (sanitizeConfig config).snapshotIntervalTicks ∣ frame.tick)) ∧
      (∀ between now, (∀ time ∈ LoopCall.readings between, time ≤ now) →
        stamps (s.runCalls (between ++ [.advance now])).1 = stamps (s.advance now).1) ∧
      ∀ now first rest, (s.advance now).1 = first :: rest →
        (∀ playerId, first.inputs.filter (fun input => input.playerId = playerId) =
          (s.inputQueuesByPlayer.find playerId).getD []) ∧
        first.inputs.length = s.pendingInputCount ∧ (∀ frame ∈ rest, frame.inputs = []) ∧
        (s.advance now).2.pendingInputCount = 0 := by
  intro interval frames s
  have hPos : 0 < interval := intervalOf_pos (sanitizeConfig config)
  obtain ⟨hState, hStamps⟩ := (OnSchedule.create (F := F) config startTime).runCalls hPos calls
  have hGreatest := isGreatest_foldl_countAfter startTime interval 0 calls
  generalize calls.foldl (countAfter startTime interval) 0 = count at hState hStamps hGreatest
  have hBound := hClock.count_lt hState
  obtain ⟨hLength, hTicks, hDue⟩ := frames_of_stamps (by omega) hStamps
  have hLast : s.lastCompletedTick = count :=
    hState.counter.trans (Nat.mod_eq_of_lt (by omega))
  refine ⟨fun now frames finish => advanceLoop_iff s now frames finish, ?_, ?_, ?_, ?_, ?_, hDue,
    ?_, ?_⟩
  · rw [hTicks, hLength]
  · rw [hLast]
    exact hLength
  · intro hNone
    rw [hNone, Set.image_empty, insert_empty_eq] at hGreatest
    rw [hLast]
    exact hGreatest.1
  · intro latest hLatest
    rw [hLast]
    exact count_of_latest hPos hGreatest hLatest
  · rw [hLast]
    exact hState.deadline
  · intro between now hBefore
    obtain ⟨-, hSplit⟩ := hState.runCalls hPos (between ++ [.advance now])
    obtain ⟨-, hWhole⟩ := hState.call hPos (.advance now)
    rw [foldl_countAfter_split hPos count hBefore] at hSplit
    exact hSplit.trans hWhole.symm
  · intro now first rest hFrames
    exact ((Pending.create config startTime).runCalls calls).inputs_advance hFrames

/-- A late wake-up, then a clock that goes back. -/
theorem ticks_on_schedule_late :
    ((create (F := ℚ) { tickRateHz := 10 } 0).runCalls
        [.advance 350000000, .advance 120000000]).1.map TickFrame.tick =
      List.range' 1 ((create (F := ℚ) { tickRateHz := 10 } 0).runCalls
        [.advance 350000000, .advance 120000000]).1.length := by
  have hClock : NoClockOverflow (F := ℚ) { tickRateHz := 10 } 0
      [.advance 350000000, .advance 120000000] := by
    refine ⟨by decide, fun taken hTaken => ?_⟩
    have hAll : ∀ taken ∈ List.inits [LoopCall.advance (F := ℚ) 350000000, .advance 120000000],
        InClock ((create { tickRateHz := 10 } 0).runCalls taken).2.nextTickDeadline := by
      decide +kernel
    exact hAll taken ((List.mem_inits _ _).mpr hTaken)
  exact (ticks_on_schedule _ _ _ hClock).2.1

end Runs

end AuthoritativeLoop

end DevyFps.Server
