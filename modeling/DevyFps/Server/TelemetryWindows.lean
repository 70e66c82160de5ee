import DevyFps.Foundations.Windows
import DevyFps.Server.RuntimeTelemetry
import Mathlib.Algebra.BigOperators.Fin
import Mathlib.Tactic.DeriveFintype

/-! What the reports tell. Each covers a window of the calls: the counts of what was noted in it
and the durations of its ticks. -/

namespace DevyFps.Server

open Foundations FloatFormat Net

/-- The calls that the server makes; `reset` is not one of them. -/
inductive TelemetryCall where
  | setTickBudget (tickBudget : Int)
  | beginTick (tick : Nat) (startedAt : TimePoint)
  | notePhase (phase : RuntimeTickPhase) (duration : Int)
  | noteResources (resources : RuntimeResourceSnapshot)
  | noteInboundPacketReceived
  | noteInboundPacketDrop (parseError : Bool)
  | noteCommandRejected
  | noteOutboundPacket (type : MessageType) (payloadSizeBytes : Nat)
  | endTick (finishedAt : TimePoint)

/-- The things that are counted; packets and their bytes also by the number of their type. -/
inductive Counter where
  | inboundReceived
  | inboundDropped
  | parseErrors
  | commandRejections
  | packetsSent
  | bytesSent
  | packetsOf (type : Fin kRuntimeMessageTypeCount)
  | bytesOf (type : Fin kRuntimeMessageTypeCount)
  deriving DecidableEq, Fintype

/-- What a call adds to a counter. -/
def TelemetryCall.noted : TelemetryCall → Counter → Nat
  | .noteInboundPacketReceived, .inboundReceived => 1
  | .noteInboundPacketDrop _, .inboundDropped => 1
  | .noteInboundPacketDrop true, .parseErrors => 1
  | .noteCommandRejected, .commandRejections => 1
  | .noteOutboundPacket _ _, .packetsSent => 1
  | .noteOutboundPacket _ size, .bytesSent => size
  | .noteOutboundPacket type _, .packetsOf index =>
      if index = RuntimeTelemetry.messageTypeIndex type then 1 else 0
  | .noteOutboundPacket type size, .bytesOf index =>
      if index = RuntimeTelemetry.messageTypeIndex type then size else 0
  | _, _ => 0

def totalNoted (calls : List TelemetryCall) (counter : Counter) : Nat :=
  (calls.map fun call => call.noted counter).sum

/-- The tick that is running after a call, and the durations of the ticks that have ended. -/
def clockStep (clock : Option TimePoint × List Int) :
    TelemetryCall → Option TimePoint × List Int
  | .beginTick _ startedAt => (some startedAt, clock.2)
  | .endTick finishedAt =>
      match clock.1 with
      | some startedAt => (none, clock.2 ++ [RuntimeTelemetry.elapsedNs startedAt finishedAt])
      | none => clock
  | _ => clock

def clockOf (calls : List TelemetryCall) : Option TimePoint × List Int :=
  calls.foldl clockStep (none, [])

/-- The durations of the ticks that end in a list of calls. -/
def durationsIn (calls : List TelemetryCall) : List Int := (clockOf calls).2

variable {D : Type} [FloatFormat D]

namespace RuntimeTelemetry

def call (s : RuntimeTelemetry D) :
    TelemetryCall → Option (RuntimeTelemetryReport D) × RuntimeTelemetry D
  | .setTickBudget tickBudget => (none, s.setTickBudget tickBudget)
  | .beginTick tick startedAt => (none, s.beginTick tick startedAt)
  | .notePhase phase duration => (none, s.notePhase phase duration)
  | .noteResources resources => (none, s.noteResources resources)
  | .noteInboundPacketReceived => (none, s.noteInboundPacketReceived)
  | .noteInboundPacketDrop parseError => (none, s.noteInboundPacketDrop parseError)
  | .noteCommandRejected => (none, s.noteCommandRejected)
  | .noteOutboundPacket type size => (none, s.noteOutboundPacket type size)
  | .endTick finishedAt => s.endTick finishedAt

/-- What a counter of the open window holds. -/
def held (s : RuntimeTelemetry D) : Counter → UInt64
  | .inboundReceived => s.inboundPacketsReceived
  | .inboundDropped => s.inboundPacketsDropped
  | .parseErrors => s.inboundParseErrors
  | .commandRejections => s.commandRejections
  | .packetsSent => s.totalPacketsSent
  | .bytesSent => s.totalPacketBytes
  | .packetsOf type => s.packetCountByType[type]
  | .bytesOf type => s.packetBytesByType[type]

end RuntimeTelemetry

/-- What a report says of a counter. -/
def RuntimeTelemetryReport.shown (report : RuntimeTelemetryReport D) : Counter → UInt64
  | .inboundReceived => report.inboundPacketsReceived
  | .inboundDropped => report.inboundPacketsDropped
  | .parseErrors => report.inboundParseErrors
  | .commandRejections => report.commandRejections
  | .packetsSent => report.totalPacketsSent
  | .bytesSent => report.totalPacketBytes
  | .packetsOf type => report.packetCountByType[type]
  | .bytesOf type => report.packetBytesByType[type]

namespace RuntimeTelemetry

variable {s : RuntimeTelemetry D}

/-- A count that is added to leaves the others alone. -/
theorem getElem_set_add {n : Nat} (counts : Vector UInt64 n) (index other : Fin n)
    (amount : Nat) :
    (counts.set index (counts[index] + UInt64.ofNat amount))[other] =
      counts[other] + UInt64.ofNat (if other = index then amount else 0) := by
  by_cases h : other = index
  · subst h
    simp
  · have hIndex : index.val ≠ other.val := fun hSame => h (Fin.ext hSame.symm)
    simp [h, Vector.getElem_set_ne, hIndex]

/-- A call inside a window adds what it notes. -/
theorem held_call (hEnabled : s.config.enabled = true) {call : TelemetryCall}
    (hNote : ∀ finishedAt, call ≠ .endTick finishedAt) (counter : Counter) :
    (s.call call).2.held counter = s.held counter + UInt64.ofNat (call.noted counter) := by
  cases call with
  | setTickBudget tickBudget =>
      cases counter <;> simp [call, held, setTickBudget, TelemetryCall.noted]
  | beginTick tick startedAt =>
      cases counter <;> simp [call, held, beginTick, TelemetryCall.noted, hEnabled]
  | notePhase phase duration =>
      unfold RuntimeTelemetry.call notePhase
      cases counter <;> cases s.tickActive <;> simp [held, TelemetryCall.noted, hEnabled]
  | noteResources resources =>
      unfold RuntimeTelemetry.call noteResources
      cases counter <;> cases s.tickActive <;> simp [held, TelemetryCall.noted, hEnabled]
  | noteInboundPacketReceived =>
      cases counter <;>
        simp [call, held, noteInboundPacketReceived, TelemetryCall.noted, hEnabled]
  | noteInboundPacketDrop parseError =>
      cases counter <;> cases parseError <;>
        simp [call, held, noteInboundPacketDrop, TelemetryCall.noted, hEnabled]
  | noteCommandRejected =>
      cases counter <;> simp [call, held, noteCommandRejected, TelemetryCall.noted, hEnabled]
  | noteOutboundPacket type size =>
      have hCall : (s.call (.noteOutboundPacket type size)).2 = s.noteOutboundPacket type size := rfl
      rw [hCall]
      unfold noteOutboundPacket
      rw [hEnabled]
      cases counter with
      | packetsOf index =>
          exact getElem_set_add s.packetCountByType (messageTypeIndex type) index 1
      | bytesOf index =>
          exact getElem_set_add s.packetBytesByType (messageTypeIndex type) index size
      | packetsSent => rfl
      | bytesSent => rfl
      | _ => exact (UInt64.add_zero _).symm
  | endTick finishedAt => exact absurd rfl (hNote finishedAt)

/-- The tick that is running, and the durations kept in the open window. -/
def clock (s : RuntimeTelemetry D) : Option TimePoint × List Int :=
  (if s.tickActive then some s.tickStartedAt else none, s.tickDurationsNs)

/-- What a call inside a window leaves as it was, and what it does to the clock. -/
theorem clock_call (hEnabled : s.config.enabled = true) {call : TelemetryCall}
    (hNote : ∀ finishedAt, call ≠ .endTick finishedAt) :
    (s.call call).1 = none ∧ (s.call call).2.config = s.config ∧
      (s.call call).2.ticksSinceReport = s.ticksSinceReport ∧
      (s.call call).2.clock = clockStep s.clock call := by
  cases call with
  | setTickBudget tickBudget => exact ⟨rfl, rfl, rfl, rfl⟩
  | beginTick tick startedAt =>
      simp [call, beginTick, clock, clockStep, hEnabled]
  | notePhase phase duration =>
      unfold RuntimeTelemetry.call notePhase
      cases hActive : s.tickActive <;> simp [clock, clockStep, hEnabled, hActive]
  | noteResources resources =>
      unfold RuntimeTelemetry.call noteResources
      cases hActive : s.tickActive <;> simp [clock, clockStep, hEnabled, hActive]
  | noteInboundPacketReceived =>
      simp [call, noteInboundPacketReceived, clock, clockStep, hEnabled]
  | noteInboundPacketDrop parseError =>
      cases parseError <;> simp [call, noteInboundPacketDrop, clock, clockStep, hEnabled]
  | noteCommandRejected => simp [call, noteCommandRejected, clock, clockStep, hEnabled]
  | noteOutboundPacket type size =>
      simp [call, noteOutboundPacket, clock, clockStep, hEnabled]
  | endTick finishedAt => exact absurd rfl (hNote finishedAt)

/-- What `end_tick` can do: nothing, close a tick inside the window, or cut a report. -/
theorem endTick_cases (hEnabled : s.config.enabled = true) (finishedAt : TimePoint) :
    (s.tickActive = false ∧ s.endTick finishedAt = (none, s)) ∨
      ∃ closed, s.tickActive = true ∧
        closed = s.closeTick (elapsedNs s.tickStartedAt finishedAt) ∧
        (closed.ticksSinceReport < s.config.reportIntervalTicks ∧
            s.endTick finishedAt = (none, closed) ∨
          s.config.reportIntervalTicks ≤ closed.ticksSinceReport ∧
            s.endTick finishedAt = (some closed.cutReport, closed.startWindow)) := by
  cases hActive : s.tickActive with
  | false =>
      left
      refine ⟨rfl, ?_⟩
      unfold endTick
      simp [hActive]
  | true =>
      right
      refine ⟨_, rfl, rfl, ?_⟩
      unfold endTick
      rcases Nat.lt_or_ge (s.closeTick (elapsedNs s.tickStartedAt finishedAt)).ticksSinceReport
        s.config.reportIntervalTicks with hInside | hFull
      · left
        exact ⟨hInside, by simp [hEnabled, hActive, hInside]⟩
      · right
        exact ⟨hFull, by simp [hEnabled, hActive, Nat.not_lt.mpr hFull]⟩

/-- To close a tick counts nothing. -/
theorem held_closeTick (elapsed : Int) : (s.closeTick elapsed).held = s.held := by
  funext counter
  cases counter <;> rfl

/-- A new window starts at zero. -/
theorem held_startWindow (counter : Counter) : s.startWindow.held counter = 0 := by
  cases counter with
  | packetsOf type => exact Vector.getElem_replicate type.isLt
  | bytesOf type => exact Vector.getElem_replicate type.isLt
  | _ => rfl

/-- A report shows what was counted in its window. -/
theorem shown_cutReport : s.cutReport.shown = s.held := by
  funext counter
  cases counter <;> rfl

/-- Closing the tick that runs is what the clock does with its end. -/
theorem clock_closeTick (hActive : s.tickActive = true) (finishedAt : TimePoint)
    (hRoom : s.tickDurationsNs.length < s.config.historySizeTicks) :
    (s.closeTick (elapsedNs s.tickStartedAt finishedAt)).clock =
      clockStep s.clock (.endTick finishedAt) := by
  have hPushed : pushDuration s.config.historySizeTicks s.tickDurationsNs
      (elapsedNs s.tickStartedAt finishedAt) =
      s.tickDurationsNs ++ [elapsedNs s.tickStartedAt finishedAt] := by
    unfold pushDuration
    rw [if_neg]
    rw [List.length_append, List.length_singleton]
    omega
  unfold clock closeTick
  rw [hActive, hPushed]
  rfl

/-- A report comes after one tick at least. -/
theorem sanitizeConfig_interval_pos (config : RuntimeTelemetryConfig D) :
    0 < (sanitizeConfig config).reportIntervalTicks := by
  unfold sanitizeConfig
  dsimp only
  split <;> omega

/-- The history holds the ticks of a whole window. -/
theorem sanitizeConfig_interval_le (config : RuntimeTelemetryConfig D) :
    (sanitizeConfig config).reportIntervalTicks ≤ (sanitizeConfig config).historySizeTicks := by
  unfold sanitizeConfig
  dsimp only
  generalize (if config.reportIntervalTicks = 0 then 1 else config.reportIntervalTicks) = interval
  split_ifs <;> omega

end RuntimeTelemetry

/-- What is noted in a window adds up. -/
theorem totalNoted_concat (window : List TelemetryCall) (call : TelemetryCall)
    (counter : Counter) :
    totalNoted (window ++ [call]) counter = totalNoted window counter + call.noted counter := by
  simp [totalNoted]

theorem totalNoted_append (window rest : List TelemetryCall) (counter : Counter) :
    totalNoted (window ++ rest) counter = totalNoted window counter + totalNoted rest counter := by
  simp [totalNoted]

/-- The clock of a window follows its calls. -/
theorem clockOf_concat (window : List TelemetryCall) (call : TelemetryCall) :
    clockOf (window ++ [call]) = clockStep (clockOf window) call := by
  simp [clockOf]

/-- No counter reaches `2 ^ 64` with what a call notes. -/
def RuntimeTelemetry.BelowLimit (s : RuntimeTelemetry D) (call : TelemetryCall) : Prop :=
  ∀ counter, (s.held counter).toNat + call.noted counter < 2 ^ 64

instance (s : RuntimeTelemetry D) (call : TelemetryCall) : Decidable (s.BelowLimit call) :=
  inferInstanceAs (Decidable (∀ counter, (s.held counter).toNat + call.noted counter < 2 ^ 64))

/-- What is kept of the calls since the last report. -/
structure RuntimeTelemetry.Since (config : RuntimeTelemetryConfig D) (s : RuntimeTelemetry D)
    (window : List TelemetryCall) : Prop where
  sameConfig : s.config = config
  counted : ∀ counter, (s.held counter).toNat = totalNoted window counter
  timed : s.clock = clockOf window
  ticks : s.ticksSinceReport = (durationsIn window).length
  unfinished : (durationsIn window).length < config.reportIntervalTicks

/-- What a report tells of the calls since the one before. -/
structure RuntimeTelemetryReport.Covers (config : RuntimeTelemetryConfig D)
    (window : List TelemetryCall) (report : RuntimeTelemetryReport D) : Prop where
  counted : ∀ counter, (report.shown counter).toNat = totalNoted window counter
  ticks : report.ticksInWindow = config.reportIntervalTicks
  full : (durationsIn window).length = config.reportIntervalTicks
  averaged : report.tickAvgMs = (RuntimeTelemetry.durationStats (durationsIn window)).1
  idle : (clockOf window).1 = none
  ended : ∃ before finishedAt, window = before ++ [.endTick finishedAt]

namespace RuntimeTelemetry

variable {s : RuntimeTelemetry D} {config : RuntimeTelemetryConfig D}
  {window : List TelemetryCall}

/-- Without overflow the sum is the one of numbers. -/
theorem toNat_add_ofNat {count : UInt64} {amount : Nat} (h : count.toNat + amount < 2 ^ 64) :
    (count + UInt64.ofNat amount).toNat = count.toNat + amount := by
  rw [UInt64.toNat_add, UInt64.toNat_ofNat', Nat.add_mod_mod, Nat.mod_eq_of_lt h]

/-- A call inside a window becomes a part of it. -/
theorem Since.note (h : Since config s window) (hEnabled : config.enabled = true)
    {call : TelemetryCall} (hNote : ∀ finishedAt, call ≠ .endTick finishedAt)
    (hBelow : s.BelowLimit call) : Since config (s.call call).2 (window ++ [call]) := by
  rw [← h.sameConfig] at hEnabled
  obtain ⟨-, hConfig, hTicks, hClock⟩ := clock_call hEnabled hNote
  have hSame : durationsIn (window ++ [call]) = durationsIn window := by
    unfold durationsIn
    rw [clockOf_concat]
    cases call with
    | endTick finishedAt => exact absurd rfl (hNote finishedAt)
    | _ => rfl
  constructor
  · exact hConfig.trans h.sameConfig
  · intro counter
    rw [held_call hEnabled hNote, toNat_add_ofNat (hBelow counter), totalNoted_concat, h.counted]
  · rw [hClock, clockOf_concat, h.timed]
  · rw [hTicks, hSame, h.ticks]
  · rw [hSame]
    exact h.unfinished

theorem noted_endTick (finishedAt : TimePoint) (counter : Counter) :
    (TelemetryCall.endTick finishedAt).noted counter = 0 := by
  cases counter <;> rfl

/-- Without a running tick its end changes nothing. -/
theorem Since.idle (h : Since config s window) (hActive : s.tickActive = false)
    (finishedAt : TimePoint) : Since config s (window ++ [.endTick finishedAt]) := by
  have hClock : clockOf (window ++ [.endTick finishedAt]) = clockOf window := by
    rw [clockOf_concat, ← h.timed]
    unfold clock
    rw [hActive]
    rfl
  have hSame : durationsIn (window ++ [.endTick finishedAt]) = durationsIn window :=
    congrArg Prod.snd hClock
  constructor
  · exact h.sameConfig
  · intro counter
    rw [totalNoted_concat, noted_endTick, Nat.add_zero, h.counted]
  · rw [hClock, h.timed]
  · rw [hSame, h.ticks]
  · rw [hSame]
    exact h.unfinished

/-- The end of a running tick adds its duration to the window. -/
theorem Since.clock_closed (h : Since config s window) (hActive : s.tickActive = true)
    (hHistory : config.reportIntervalTicks ≤ config.historySizeTicks) (finishedAt : TimePoint) :
    (s.closeTick (elapsedNs s.tickStartedAt finishedAt)).clock =
      clockOf (window ++ [.endTick finishedAt]) := by
  have hKept : s.tickDurationsNs = durationsIn window := congrArg Prod.snd h.timed
  rw [clockOf_concat, ← h.timed]
  apply clock_closeTick hActive
  rw [hKept, h.sameConfig]
  exact h.unfinished.trans_le hHistory

/-- A closed tick has its duration noted. -/
theorem Since.ticks_closed (h : Since config s window) (hActive : s.tickActive = true)
    (finishedAt : TimePoint) :
    (s.closeTick (elapsedNs s.tickStartedAt finishedAt)).ticksSinceReport =
      (durationsIn (window ++ [.endTick finishedAt])).length := by
  have hRunning : (clockOf window).1 = some s.tickStartedAt := by
    rw [← h.timed]
    unfold clock
    rw [hActive]
    rfl
  have hLength : (durationsIn (window ++ [.endTick finishedAt])).length =
      (durationsIn window).length + 1 := by
    unfold durationsIn
    rw [clockOf_concat]
    unfold clockStep
    rw [hRunning, List.length_append, List.length_singleton]
  rw [hLength, ← h.ticks]
  rfl

/-- A tick that ends inside the window. -/
theorem Since.endTick_inside (h : Since config s window) (hEnabled : config.enabled = true)
    (hHistory : config.reportIntervalTicks ≤ config.historySizeTicks) {finishedAt : TimePoint}
    (hNone : (s.endTick finishedAt).1 = none) :
    Since config (s.endTick finishedAt).2 (window ++ [.endTick finishedAt]) := by
  rw [← h.sameConfig] at hEnabled
  obtain ⟨hActive, hSame⟩ | ⟨closed, hActive, rfl, ⟨hInside, hSame⟩ | ⟨hFull, hSame⟩⟩ :=
    s.endTick_cases hEnabled finishedAt
  · rw [hSame]
    exact h.idle hActive finishedAt
  · rw [hSame]
    rw [h.ticks_closed hActive finishedAt, h.sameConfig] at hInside
    constructor
    · exact h.sameConfig
    · intro counter
      rw [held_closeTick, h.counted, totalNoted_concat, noted_endTick, Nat.add_zero]
    · exact h.clock_closed hActive hHistory finishedAt
    · exact h.ticks_closed hActive finishedAt
    · exact hInside
  · rw [hSame] at hNone
    cases hNone

/-- A tick that ends the window: the report covers it, and nothing of it is kept. -/
theorem Since.endTick_report (h : Since config s window) (hEnabled : config.enabled = true)
    (hHistory : config.reportIntervalTicks ≤ config.historySizeTicks) {finishedAt : TimePoint}
    {report : RuntimeTelemetryReport D} (hSome : (s.endTick finishedAt).1 = some report) :
    report.Covers config (window ++ [.endTick finishedAt]) ∧
      Since config (s.endTick finishedAt).2 [] := by
  rw [← h.sameConfig] at hEnabled
  obtain ⟨hActive, hSame⟩ | ⟨closed, hActive, rfl, ⟨hInside, hSame⟩ | ⟨hFull, hSame⟩⟩ :=
    s.endTick_cases hEnabled finishedAt
  · rw [hSame] at hSome
    cases hSome
  · rw [hSame] at hSome
    cases hSome
  · rw [hSame] at hSome ⊢
    cases hSome
    have hTicks := h.ticks_closed hActive finishedAt
    have hClock := h.clock_closed hActive hHistory finishedAt
    have hFilled : (durationsIn (window ++ [.endTick finishedAt])).length =
        config.reportIntervalTicks := by
      have hLength : (s.closeTick (elapsedNs s.tickStartedAt finishedAt)).ticksSinceReport =
          (durationsIn window).length + 1 := congrArg (· + 1) h.ticks
      have hUnfinished := h.unfinished
      rw [h.sameConfig] at hFull
      omega
    constructor
    · constructor
      · intro counter
        rw [shown_cutReport, held_closeTick, h.counted, totalNoted_concat, noted_endTick,
          Nat.add_zero]
      · exact hTicks.trans hFilled
      · exact hFilled
      · exact congrArg (fun kept => (durationStats kept).1) (congrArg Prod.snd hClock)
      · exact (congrArg Prod.fst hClock).symm
      · exact ⟨window, finishedAt, rfl⟩
    · constructor
      · exact h.sameConfig
      · intro counter
        rw [held_startWindow]
        rfl
      · rfl
      · rfl
      · have hUnfinished := h.unfinished
        exact Nat.lt_of_le_of_lt (Nat.zero_le _) hUnfinished

/-- The calls of a run fall into the windows that its reports cover and an open one. -/
theorem windows_of_reports (config : RuntimeTelemetryConfig D) (hEnabled : config.enabled = true)
    {calls : List TelemetryCall} (hBelow : AllAllowed call BelowLimit (create config) calls) :
    ∃ windows rest, calls = windows.flatten ++ rest ∧
      List.Forall₂ (fun window report =>
        RuntimeTelemetryReport.Covers (sanitizeConfig config) window report) windows
        (outputs call (create config) calls).1 ∧
      Since (sanitizeConfig config) (outputs call (create config) calls).2 rest := by
  have hStart : Since (sanitizeConfig config) (create config) [] := by
    constructor
    · rfl
    · intro counter
      cases counter with
      | packetsOf type => exact congrArg UInt64.toNat (Vector.getElem_replicate type.isLt)
      | bytesOf type => exact congrArg UInt64.toNat (Vector.getElem_replicate type.isLt)
      | _ => rfl
    · rfl
    · rfl
    · exact sanitizeConfig_interval_pos config
  have hHistory := sanitizeConfig_interval_le config
  refine outputs_windows ?_ ?_ hStart hBelow
  · intro s window event h hEvent hNone
    cases event with
    | endTick finishedAt => exact h.endTick_inside hEnabled hHistory hNone
    | _ => exact h.note hEnabled (by simp) hEvent
  · intro s window event report h hEvent hSome
    cases event with
    | endTick finishedAt => exact h.endTick_report hEnabled hHistory hSome
    | _ => cases hSome

end RuntimeTelemetry

end DevyFps.Server
