import DevyFps.Foundations.Floating
import DevyFps.Foundations.Sort
import DevyFps.Server.SessionManager
import DevyFps.Shared.Net.Protocol

/-! What the server counts and times while it runs. The counts of a window of ticks are cut off
into a report and start again at zero. -/

namespace DevyFps.Server

open Foundations FloatFormat Net

inductive RuntimeTickPhase where
  | movement
  | combat
  | inventory
  | matchLifecycle
  | broadcast
  | snapshotBuild
  | snapshotSend
  | count
  deriving DecidableEq, Repr

def kRuntimeTickPhaseCount : Nat := 7

/-- One more than the number of the last message type. -/
def kRuntimeMessageTypeCount : Nat := 12

variable {D : Type} [FloatFormat D]

structure RuntimeTelemetryAlerts (D : Type) [FloatFormat D] where
  maxTickLagRate : D := ofRat 1
  maxPacketDropRate : D := ofRat 1
  maxParseErrorRate : D := ofRat 1
  minActivePlayers : Nat := 0

structure RuntimeTelemetryConfig (D : Type) [FloatFormat D] where
  enabled : Bool := false
  reportIntervalTicks : Nat := 300
  historySizeTicks : Nat := 600
  tickLagToleranceMs : D := ofRat 0.5
  alerts : RuntimeTelemetryAlerts D := {}

structure RuntimeResourceSnapshot where
  activeSessions : Nat := 0
  trackedPlayers : Nat := 0
  pendingInputs : Nat := 0
  pendingSnapshotEvents : Nat := 0
  activeTreasureSpawns : Nat := 0

structure RuntimeTelemetryReport (D : Type) [FloatFormat D] where
  tick : Nat := 0
  ticksInWindow : Nat := 0
  tickAvgMs : D := ofRat 0
  tickP95Ms : D := ofRat 0
  tickMaxMs : D := ofRat 0
  tickLagCount : UInt64 := 0
  tickLagRate : D := ofRat 0
  tickBudgetMs : D := ofRat 0
  maxTickOverrunMs : D := ofRat 0
  phaseAvgMs : Vector D kRuntimeTickPhaseCount := Vector.replicate _ (ofRat 0)
  phaseMaxMs : Vector D kRuntimeTickPhaseCount := Vector.replicate _ (ofRat 0)
  packetCountByType : Vector UInt64 kRuntimeMessageTypeCount := Vector.replicate _ 0
  packetBytesByType : Vector UInt64 kRuntimeMessageTypeCount := Vector.replicate _ 0
  totalPacketsSent : UInt64 := 0
  totalPacketBytes : UInt64 := 0
  inboundPacketsReceived : UInt64 := 0
  inboundPacketsDropped : UInt64 := 0
  inboundParseErrors : UInt64 := 0
  commandRejections : UInt64 := 0
  inboundPacketDropRate : D := ofRat 0
  inboundParseErrorRate : D := ofRat 0
  peakActiveSessions : Nat := 0
  peakTrackedPlayers : Nat := 0
  peakPendingInputs : Nat := 0
  peakPendingSnapshotEvents : Nat := 0
  peakActiveTreasureSpawns : Nat := 0
  peakEstimatedStateBytes : Nat := 0
  avgActivePlayers : D := ofRat 0
  lastActivePlayers : Nat := 0
  alerts : List String := []

/-- The tick that is running and what has been noted since the last report. -/
structure RuntimeTelemetry (D : Type) [FloatFormat D] where
  config : RuntimeTelemetryConfig D
  tickLagToleranceNs : Int
  tickActive : Bool := false
  currentTick : Nat := 0
  tickStartedAt : TimePoint := 0
  ticksSinceReport : Nat := 0
  tickBudgetNs : Int := 0
  tickLagCount : UInt64 := 0
  maxTickOverrunNs : Int := 0
  tickDurationsNs : List Int := []
  phaseTotalNs : Vector Int kRuntimeTickPhaseCount := Vector.replicate _ 0
  phaseMaxNs : Vector Int kRuntimeTickPhaseCount := Vector.replicate _ 0
  inboundPacketsReceived : UInt64 := 0
  inboundPacketsDropped : UInt64 := 0
  inboundParseErrors : UInt64 := 0
  commandRejections : UInt64 := 0
  packetCountByType : Vector UInt64 kRuntimeMessageTypeCount := Vector.replicate _ 0
  packetBytesByType : Vector UInt64 kRuntimeMessageTypeCount := Vector.replicate _ 0
  totalPacketsSent : UInt64 := 0
  totalPacketBytes : UInt64 := 0
  peakActiveSessions : Nat := 0
  peakTrackedPlayers : Nat := 0
  peakPendingInputs : Nat := 0
  peakPendingSnapshotEvents : Nat := 0
  peakActiveTreasureSpawns : Nat := 0
  peakEstimatedStateBytes : Nat := 0
  activePlayersSum : UInt64 := 0
  activePlayersSamples : Nat := 0
  lastActivePlayers : Nat := 0

def nsToMs (nanoseconds : Int) : D := ofInt nanoseconds / ofRat 1000000

def msToNs (milliseconds : D) : Int :=
  if !isFinite milliseconds || le milliseconds (ofRat 0) then 0
  else
    let nanoseconds := milliseconds * ofRat 1000000
    if le (ofInt (2 ^ 63 - 1)) nanoseconds then 2 ^ 63 - 1 else truncate nanoseconds

def percentileIndex (count : Nat) (percentile : D) : Nat :=
  if count = 0 then 0
  else
    let rank := percentile * ofInt count
    let index := max 1 (truncate (ceil rank)).toNat - 1
    if index ≥ count then count - 1 else index

def sanitizeRatio (value fallback : D) : D :=
  if !isFinite value then fallback else clamp value (ofRat 0) (ofRat 1)

namespace RuntimeTelemetry

def sanitizeConfig (config : RuntimeTelemetryConfig D) : RuntimeTelemetryConfig D :=
  let reportIntervalTicks := if config.reportIntervalTicks = 0 then 1 else config.reportIntervalTicks
  let historySizeTicks :=
    if config.historySizeTicks = 0 then reportIntervalTicks else config.historySizeTicks
  { config with
    reportIntervalTicks := reportIntervalTicks
    historySizeTicks :=
      if historySizeTicks < reportIntervalTicks then reportIntervalTicks else historySizeTicks
    tickLagToleranceMs :=
      if !isFinite config.tickLagToleranceMs || lt config.tickLagToleranceMs (ofRat 0) then
        ofRat 0.5
      else config.tickLagToleranceMs
    alerts :=
      { config.alerts with
        maxTickLagRate := sanitizeRatio config.alerts.maxTickLagRate (ofRat 1)
        maxPacketDropRate := sanitizeRatio config.alerts.maxPacketDropRate (ofRat 1)
        maxParseErrorRate := sanitizeRatio config.alerts.maxParseErrorRate (ofRat 1) } }

def create (config : RuntimeTelemetryConfig D) : RuntimeTelemetry D where
  config := sanitizeConfig config
  tickLagToleranceNs := msToNs (sanitizeConfig config).tickLagToleranceMs

def phaseIndex (phase : RuntimeTickPhase) : Fin kRuntimeTickPhaseCount :=
  match phase with
  | .movement => ⟨0, by decide⟩
  | .combat => ⟨1, by decide⟩
  | .inventory => ⟨2, by decide⟩
  | .matchLifecycle => ⟨3, by decide⟩
  | .broadcast => ⟨4, by decide⟩
  | .snapshotBuild => ⟨5, by decide⟩
  | .snapshotSend => ⟨6, by decide⟩
  | .count => ⟨0, by decide⟩

def messageTypeIndex (type : MessageType) : Fin kRuntimeMessageTypeCount :=
  if h : type.toUInt8.toNat < kRuntimeMessageTypeCount then ⟨type.toUInt8.toNat, h⟩
  else ⟨0, by decide⟩

def estimateStateBytes (resources : RuntimeResourceSnapshot) : Nat :=
  (resources.activeSessions * 256 + resources.trackedPlayers * 160 +
    resources.pendingInputs * 64 + resources.pendingSnapshotEvents * 128 +
    resources.activeTreasureSpawns * 96) % 2 ^ 64

def setTickBudget (s : RuntimeTelemetry D) (tickBudget : Int) : RuntimeTelemetry D :=
  { s with tickBudgetNs := if tickBudget < 0 then 0 else tickBudget }

def beginTick (s : RuntimeTelemetry D) (tick : Nat) (startedAt : TimePoint) : RuntimeTelemetry D :=
  if !s.config.enabled then s
  else { s with currentTick := tick, tickStartedAt := startedAt, tickActive := true }

def notePhase (s : RuntimeTelemetry D) (phase : RuntimeTickPhase) (duration : Int) :
    RuntimeTelemetry D :=
  if !s.config.enabled || !s.tickActive then s
  else
    let index := phaseIndex phase
    let elapsed := if duration < 0 then 0 else duration
    { s with
      phaseTotalNs := s.phaseTotalNs.set index (s.phaseTotalNs[index] + elapsed)
      phaseMaxNs := s.phaseMaxNs.set index (max s.phaseMaxNs[index] elapsed) }

def noteResources (s : RuntimeTelemetry D) (resources : RuntimeResourceSnapshot) :
    RuntimeTelemetry D :=
  if !s.config.enabled || !s.tickActive then s
  else
    { s with
      peakActiveSessions := max s.peakActiveSessions resources.activeSessions
      peakTrackedPlayers := max s.peakTrackedPlayers resources.trackedPlayers
      peakPendingInputs := max s.peakPendingInputs resources.pendingInputs
      peakPendingSnapshotEvents := max s.peakPendingSnapshotEvents resources.pendingSnapshotEvents
      peakActiveTreasureSpawns := max s.peakActiveTreasureSpawns resources.activeTreasureSpawns
      peakEstimatedStateBytes := max s.peakEstimatedStateBytes (estimateStateBytes resources)
      activePlayersSum := s.activePlayersSum + UInt64.ofNat resources.activeSessions
      activePlayersSamples := s.activePlayersSamples + 1
      lastActivePlayers := resources.activeSessions }

def noteInboundPacketReceived (s : RuntimeTelemetry D) : RuntimeTelemetry D :=
  if !s.config.enabled then s
  else { s with inboundPacketsReceived := s.inboundPacketsReceived + 1 }

def noteInboundPacketDrop (s : RuntimeTelemetry D) (parseError : Bool) : RuntimeTelemetry D :=
  if !s.config.enabled then s
  else
    let dropped := { s with inboundPacketsDropped := s.inboundPacketsDropped + 1 }
    if parseError then { dropped with inboundParseErrors := s.inboundParseErrors + 1 } else dropped

def noteCommandRejected (s : RuntimeTelemetry D) : RuntimeTelemetry D :=
  if !s.config.enabled then s else { s with commandRejections := s.commandRejections + 1 }

def noteOutboundPacket (s : RuntimeTelemetry D) (type : MessageType) (payloadSizeBytes : Nat) :
    RuntimeTelemetry D :=
  if !s.config.enabled then s
  else
    let index := messageTypeIndex type
    let size := UInt64.ofNat payloadSizeBytes
    { s with
      packetCountByType := s.packetCountByType.set index (s.packetCountByType[index] + 1)
      packetBytesByType := s.packetBytesByType.set index (s.packetBytesByType[index] + size)
      totalPacketsSent := s.totalPacketsSent + 1
      totalPacketBytes := s.totalPacketBytes + size }

/-- The mean, the 95th percentile and the greatest of the durations, in milliseconds. -/
def durationStats (durations : List Int) : D × D × D :=
  if durations.isEmpty then (ofRat 0, ofRat 0, ofRat 0)
  else
    let sumNs : UInt64 := durations.foldl (fun sum ns => sum + UInt64.ofInt ns) 0
    let sorted := sortBy (fun lhs rhs : Int => decide (lhs < rhs)) durations
    (nsToMs sumNs.toNat / ofInt durations.length,
      nsToMs (sorted.getD (percentileIndex sorted.length (ofRat 0.95 : D)) 0),
      nsToMs (sorted.getLastD 0))

/-- The texts of the limits that a report exceeds. -/
def alertsOf (alerts : RuntimeTelemetryAlerts D) (tickLagRate dropRate parseErrorRate avgPlayers : D) :
    List String :=
  (if lt alerts.maxTickLagRate tickLagRate then ["tick_lag_rate_exceeded"] else []) ++
  (if lt alerts.maxPacketDropRate dropRate then ["packet_drop_rate_exceeded"] else []) ++
  (if lt alerts.maxParseErrorRate parseErrorRate then ["parse_error_rate_exceeded"] else []) ++
  (if alerts.minActivePlayers > 0 && lt avgPlayers (ofInt alerts.minActivePlayers) then
    ["active_players_below_min"] else [])

def buildReport (s : RuntimeTelemetry D) : RuntimeTelemetryReport D :=
  let (tickAvgMs, tickP95Ms, tickMaxMs) := durationStats s.tickDurationsNs
  let tickCount : D := ofInt (max s.ticksSinceReport 1 : Nat)
  let tickLagRate := ofInt s.tickLagCount.toNat / tickCount
  let rateOf (count : UInt64) : D :=
    if s.inboundPacketsReceived > 0 then
      ofInt count.toNat / ofInt s.inboundPacketsReceived.toNat
    else ofRat 0
  let avgActivePlayers : D :=
    if s.activePlayersSamples > 0 then
      ofInt s.activePlayersSum.toNat / ofInt s.activePlayersSamples
    else ofRat 0
  { tickAvgMs, tickP95Ms, tickMaxMs, tickLagRate, avgActivePlayers
    phaseAvgMs := s.phaseTotalNs.map fun total => nsToMs total / tickCount
    phaseMaxMs := s.phaseMaxNs.map nsToMs
    tickLagCount := s.tickLagCount
    tickBudgetMs := nsToMs s.tickBudgetNs
    maxTickOverrunMs := nsToMs s.maxTickOverrunNs
    packetCountByType := s.packetCountByType
    packetBytesByType := s.packetBytesByType
    totalPacketsSent := s.totalPacketsSent
    totalPacketBytes := s.totalPacketBytes
    inboundPacketsReceived := s.inboundPacketsReceived
    inboundPacketsDropped := s.inboundPacketsDropped
    inboundParseErrors := s.inboundParseErrors
    commandRejections := s.commandRejections
    inboundPacketDropRate := rateOf s.inboundPacketsDropped
    inboundParseErrorRate := rateOf s.inboundParseErrors
    peakActiveSessions := s.peakActiveSessions
    peakTrackedPlayers := s.peakTrackedPlayers
    peakPendingInputs := s.peakPendingInputs
    peakPendingSnapshotEvents := s.peakPendingSnapshotEvents
    peakActiveTreasureSpawns := s.peakActiveTreasureSpawns
    peakEstimatedStateBytes := s.peakEstimatedStateBytes
    lastActivePlayers := s.lastActivePlayers
    alerts := alertsOf s.config.alerts tickLagRate (rateOf s.inboundPacketsDropped)
      (rateOf s.inboundParseErrors) avgActivePlayers }

/-- The duration of a tick that began at `startedAt`. -/
def elapsedNs (startedAt finishedAt : TimePoint) : Int :=
  if finishedAt - startedAt < 0 then 0 else finishedAt - startedAt

/-- Add the duration and drop the oldest beyond the history. -/
def pushDuration (history : Nat) (durations : List Int) (elapsed : Int) : List Int :=
  let pushed := durations ++ [elapsed]
  if pushed.length > history then pushed.tail else pushed

/-- How long a tick may take before it counts as late. -/
def lagThresholdNs (budget tolerance : Int) : Int :=
  if tolerance > 0 ∧ budget ≤ 2 ^ 63 - 1 - tolerance then budget + tolerance
  else if tolerance > 0 then 2 ^ 63 - 1 else budget

/-- The first half of `end_tick`: what the finished tick adds to the window. -/
def closeTick (s : RuntimeTelemetry D) (elapsed : Int) : RuntimeTelemetry D :=
  let late := s.tickBudgetNs > 0 ∧ elapsed > lagThresholdNs s.tickBudgetNs s.tickLagToleranceNs
  { s with
    tickDurationsNs := pushDuration s.config.historySizeTicks s.tickDurationsNs elapsed
    tickLagCount := if late then s.tickLagCount + 1 else s.tickLagCount
    maxTickOverrunNs :=
      if late then max s.maxTickOverrunNs (elapsed - s.tickBudgetNs) else s.maxTickOverrunNs
    tickActive := false
    ticksSinceReport := s.ticksSinceReport + 1 }

/-- The second half of `end_tick`: every count starts again. -/
def startWindow (s : RuntimeTelemetry D) : RuntimeTelemetry D :=
  { s with
    ticksSinceReport := 0
    tickLagCount := 0
    maxTickOverrunNs := 0
    tickDurationsNs := []
    phaseTotalNs := Vector.replicate _ 0
    phaseMaxNs := Vector.replicate _ 0
    inboundPacketsReceived := 0
    inboundPacketsDropped := 0
    inboundParseErrors := 0
    commandRejections := 0
    packetCountByType := Vector.replicate _ 0
    packetBytesByType := Vector.replicate _ 0
    totalPacketsSent := 0
    totalPacketBytes := 0
    peakActiveSessions := 0
    peakTrackedPlayers := 0
    peakPendingInputs := 0
    peakPendingSnapshotEvents := 0
    peakActiveTreasureSpawns := 0
    peakEstimatedStateBytes := 0
    activePlayersSum := 0
    activePlayersSamples := 0
    lastActivePlayers := 0 }

/-- The report with the fields that `end_tick` fills in. -/
def cutReport (s : RuntimeTelemetry D) : RuntimeTelemetryReport D :=
  { s.buildReport with tick := s.currentTick, ticksInWindow := s.ticksSinceReport }

def endTick (s : RuntimeTelemetry D) (finishedAt : TimePoint) :
    Option (RuntimeTelemetryReport D) × RuntimeTelemetry D :=
  if !s.config.enabled || !s.tickActive then (none, s)
  else
    let closed := s.closeTick (elapsedNs s.tickStartedAt finishedAt)
    if closed.ticksSinceReport < s.config.reportIntervalTicks then (none, closed)
    else (some closed.cutReport, closed.startWindow)

end RuntimeTelemetry

end DevyFps.Server
