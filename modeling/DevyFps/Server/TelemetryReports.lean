import DevyFps.Server.InboundAccounting
import Mathlib.Algebra.Order.BigOperators.Group.List

/-! The reports of a whole run: together with the open window they count everything once, and
each is about the ticks of its own window. -/

namespace DevyFps.Server

open Foundations FloatFormat Net

/-- A tick that runs does not change what is said of the ended ones. -/
theorem foldl_clockStep (running : Option TimePoint) (ended : List Int)
    (calls : List TelemetryCall) :
    calls.foldl clockStep (running, ended) =
      ((calls.foldl clockStep (running, [])).1,
        ended ++ (calls.foldl clockStep (running, [])).2) := by
  induction calls generalizing running ended with
  | nil => simp
  | cons call rest ih =>
      have hStep : clockStep (running, ended) call =
          ((clockStep (running, []) call).1, ended ++ (clockStep (running, []) call).2) := by
        cases call with
        | endTick finishedAt => cases running <;> simp [clockStep]
        | _ => simp [clockStep]
      simp only [List.foldl_cons]
      rw [hStep, ih, ih (clockStep (running, []) call).1 (clockStep (running, []) call).2,
        List.append_assoc]

/-- After a window in which every tick ended, the clock starts anew. -/
theorem durationsIn_append {window : List TelemetryCall} (hIdle : (clockOf window).1 = none)
    (rest : List TelemetryCall) :
    durationsIn (window ++ rest) = durationsIn window ++ durationsIn rest := by
  have hClock : clockOf window = (none, durationsIn window) := by
    rw [← hIdle]
    rfl
  unfold durationsIn at hClock ⊢
  unfold clockOf at hClock ⊢
  rw [List.foldl_append, hClock, foldl_clockStep]

theorem durationsIn_nonneg (calls : List TelemetryCall) : ∀ ns ∈ durationsIn calls, 0 ≤ ns := by
  have hKept : ∀ clock : Option TimePoint × List Int, (∀ ns ∈ clock.2, 0 ≤ ns) →
      ∀ call : TelemetryCall, ∀ ns ∈ (clockStep clock call).2, 0 ≤ ns := by
    intro clock hClock call
    cases call with
    | endTick finishedAt =>
        obtain ⟨running, ended⟩ := clock
        cases running with
        | none => exact hClock
        | some startedAt =>
            intro ns hNs
            rcases List.mem_append.mp hNs with hOld | hNew
            · exact hClock ns hOld
            · rw [List.mem_singleton.mp hNew]
              unfold RuntimeTelemetry.elapsedNs
              split_ifs with hNegative
              · exact le_rfl
              · exact not_lt.mp hNegative
    | _ => exact hClock
  have hAll : ∀ clock : Option TimePoint × List Int, (∀ ns ∈ clock.2, 0 ≤ ns) →
      ∀ ns ∈ (calls.foldl clockStep clock).2, 0 ≤ ns := by
    induction calls with
    | nil => exact fun _ hClock => hClock
    | cons call rest ih => exact fun clock hClock => ih _ (hKept clock hClock call)
  exact hAll _ (by simp)

/-- The sum of durations in unsigned arithmetic. -/
theorem foldl_ofInt (durations : List Int) (start : UInt64) :
    durations.foldl (fun sum ns => sum + UInt64.ofInt ns) start =
      start + UInt64.ofInt durations.sum := by
  induction durations generalizing start with
  | nil => exact (UInt64.add_zero start).symm
  | cons ns rest ih => rw [List.foldl_cons, ih, List.sum_cons, UInt64.ofInt_add, UInt64.add_assoc]

variable {D : Type} [FloatFormat D]

/-- The mean of durations whose sum fits. -/
theorem durationStats_mean {durations : List Int} (hNonempty : durations ≠ [])
    (hNonneg : ∀ ns ∈ durations, 0 ≤ ns) (hSum : durations.sum < 2 ^ 64) :
    (RuntimeTelemetry.durationStats durations : D × D × D).1 =
      nsToMs durations.sum / ofInt durations.length := by
  have hTotal : ((UInt64.ofInt durations.sum).toNat : Int) = durations.sum := by
    have hPositive : 0 ≤ durations.sum := List.sum_nonneg hNonneg
    unfold UInt64.ofInt
    rw [UInt64.toNat_ofNat', Int.emod_eq_of_lt hPositive hSum, Nat.mod_eq_of_lt (by omega),
      Int.toNat_of_nonneg hPositive]
  unfold RuntimeTelemetry.durationStats
  rw [if_neg (by simpa using hNonempty)]
  dsimp only
  rw [foldl_ofInt, UInt64.zero_add, hTotal]

variable {config : RuntimeTelemetryConfig D} {windows : List (List TelemetryCall)}
  {reports : List (RuntimeTelemetryReport D)}

/-- The report of a window averages its part of the durations of the run. -/
theorem averages_windows
    (h : List.Forall₂ (RuntimeTelemetryReport.Covers config) windows reports)
    (rest : List TelemetryCall) {index : Nat} {report : RuntimeTelemetryReport D}
    (hReport : reports[index]? = some report) :
    report.ticksInWindow = config.reportIntervalTicks ∧
      ∃ ticks, ticks = ((durationsIn (windows.flatten ++ rest)).drop
          (index * config.reportIntervalTicks)).take config.reportIntervalTicks ∧
        ticks.length = config.reportIntervalTicks ∧
        report.tickAvgMs = (RuntimeTelemetry.durationStats ticks).1 := by
  induction h generalizing index with
  | nil => cases hReport
  | @cons window first windows reports hCovers hLater ih =>
      rw [List.flatten_cons, List.append_assoc, durationsIn_append hCovers.idle]
      cases index with
      | zero =>
          cases hReport
          refine ⟨hCovers.ticks, durationsIn window, ?_, hCovers.full, hCovers.averaged⟩
          rw [Nat.zero_mul, List.drop_zero, List.take_left' hCovers.full]
      | succ index =>
          have hDrop : (index + 1) * config.reportIntervalTicks =
              (durationsIn window).length + index * config.reportIntervalTicks := by
            rw [hCovers.full, Nat.succ_mul, Nat.add_comm]
          rw [hDrop, List.drop_length_add_append]
          exact ih hReport

/-- What is counted in a total is counted in one of its parts. -/
theorem totalNoted_parts {total : Counter} {part : Fin kRuntimeMessageTypeCount → Counter}
    (h : ∀ call : TelemetryCall, call.noted total = ∑ type, call.noted (part type))
    (calls : List TelemetryCall) :
    totalNoted calls total = ∑ type, totalNoted calls (part type) := by
  induction calls with
  | nil => simp [totalNoted]
  | cons call rest ih =>
      unfold totalNoted at ih ⊢
      simp only [List.map_cons, List.sum_cons]
      rw [Finset.sum_add_distrib, ← h call, ih]

theorem totalNoted_packetsSent (calls : List TelemetryCall) :
    totalNoted calls .packetsSent = ∑ type, totalNoted calls (.packetsOf type) := by
  apply totalNoted_parts
  intro call
  cases call <;> simp [TelemetryCall.noted]

theorem totalNoted_bytesSent (calls : List TelemetryCall) :
    totalNoted calls .bytesSent = ∑ type, totalNoted calls (.bytesOf type) := by
  apply totalNoted_parts
  intro call
  cases call <;> simp [TelemetryCall.noted]

/-- The windows of calls that the server makes are themselves such calls. -/
theorem Handled.of_windows {F : Type} [SingleFloat F] {parse : Bytes → Option (Document F)}
    {rest : List TelemetryCall} (h : Handled parse (windows.flatten ++ rest))
    (hEnded : ∀ window ∈ windows, ∃ before finishedAt, window = before ++ [.endTick finishedAt]) :
    ∀ window ∈ windows, Handled parse window := by
  induction windows with
  | nil => simp
  | cons first later ih =>
      obtain ⟨before, finishedAt, rfl⟩ := hEnded first List.mem_cons_self
      have hCalls : ((before ++ [.endTick finishedAt]) :: later).flatten ++ rest =
          before ++ .endTick finishedAt :: (later.flatten ++ rest) := by simp
      obtain ⟨hFirst, hLater⟩ := h.split hCalls
      have hAll := ih hLater fun window hWindow => hEnded window (List.mem_cons_of_mem _ hWindow)
      intro window hWindow
      rcases List.mem_cons.mp hWindow with rfl | hMem
      · exact hFirst
      · exact hAll window hMem

namespace RuntimeTelemetry

/-- The reports that a list of calls gives. -/
def reportsOf (config : RuntimeTelemetryConfig D) (calls : List TelemetryCall) :
    List (RuntimeTelemetryReport D) :=
  (outputs call (create config) calls).1

/-- The telemetry after a list of calls. -/
def stateAfter (config : RuntimeTelemetryConfig D) (calls : List TelemetryCall) :
    RuntimeTelemetry D :=
  (outputs call (create config) calls).2

/-- The reports and the open window count everything that was noted once. The counts by type of
a report add up to its totals. Each report is about as many ticks as the interval says and
averages their durations. Under the receive handler every dropped packet was one that could not
be parsed or was rejected. -/
theorem telemetry_conserved (config : RuntimeTelemetryConfig D) (hEnabled : config.enabled = true)
    {calls : List TelemetryCall} (hBelow : AllAllowed call BelowLimit (create config) calls)
    {F : Type} [SingleFloat F] (parse : Bytes → Option (Document F)) :
    (∀ counter, ((reportsOf config calls).map fun report => (report.shown counter).toNat).sum +
        ((stateAfter config calls).held counter).toNat = totalNoted calls counter) ∧
      (∀ report ∈ reportsOf config calls,
        ∑ type : Fin kRuntimeMessageTypeCount, (report.packetCountByType.get type).toNat =
            report.totalPacketsSent.toNat ∧
          ∑ type : Fin kRuntimeMessageTypeCount, (report.packetBytesByType.get type).toNat =
            report.totalPacketBytes.toNat) ∧
      (∀ index report, (reportsOf config calls)[index]? = some report →
        ∃ interval ticks, interval = (sanitizeConfig config).reportIntervalTicks ∧
          ticks = ((durationsIn calls).drop (index * interval)).take interval ∧
          report.ticksInWindow = interval ∧ ticks.length = interval ∧
          (ticks.sum < 2 ^ 64 →
            report.tickAvgMs = nsToMs ticks.sum / ofInt interval)) ∧
      (Handled parse calls → ∀ report ∈ reportsOf config calls,
        report.inboundPacketsDropped.toNat =
            report.inboundParseErrors.toNat + report.commandRejections.toNat ∧
          report.inboundPacketsDropped.toNat ≤ report.inboundPacketsReceived.toNat) := by
  obtain ⟨windows, rest, rfl, hCovers, hRest⟩ := windows_of_reports config hEnabled hBelow
  constructor
  · intro counter
    have hCounted : List.Forall₂ (fun window report =>
        (RuntimeTelemetryReport.shown report counter).toNat = totalNoted window counter) windows
        (reportsOf config (windows.flatten ++ rest)) :=
      hCovers.imp fun window report h => h.counted counter
    unfold stateAfter
    rw [hRest.counted counter]
    exact sum_windows hCounted rest
  constructor
  · intro report hReport
    obtain ⟨window, -, hWindow⟩ := exists_related hCovers hReport
    constructor
    · have hTotal := totalNoted_packetsSent window
      simp only [← hWindow.counted] at hTotal
      exact hTotal.symm
    · have hTotal := totalNoted_bytesSent window
      simp only [← hWindow.counted] at hTotal
      exact hTotal.symm
  constructor
  · intro index report hReport
    obtain ⟨hTicks, ticks, hOf, hLength, hAverage⟩ := averages_windows hCovers rest hReport
    refine ⟨_, ticks, rfl, hOf, hTicks, hLength, ?_⟩
    intro hSum
    have hNonempty : ticks ≠ [] := by
      have hPositive := sanitizeConfig_interval_pos config
      rw [← hLength] at hPositive
      exact List.ne_nil_of_length_pos hPositive
    have hNonneg : ∀ ns ∈ ticks, 0 ≤ ns := by
      intro ns hNs
      rw [hOf] at hNs
      exact durationsIn_nonneg _ ns (List.mem_of_mem_drop (List.mem_of_mem_take hNs))
    rw [hAverage, durationStats_mean hNonempty hNonneg hSum, hLength]
  · intro hHandled report hReport
    obtain ⟨window, hMem, hWindow⟩ := exists_related hCovers hReport
    have hEnded : ∀ window ∈ windows, ∃ before finishedAt,
        window = before ++ [.endTick finishedAt] := by
      intro other hOther
      obtain ⟨_, -, hOtherCovers⟩ := exists_related (List.Forall₂.flip hCovers) hOther
      exact hOtherCovers.ended
    obtain ⟨hDropped, hReceived⟩ := (hHandled.of_windows hEnded window hMem).balanced
    simp only [← hWindow.counted] at hDropped hReceived
    exact ⟨hDropped, hReceived⟩

/-- A report after every tick. -/
def everyTick : RuntimeTelemetryConfig ℚ where
  enabled := true
  reportIntervalTicks := 1

/-- A join request without a name. -/
def namelessRequest : Net.Packet (SingleFloat.Double ℚ) where
  type := .joinRequest
  payload := .object [("player_name", .string "")]

/-- A parser that knows no other document, nor an empty one. -/
def parseNameless (data : Bytes) : Option (Document ℚ) :=
  if data = [] then none else some (Net.envelope namelessRequest)

/-- What is noted in a tick of an empty packet, of the request and of its answer, and of a
snapshot. -/
def mixedCalls : List TelemetryCall :=
  .beginTick 1 100 ::
    ((MainLoop.create MainLoop.duel).receiveCalls parseNameless 101 [] 100 (fun _ => 80) ++
      ((MainLoop.create MainLoop.duel).receiveCalls parseNameless 101 [1] 100 (fun _ => 80) ++
        [.noteOutboundPacket .stateSnapshot 300, .endTick 150]))

theorem telemetry_conserved_mixed :
    totalNoted mixedCalls .parseErrors = 1 ∧ totalNoted mixedCalls .commandRejections = 1 ∧
      totalNoted mixedCalls .packetsSent = 2 ∧
      (∀ counter, ((reportsOf everyTick mixedCalls).map fun report =>
          (report.shown counter).toNat).sum +
        ((stateAfter everyTick mixedCalls).held counter).toNat = totalNoted mixedCalls counter) ∧
      reportsOf everyTick mixedCalls ≠ [] ∧
      ∀ report ∈ reportsOf everyTick mixedCalls,
        report.inboundPacketsDropped.toNat =
            report.inboundParseErrors.toNat + report.commandRejections.toNat ∧
          report.inboundPacketsDropped.toNat ≤ report.inboundPacketsReceived.toNat := by
  have hBelow : AllAllowed call BelowLimit (create everyTick) mixedCalls := by decide +kernel
  have hHandled : Handled parseNameless mixedCalls :=
    Handled.other rfl (Handled.received (MainLoop.create MainLoop.duel) 101 [] 100 (fun _ => 80)
      (Handled.received (MainLoop.create MainLoop.duel) 101 [1] 100 (fun _ => 80)
        (Handled.other rfl (Handled.other rfl Handled.nil))))
  obtain ⟨hTotals, -, -, hBalanced⟩ := telemetry_conserved everyTick rfl hBelow parseNameless
  exact ⟨by decide +kernel, by decide +kernel, by decide +kernel, hTotals, List.cons_ne_nil _ _,
    hBalanced hHandled⟩

end RuntimeTelemetry

end DevyFps.Server
