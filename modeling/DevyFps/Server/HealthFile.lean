import DevyFps.Server.RuntimeTelemetry
import DevyFps.Shared.RuntimeServerInfo

/-! The file in which a server keeps its last diagnostics, and the monitors that read it. -/

namespace DevyFps.Server

open Foundations DevyFps.Runtime

section Diagnostics

variable {D : Type} [FloatFormat D]

def kRuntimeDiagnosticsPrefix : String := "Runtime diagnostics json="

/-- The document of `format_runtime_diagnostics_json`. -/
def runtimeDiagnostics (report : RuntimeTelemetryReport D) : Json D :=
  let unsigned (n : Nat) : Json D := .numberUnsigned (UInt64.ofNat n)
  .object
    [("alerts", .array (report.alerts.map .string)),
      ("inbound", .object
        [("command_rejections", .numberUnsigned report.commandRejections),
          ("drop_rate", .numberFloat report.inboundPacketDropRate),
          ("dropped", .numberUnsigned report.inboundPacketsDropped),
          ("parse_error_rate", .numberFloat report.inboundParseErrorRate),
          ("parse_errors", .numberUnsigned report.inboundParseErrors),
          ("received", .numberUnsigned report.inboundPacketsReceived)]),
      ("kind", .string "runtime_diagnostics_v1"),
      ("players", .object
        [("avg_active", .numberFloat report.avgActivePlayers),
          ("last_active", unsigned report.lastActivePlayers),
          ("peak_active", unsigned report.peakActiveSessions)]),
      ("tick", .object
        [("avg_ms", .numberFloat report.tickAvgMs),
          ("budget_ms", .numberFloat report.tickBudgetMs),
          ("lag_count", .numberUnsigned report.tickLagCount),
          ("lag_rate", .numberFloat report.tickLagRate),
          ("max_ms", .numberFloat report.tickMaxMs),
          ("max_overrun_ms", .numberFloat report.maxTickOverrunMs),
          ("p95_ms", .numberFloat report.tickP95Ms)]),
      ("tick_index", unsigned report.tick),
      ("window_ticks", unsigned report.ticksInWindow)]

def formatRuntimeDiagnosticsJson (dump : Json D → String) (report : RuntimeTelemetryReport D) :
    String :=
  kRuntimeDiagnosticsPrefix ++ dump (runtimeDiagnostics report)

def diagnosticsJsonPayload (diagnosticsLine : String) : Option String :=
  if kRuntimeDiagnosticsPrefix.toList.isPrefixOf diagnosticsLine.toList then
    some (String.ofList (diagnosticsLine.toList.drop kRuntimeDiagnosticsPrefix.length))
  else none

def healthOutputTexts : ReplaceTexts where
  directory parent message :=
    "failed to create health output directory `" ++ parent ++ "`: " ++ message
  openFailed tmpPath := "failed to open temporary health output file `" ++ tmpPath ++ "`"
  writeFailed tmpPath := "failed to write temporary health output file `" ++ tmpPath ++ "`"
  publishFailed path message :=
    "failed to atomically publish health output file `" ++ path ++ "`: " ++ message

def writeAtomicTextFile (outputPath body : String) : FileProgram String (Except String Unit) :=
  if outputPath.isEmpty then .done (.error "health output path is empty")
  else replaceFile healthOutputTexts outputPath (Bytes.ofString body ++ newline)

/-- What `emit_runtime_report` does to the health file. -/
def emitRuntimeReport (dump : Json D → String) (healthFilePath : String)
    (report : RuntimeTelemetryReport D) : FileProgram String (Except String Unit) :=
  if healthFilePath.isEmpty then .done (.ok ())
  else
    match diagnosticsJsonPayload (formatRuntimeDiagnosticsJson dump report) with
    | none =>
        .done (.error "Health diagnostics publish skipped: malformed diagnostics line.")
    | some payload => writeAtomicTextFile healthFilePath payload

/-- The health file of a report. -/
def healthDocument (dump : Json D → String) (report : RuntimeTelemetryReport D) : Bytes :=
  Bytes.ofString (dump (runtimeDiagnostics report)) ++ newline

end Diagnostics

section Publishing

variable {D : Type} [FloatFormat D] {dump : Json D → String} {path : String}

/-- What follows the prefix is the document that was printed. -/
theorem diagnosticsJsonPayload_format (report : RuntimeTelemetryReport D) :
    diagnosticsJsonPayload (formatRuntimeDiagnosticsJson dump report) =
      some (dump (runtimeDiagnostics report)) := by
  unfold diagnosticsJsonPayload formatRuntimeDiagnosticsJson
  rw [String.toList_append, if_pos (List.isPrefixOf_iff_prefix.mpr (List.prefix_append _ _)),
    ← String.length_toList, List.drop_left, String.ofList_toList]

theorem emitRuntimeReport_eq (hPath : path ≠ "") (report : RuntimeTelemetryReport D) :
    emitRuntimeReport dump path report =
      replaceFile healthOutputTexts path (healthDocument dump report) := by
  have hEmpty : ¬path.isEmpty = true := by simpa using hPath
  unfold emitRuntimeReport
  rw [if_neg hEmpty, diagnosticsJsonPayload_format]
  exact if_neg hEmpty

theorem publishing_emitRuntimeReport (hPath : path ≠ "") :
    Publishing (path ++ ".tmp") path (emitRuntimeReport dump path)
      (fun report bytes => bytes = healthDocument dump report)
      (fun report => Replaced (healthDocument dump report)) := by
  intro report Good hGood before
  rw [emitRuntimeReport_eq hPath]
  exact careful_replaceFile (hGood _ rfl)

/-- Where no call fails, a report is written and a monitor can read it. -/
theorem exists_report_read (dump : Json D → String) (hPath : path ≠ "")
    {s : SharedFiles String (RuntimeTelemetryReport D) (Except String Unit)}
    (hStart : s.Quiet (path ++ ".tmp") path) (report : RuntimeTelemetryReport D) (reader : Nat) :
    ∃ t trace, Run (FileStep (emitRuntimeReport dump path) path) s trace t ∧
      .read reader path (healthDocument dump report) (healthDocument dump report) ∈ trace := by
  have hPublishing : Publishing (path ++ ".tmp") path (emitRuntimeReport dump path) _ _ :=
    publishing_emitRuntimeReport hPath
  obtain ⟨t, trace, run, hRead, -⟩ := hPublishing.exists_read (path_ne_tmpPath path) hStart report
    reader fun before after hPost => by
      rw [emitRuntimeReport_eq hPath, unhindered_replaceFile] at hPost
      exact hPost
  exact ⟨t, trace, run, hRead⟩

/-- Monitors see the file of one report as a whole, however many calls fail and wherever the server
stops: what a monitor reads, piece by piece while the server writes on, is what the file held when
the monitor opened it; that is the file of a report that was emitted before, or what was there when
the server started, and nothing older than the last emission that came to its end. -/
theorem health_file_coherent (dump : Json D → String) (path : String) (hPath : path ≠ "")
    {s t : SharedFiles String (RuntimeTelemetryReport D) (Except String Unit)}
    {trace : List (FileEvent String (RuntimeTelemetryReport D) (Except String Unit))}
    (run : Run (FileStep (emitRuntimeReport dump path) path) s trace t)
    (hStart : s.Quiet (path ++ ".tmp") path) (hReaders : ∀ reader, s.readers reader = none) :
    Coherent path (fun report bytes => bytes = healthDocument dump report)
      (fun report => Replaced (healthDocument dump report)) (s.files.shows path) trace :=
  (publishing_emitRuntimeReport hPath).coherent (path_ne_tmpPath path) run hStart hReaders

end Publishing

/-- The health file of a server that has not run a tick. -/
def idleDiagnostics : String :=
  "\x7b\"alerts\":[],\"inbound\":\x7b\"command_rejections\":0,\"drop_rate\":0.0,\"dropped\":0," ++
    "\"parse_error_rate\":0.0,\"parse_errors\":0,\"received\":0\x7d," ++
    "\"kind\":\"runtime_diagnostics_v1\"," ++
    "\"players\":\x7b\"avg_active\":0.0,\"last_active\":0,\"peak_active\":0\x7d," ++
    "\"tick\":\x7b\"avg_ms\":0.0,\"budget_ms\":0.0,\"lag_count\":0,\"lag_rate\":0.0," ++
    "\"max_ms\":0.0,\"max_overrun_ms\":0.0,\"p95_ms\":0.0\x7d," ++
    "\"tick_index\":0,\"window_ticks\":0\x7d"

/-- A first report is published and read. -/
theorem health_file_coherent_firstReport :
    ∃ (t : SharedFiles String (RuntimeTelemetryReport ℚ) (Except String Unit))
      (trace : List (FileEvent String (RuntimeTelemetryReport ℚ) (Except String Unit))),
      Run (FileStep (emitRuntimeReport (fun _ => idleDiagnostics) "health.json") "health.json")
          SharedFiles.none trace t ∧
        .read 0 "health.json" (Bytes.ofString idleDiagnostics ++ newline)
            (Bytes.ofString idleDiagnostics ++ newline) ∈ trace ∧
          Coherent "health.json"
            (fun report bytes => bytes = healthDocument (fun _ => idleDiagnostics) report)
            (fun report => Replaced (healthDocument (fun _ => idleDiagnostics) report)) none
            trace := by
  have hPath : "health.json" ≠ "" := by decide
  obtain ⟨t, trace, run, hRead⟩ := exists_report_read (D := ℚ) (fun _ => idleDiagnostics) hPath
    (SharedFiles.quiet_none _ _) {} 0
  exact ⟨t, trace, run, hRead,
    health_file_coherent _ "health.json" hPath run (SharedFiles.quiet_none _ _) fun _ => rfl⟩

end DevyFps.Server
