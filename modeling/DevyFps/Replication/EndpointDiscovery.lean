import DevyFps.Foundations.FileProcesses
import DevyFps.Server.ServerSettings
import DevyFps.Shared.RuntimeServerInfo

/-! Servers that announce their port in a file, and the clients on the same machine that find it
there. -/

namespace DevyFps.Replication

open Foundations FloatFormat DevyFps.Runtime
open Net (Document)

section Servers

def kPortSearchWindow : Nat := 32

/-- The candidates after the configured port, from an offset on. -/
def searchPort (tryBindPort : Int → Bool) (port : Int) (offset : Nat) : (attempts : Nat) → Option Int
  | 0 => none
  | attempts + 1 =>
      let candidatePort := port + offset
      if candidatePort > 65535 then none
      else if tryBindPort candidatePort then some candidatePort
      else searchPort tryBindPort port (offset + 1) attempts

/-- The port at which a server listens, where it finds one. -/
def bindPort (tryBindPort : Int → Bool) (port : Int) (portAutoDiscovery : Bool) : Option Int :=
  if tryBindPort port then some port
  else if portAutoDiscovery then searchPort tryBindPort port 1 kPortSearchWindow
  else none

/-- A server that starts on a validated configuration, and the ports that it can bind. -/
structure ServerStart where
  configPath : String
  port : Int
  hPort : 1 ≤ port ∧ port ≤ 65535
  portAutoDiscovery : Bool
  startedMs : Int
  tryBindPort : Int → Bool

namespace ServerStart

def boundPort (start : ServerStart) : Option Int :=
  bindPort start.tryBindPort start.port start.portAutoDiscovery

def endpoint (start : ServerStart) (boundPort : Int) : ServerEndpointInfo where
  host := "127.0.0.1"
  port := UInt16.ofNat (boundPort % 2 ^ 16).toNat
  configPath := start.configPath
  startedAtUnixMs := if start.startedMs > 0 then UInt64.ofNat start.startedMs.toNat else 0

/-- A server that found no port stops at once. -/
def announce {D : Type} (dump : Json D → String) (connectionRuntimePortFile : String)
    (start : ServerStart) : FileProgram String (Except String Unit) :=
  match start.boundPort with
  | none =>
      .done (.error
        ("Failed to create ENet server on configured port " ++ toString start.port ++
          ". Check whether another server instance is already bound to this port."))
  | some boundPort =>
      if connectionRuntimePortFile.isEmpty then .done (.ok ())
      else writeActiveServerInfo dump connectionRuntimePortFile (start.endpoint boundPort)

end ServerStart

/-- What a server does to the file when it stops, by the endpoint that it finds there. -/
def cleanUpEndpoint (connectionRuntimePortFile : String) (published : ServerEndpointInfo)
    (active : Except String ServerEndpointInfo) : FileProgram String (Except String Unit) :=
  match active with
  | .error readError => .done (.error readError)
  | .ok active =>
      if active.port = published.port ∧ active.startedAtUnixMs = published.startedAtUnixMs ∧
          active.configPath = published.configPath then
        removeActiveServerInfo connectionRuntimePortFile
      else .done (.ok ())

/-- A server leaves the endpoint of another one alone. -/
theorem cleanUpEndpoint_of_other {path : String} {published active : ServerEndpointInfo}
    (h : ¬(active.port = published.port ∧ active.startedAtUnixMs = published.startedAtUnixMs ∧
      active.configPath = published.configPath)) :
    cleanUpEndpoint path published (.ok active) = .done (.ok ()) := if_neg h

/-- What servers do to the file. -/
inductive EndpointRequest where
  | announce (start : ServerStart)
  | cleanUp (published : ServerEndpointInfo) (active : Except String ServerEndpointInfo)

def EndpointRequest.program {D : Type} (dump : Json D → String)
    (connectionRuntimePortFile : String) :
    EndpointRequest → FileProgram String (Except String Unit)
  | announce start => start.announce dump connectionRuntimePortFile
  | cleanUp published active => cleanUpEndpoint connectionRuntimePortFile published active

/-- The documents that servers publish. -/
inductive EndpointRequest.Publishes {D : Type} (dump : Json D → String) :
    EndpointRequest → Bytes → Prop where
  | announce (start : ServerStart) (boundPort : Int) (hBound : start.boundPort = some boundPort) :
      Publishes dump (.announce start) (activeServerDocument dump (start.endpoint boundPort))

/-- What the programs promise: a server that announced itself is found, and one that stopped left
the file as it was or removed it. -/
def EndpointRequest.Promises {D : Type} (dump : Json D → String) :
    EndpointRequest → Option Bytes → Except String Unit → Option Bytes → Prop
  | announce start, before, result, after =>
      match start.boundPort with
      | none => after = before ∧ result ≠ .ok ()
      | some boundPort =>
          Replaced (activeServerDocument dump (start.endpoint boundPort)) before result after
  | cleanUp _ _, before, _, after => after = before ∨ after = none

/-- The first port that can be bound, from an offset on. -/
theorem searchPort_eq_some {tryBindPort : Int → Bool} {port boundPort : Int} {offset attempts : Nat}
    (h : searchPort tryBindPort port offset attempts = some boundPort) :
    tryBindPort boundPort = true ∧ port + offset ≤ boundPort ∧
      boundPort < port + offset + attempts ∧ boundPort ≤ 65535 ∧
        ∀ other, port + offset ≤ other → other < boundPort → tryBindPort other = false := by
  induction attempts generalizing offset with
  | zero => cases h
  | succ attempts ih =>
      unfold searchPort at h
      dsimp only at h
      split at h
      · cases h
      next hRange =>
      split at h
      · next hBinds =>
          obtain rfl := Option.some.inj h
          exact ⟨hBinds, by omega, by omega, by omega, fun other hLow hHigh => by omega⟩
      · next hTaken =>
          obtain ⟨hBinds, hLow, hHigh, hLast, hEarlier⟩ := ih h
          refine ⟨hBinds, by omega, by omega, hLast, fun other hFrom hTo => ?_⟩
          by_cases hFirst : other = port + offset
          · rw [hFirst]
            exact Bool.eq_false_iff.mpr hTaken
          · exact hEarlier other (by omega) hTo

/-- A server listens at the first port from the configured one on that it could bind. -/
structure ListensAt (start : ServerStart) (boundPort : Int) : Prop where
  binds : start.tryBindPort boundPort = true
  configured : start.port ≤ boundPort
  window : boundPort ≤ start.port + kPortSearchWindow
  range : boundPort ≤ 65535
  first : ∀ other, start.port ≤ other → other < boundPort → start.tryBindPort other = false
  discovery : boundPort ≠ start.port → start.portAutoDiscovery = true

theorem listensAt_of_boundPort {start : ServerStart} {boundPort : Int}
    (h : start.boundPort = some boundPort) : ListensAt start boundPort := by
  unfold ServerStart.boundPort bindPort at h
  obtain ⟨hLow, hHigh⟩ := start.hPort
  split at h
  · next hBinds =>
      obtain rfl := Option.some.inj h
      exact ⟨hBinds, by omega, by omega, hHigh, fun other hFrom hTo => by omega,
        fun hNe => absurd rfl hNe⟩
  next hTaken =>
  split at h
  · next hDiscovery =>
      obtain ⟨hBinds, hFrom, hTo, hRange, hFirst⟩ := searchPort_eq_some h
      refine ⟨hBinds, by omega, by omega, hRange, fun other hOther hEarlier => ?_,
        fun _ => hDiscovery⟩
      by_cases hConfigured : other = start.port
      · rw [hConfigured]
        exact Bool.eq_false_iff.mpr hTaken
      · exact hFirst other (by omega) hEarlier
  · cases h

/-- The endpoint has the port at which the server listens. -/
theorem endpoint_port {start : ServerStart} {boundPort : Int} (h : ListensAt start boundPort) :
    ((start.endpoint boundPort).port.toNat : Int) = boundPort ∧
      (start.endpoint boundPort).port ≠ 0 := by
  obtain ⟨hLow, -⟩ := start.hPort
  have hFrom := h.configured
  have hTo := h.range
  have hPort : (start.endpoint boundPort).port.toNat = boundPort.toNat := by
    change (UInt16.ofNat (boundPort % 2 ^ 16).toNat).toNat = _
    rw [Int.emod_eq_of_lt (by omega) (by omega),
      UInt16.toNat_ofNat_of_lt' (show boundPort.toNat < 65536 by omega)]
  refine ⟨by omega, fun hZero => ?_⟩
  rw [hZero, UInt16.toNat_zero] at hPort
  omega

variable {D : Type} {dump : Json D → String} {path : String}

theorem announce_eq {start : ServerStart} {boundPort : Int} (hPath : path ≠ "")
    (h : start.boundPort = some boundPort) :
    start.announce dump path = writeActiveServerInfo dump path (start.endpoint boundPort) := by
  unfold ServerStart.announce
  rw [h]
  exact if_neg (by simpa using hPath)

theorem promises_announce {start : ServerStart} {boundPort : Int}
    (h : start.boundPort = some boundPort) {before after : Option Bytes}
    {result : Except String Unit} :
    EndpointRequest.Promises dump (.announce start) before result after ↔
      Replaced (activeServerDocument dump (start.endpoint boundPort)) before result after := by
  unfold EndpointRequest.Promises
  dsimp only
  rw [h]

/-- Whatever fails, the programs of the servers publish whole documents. -/
theorem publishing_endpoints (hPath : path ≠ "") :
    Publishing (path ++ ".tmp") path (EndpointRequest.program dump path)
      (EndpointRequest.Publishes dump) (EndpointRequest.Promises dump) := by
  intro request Good hGood before
  cases request with
  | announce start =>
      change (start.announce dump path).Careful _ _ _ _ _
      cases hBound : start.boundPort with
      | none =>
          unfold ServerStart.announce
          rw [hBound]
          change EndpointRequest.Promises dump (.announce start) before _ before
          unfold EndpointRequest.Promises
          dsimp only
          rw [hBound]
          exact ⟨rfl, nofun⟩
      | some boundPort =>
          rw [announce_eq hPath hBound]
          have hWrite : (writeActiveServerInfo dump path (start.endpoint boundPort)).Disciplined
              (path ++ ".tmp") path Good _ :=
            disciplined_writeActiveServerInfo fun _ _ => hGood _ (.announce start _ hBound)
          exact (hWrite before).mono _ _ fun _ _ h => (promises_announce hBound).mpr h
  | cleanUp published active =>
      change (cleanUpEndpoint path published active).Careful _ _ _ _ _
      unfold cleanUpEndpoint
      split
      · exact .inl rfl
      split
      · have hRemove : (removeActiveServerInfo path).Disciplined (path ++ ".tmp") path Good _ :=
          disciplined_removeActiveServerInfo
        refine (hRemove before).mono _ _ fun result after h => ?_
        cases result with
        | ok _ => exact .inr h
        | error _ => exact .inl h
      · exact .inl rfl

end Servers

section Clients

variable {F : Type} [SingleFloat F]

structure ConnectionSettings where
  host : String := "127.0.0.1"
  port : Int := 7777
  portAutoDiscovery : Bool := false
  runtimePortFile : String := ""

def readConnection (serverConfig : Document F) (settings : ConnectionSettings) :
    Except JsonError ConnectionSettings :=
  if serverConfig.contains "connection" then do
    let connection ← serverConfig.index "connection"
    if connection.isObject then do
      let portAutoDiscovery ←
        connection.valueAs Json.getBool "port_auto_discovery" settings.portAutoDiscovery
      let runtimePortFile ←
        connection.valueAs Json.getString "runtime_port_file" settings.runtimePortFile
      return { settings with portAutoDiscovery, runtimePortFile }
    else return settings
  else return settings

/-- What the client reads about its connection. -/
def readConnectionSettings (serverConfig : Document F) : Except JsonError ConnectionSettings := do
  let port ← serverConfig.valueAs (fun value => value.getInt.map Int32.toInt) "port" 7777
  let host ← serverConfig.valueAs Json.getString "host" "127.0.0.1"
  let settings ← readConnection serverConfig
    { host, port := if port ≤ 0 ∨ port > 65535 then 7777 else port }
  return { settings with
    runtimePortFile :=
      if settings.portAutoDiscovery && settings.runtimePortFile.isEmpty then
        "runtime/active-server.json"
      else settings.runtimePortFile }

/-- Where the client connects. `content` is what its file holds. -/
def discoverEndpoint {D : Type} (parse : Bytes → Except String (Json D))
    (resolvePath : String → String) (settings : ConnectionSettings) (content : Option Bytes) :
    String × Int :=
  if settings.portAutoDiscovery && !settings.runtimePortFile.isEmpty then
    match readActiveServerInfo parse (resolvePath settings.runtimePortFile) content with
    | .ok discovered => (discovered.host, discovered.port.toNat)
    | .error _ => (settings.host, settings.port)
  else (settings.host, settings.port)

/-- A client that discovers its server has a file to look into. -/
theorem runtimePortFile_nonempty {serverConfig : Document F} {settings : ConnectionSettings}
    (h : readConnectionSettings serverConfig = .ok settings)
    (hDiscovery : settings.portAutoDiscovery = true) : settings.runtimePortFile ≠ "" := by
  unfold readConnectionSettings at h
  obtain ⟨port, -, h⟩ := ok_of_bind h
  obtain ⟨host, -, h⟩ := ok_of_bind h
  obtain ⟨inner, -, h⟩ := ok_of_bind h
  injection h with h
  subst h
  change inner.portAutoDiscovery = true at hDiscovery
  dsimp only
  rw [hDiscovery, Bool.true_and]
  split
  · decide
  · next hFile => simpa using hFile

/-- A client that finds the file of an endpoint connects to that endpoint. -/
theorem discoverEndpoint_eq {D : Type} {parse : Bytes → Except String (Json D)}
    {resolvePath : String → String} {settings : ConnectionSettings} {content : Option Bytes}
    {info : ServerEndpointInfo} (hDiscovery : settings.portAutoDiscovery = true)
    (hFile : settings.runtimePortFile ≠ "")
    (hRead : readActiveServerInfo parse (resolvePath settings.runtimePortFile) content = .ok info) :
    discoverEndpoint parse resolvePath settings content = (info.host, (info.port.toNat : Int)) := by
  have hNonempty : settings.runtimePortFile.isEmpty = false := by simpa using hFile
  unfold discoverEndpoint
  rw [hDiscovery, hNonempty, hRead]
  rfl

end Clients

/-- A file leads every client that discovers its server there to the port at which a server
listens. -/
def LeadsTo {D : Type} (parse : Bytes → Except String (Json D)) (path : String) (bytes : Bytes)
    (start : ServerStart) : Prop :=
  ∃ boundPort, ListensAt start boundPort ∧
    ∀ (F : Type) [SingleFloat F] (serverConfig : Document F) (settings : ConnectionSettings)
      (resolvePath : String → String), readConnectionSettings serverConfig = .ok settings →
        settings.portAutoDiscovery = true → resolvePath settings.runtimePortFile = path →
          discoverEndpoint parse resolvePath settings (some bytes) = ("127.0.0.1", boundPort)

section Discovery

variable {D : Type} {dump : Json D → String} {parse : Bytes → Except String (Json D)}
  {path : String}

theorem leadsTo_of_document (hPath : path ≠ "") {start : ServerStart} {boundPort : Int}
    (hBound : start.boundPort = some boundPort)
    (hParse : parse (activeServerDocument dump (start.endpoint boundPort)) =
      .ok (start.endpoint boundPort).payload) :
    LeadsTo parse path (activeServerDocument dump (start.endpoint boundPort)) start := by
  have hListens := listensAt_of_boundPort hBound
  obtain ⟨hPort, hNonzero⟩ := endpoint_port hListens
  refine ⟨boundPort, hListens, ?_⟩
  intro F _ serverConfig settings resolvePath hSettings hDiscovery hResolve
  have hHost : (start.endpoint boundPort).host ≠ "" := show "127.0.0.1" ≠ "" by decide
  have hRead := readActiveServerInfo_document hPath hHost hNonzero hParse
  have hFound := discoverEndpoint_eq hDiscovery (runtimePortFile_nonempty hSettings hDiscovery)
    (hResolve ▸ hRead)
  rw [hFound, hPort]
  rfl

/-- Servers start, announce themselves, stop and crash, while clients read the file. What a client
gets is what the file held when it was opened. Where the servers take turns with the file, that
leads the client to a server that announced itself before, and to the last one that did, once no
other has begun to since. -/
theorem clients_find_servers (dump : Json D → String) (parse : Bytes → Except String (Json D))
    (path : String) (hPath : path ≠ "")
    {s t : ProcessFiles String EndpointRequest (Except String Unit)}
    {trace : List (Nat × FileEvent String EndpointRequest (Except String Unit))}
    (run : Run (ProcessStep (EndpointRequest.program dump path) path) s trace t)
    (hStart : s.Quiet (path ++ ".tmp") path) (hReaders : ∀ reader, s.readers reader = none)
    (hTurns : TakeTurns trace)
    (hParse : ∀ server start boundPort, (server, .started (.announce start)) ∈ trace →
      start.boundPort = some boundPort →
        parse (activeServerDocument dump (start.endpoint boundPort)) =
          .ok (start.endpoint boundPort).payload) :
    (∀ earlier later client reader seen got,
      trace = earlier ++ (client, .read reader path seen got) :: later →
        got = seen ∧ ∃ opener, (opener, .opened reader path seen) ∈ earlier) ∧
    (∀ earlier later client reader seen,
      trace = earlier ++ (client, .opened reader path seen) :: later →
        s.files.shows path = some seen ∨ ∃ server start,
          (server, .started (.announce start)) ∈ earlier ∧ LeadsTo parse path seen start) ∧
    ∀ earlier middle later server start before after client reader seen,
      trace = earlier ++ (server, .finished (.announce start) before (.ok ()) after) ::
          (middle ++ (client, .opened reader path seen) :: later) →
        (∀ other next, (other, .started (.announce next)) ∉ middle) →
          LeadsTo parse path seen start := by
  have hPublishing : Publishing (path ++ ".tmp") path (EndpointRequest.program dump path) _ _ :=
    publishing_endpoints hPath
  have hCoherent := hPublishing.coherent_processes (path_ne_tmpPath path) run hStart hReaders hTurns
  obtain ⟨only, -, hSerial⟩ := serial_run run hStart.idle hTurns
  refine ⟨?_, ?_, ?_⟩
  · intro earlier later client reader seen got hTrace
    obtain ⟨hGot, hOpened⟩ := hCoherent.read (earlier.map Prod.snd) (later.map Prod.snd) reader seen
      got (by rw [hTrace, List.map_append, List.map_cons])
    obtain ⟨⟨opener, event⟩, hIn, rfl⟩ := List.mem_map.mp hOpened
    exact ⟨hGot, opener, hIn⟩
  · intro earlier later client reader seen hTrace
    refine (hCoherent.opened (earlier.map Prod.snd) (later.map Prod.snd) reader seen
      (by rw [hTrace, List.map_append, List.map_cons])).imp_right ?_
    rintro ⟨request, hStarted, hPublishes⟩
    obtain ⟨⟨server, event⟩, hIn, rfl⟩ := List.mem_map.mp hStarted
    cases hPublishes with
    | announce start boundPort hBound =>
        have hTold : (server, .started (.announce start)) ∈ trace :=
          hTrace ▸ List.mem_append_left _ hIn
        exact ⟨server, start, hIn, leadsTo_of_document hPath hBound (hParse _ _ _ hTold hBound)⟩
  · intro earlier middle later server start before after client reader seen hTrace hNoOther
    have hEvents : trace.map Prod.snd = earlier.map Prod.snd ++
        .finished (.announce start) before (.ok ()) after ::
          (middle.map Prod.snd ++ .opened reader path seen :: later.map Prod.snd) := by
      rw [hTrace, List.map_append, List.map_cons, List.map_append, List.map_cons]
    have hPost := hCoherent.finished (.announce start) before (.ok ()) after
      (hEvents ▸ List.mem_append_right _ List.mem_cons_self)
    cases hBound : start.boundPort with
    | none =>
        unfold EndpointRequest.Promises at hPost
        dsimp only at hPost
        rw [hBound] at hPost
        exact absurd rfl hPost.2
    | some boundPort =>
        have hAfter : after = some _ := (promises_announce hBound).mp hPost
        rcases hCoherent.since _ _ _ _ _ _ _ _ _ hEvents with hSeen | ⟨request, hNew, hPublishes⟩
        · obtain rfl := Option.some.inj (hAfter.symm.trans hSeen)
          have hStarted := started_of_finished (hEvents ▸ hSerial) hStart.files.idle
          obtain ⟨⟨starter, event⟩, hIn, rfl⟩ := List.mem_map.mp hStarted
          have hTold : (starter, .started (.announce start)) ∈ trace :=
            hTrace ▸ List.mem_append_left _ hIn
          exact leadsTo_of_document hPath hBound (hParse _ _ _ hTold hBound)
        · -- Servers that clean up publish nothing.
          obtain ⟨⟨other, event⟩, hIn, rfl⟩ := List.mem_map.mp hNew
          cases hPublishes with
          | announce next => exact absurd hIn (hNoOther other next)

/-- A server announces itself, another one stops, and then a client looks into the file. -/
def announcedAndRead (path : String) (start : ServerStart) (stops : EndpointRequest)
    (before : Option Bytes) (stopped : Except String Unit) (document : Bytes) (reader : Nat)
    (calls : List (FileEvent String EndpointRequest (Except String Unit))) :
    List (Nat × FileEvent String EndpointRequest (Except String Unit)) :=
  (FileEvent.started (EndpointRequest.announce start) :: calls ++
      [FileEvent.finished (EndpointRequest.announce start) before (Except.ok ())
        (some document)]).map (0, ·) ++
    ([FileEvent.started stops, .finished stops (some document) stopped (some document)].map (1, ·) ++
      [FileEvent.opened reader path document, .readPart reader,
        .read reader path document document].map (2, ·))

/-- The announcement ends, the other server stops, and the client opens the file. -/
theorem announcedAndRead_eq (path : String) (start : ServerStart) (stops : EndpointRequest)
    (before : Option Bytes) (stopped : Except String Unit) (document : Bytes) (reader : Nat)
    (calls : List (FileEvent String EndpointRequest (Except String Unit))) :
    announcedAndRead path start stops before stopped document reader calls =
      (FileEvent.started (EndpointRequest.announce start) :: calls).map (0, ·) ++
        (0, .finished (.announce start) before (.ok ()) (some document)) ::
          ([(1, .started stops), (1, .finished stops (some document) stopped (some document))] ++
            (2, .opened reader path document) ::
              [(2, .readPart reader), (2, .read reader path document document)]) := by
  unfold announcedAndRead
  rw [List.map_append, List.append_assoc]
  rfl

/-- Nobody else announces itself. -/
theorem announce_of_mem {start next : ServerStart} {stops : EndpointRequest}
    {before : Option Bytes} {stopped : Except String Unit} {document : Bytes} {reader server : Nat}
    {calls : List (FileEvent String EndpointRequest (Except String Unit))}
    (hCalls : ∀ event ∈ calls, ∃ c, event = .called c none) (hStops : stops ≠ .announce next)
    (h : (server, .started (.announce next)) ∈
      announcedAndRead path start stops before stopped document reader calls) : next = start := by
  rcases List.mem_append.mp h with hFirst | hRest
  · obtain ⟨event, hEvent, hSame⟩ := List.mem_map.mp hFirst
    obtain ⟨-, rfl⟩ := Prod.mk.inj hSame
    simp only [List.cons_append, List.mem_cons, List.mem_append, List.not_mem_nil, or_false,
      FileEvent.started.injEq, EndpointRequest.announce.injEq, reduceCtorEq] at hEvent
    rcases hEvent with hStart | hCall
    · exact hStart
    · obtain ⟨c, hSame⟩ := hCalls _ hCall
      cases hSame
  · simp only [List.map_cons, List.map_nil, List.mem_append, List.mem_cons, Prod.mk.injEq,
      FileEvent.started.injEq, List.not_mem_nil, or_false, reduceCtorEq, and_false] at hRest
    exact absurd hRest.2.symm hStops

/-- Where no call fails, a server is announced and a client can read of it. -/
theorem exists_announcement_read (dump : Json D → String) (hPath : path ≠ "") {start : ServerStart}
    {boundPort : Int} (hBound : start.boundPort = some boundPort) {stops : EndpointRequest}
    {stopped : Except String Unit} (hDone : stops.program dump path = .done stopped)
    {s : ProcessFiles String EndpointRequest (Except String Unit)}
    (hStart : s.Quiet (path ++ ".tmp") path) (reader : Nat) :
    ∃ t calls,
      Run (ProcessStep (EndpointRequest.program dump path) path) s
        (announcedAndRead path start stops (s.files.shows path) stopped
          (activeServerDocument dump (start.endpoint boundPort)) reader calls) t ∧
      TakeTurns (announcedAndRead path start stops (s.files.shows path) stopped
        (activeServerDocument dump (start.endpoint boundPort)) reader calls) ∧
      ∀ event ∈ calls, ∃ c, event = .called c none := by
  have hPublishing : Publishing (path ++ ".tmp") path (EndpointRequest.program dump path) _ _ :=
    publishing_endpoints hPath
  have hHost : (start.endpoint boundPort).host ≠ "" := show "127.0.0.1" ≠ "" by decide
  obtain ⟨announced, calls, after, hAnnounces, hShows, hQuiet, hCalls⟩ :=
    hPublishing.exists_finished (path_ne_tmpPath path) hStart.files (.announce start)
  have hResult : (EndpointRequest.program dump path (.announce start)).unhindered = .ok () := by
    change (start.announce dump path).unhindered = .ok ()
    rw [announce_eq hPath hBound, unhindered_writeActiveServerInfo hPath hHost
      (endpoint_port (listensAt_of_boundPort hBound)).2]
  rw [hResult] at hAnnounces
  have hPost := hPublishing.finished (path_ne_tmpPath path) hAnnounces hStart.files
    (List.mem_append_right _ (List.mem_singleton_self _))
  obtain rfl : after = some _ := (promises_announce hBound).mp hPost
  -- The three processes work one after another.
  obtain ⟨first, hFirst, hView, hOthers⟩ := exists_processRun hAnnounces fun hCrash => by
    simp only [List.cons_append, List.mem_cons, List.mem_append, List.not_mem_nil, or_false,
      reduceCtorEq, false_or] at hCrash
    obtain ⟨c, hSame⟩ := hCalls _ hCrash
    cases hSame
  have hIdle : ∀ process, first.running process = none := by
    intro process
    by_cases hZero : process = 0
    · rw [hZero]
      exact (congrArg SharedFiles.running hView).trans hQuiet.idle
    · exact (hOthers process hZero).trans (hStart.idle process)
  have hSame : first.files = announced.files := congrArg SharedFiles.files hView
  have hEnds : ∃ left, Run (FileStep (EndpointRequest.program dump path) path) (first.view 1)
      [.started stops, .finished stops (first.files.shows path) stopped (first.files.shows path)]
        left ∧ left.files = first.files ∧ left.running = none :=
    exists_finished_done (hIdle 1) hDone
  rw [hSame, hShows] at hEnds
  obtain ⟨left, hStops, hFiles, hLeft⟩ := hEnds
  obtain ⟨second, hSecond, hViewSecond, hOthersSecond⟩ := exists_processRun hStops (by simp)
  have hShown : (second.view 2).files.shows path =
      some (activeServerDocument dump (start.endpoint boundPort)) := by
    have hSecondFiles : second.files = left.files := congrArg SharedFiles.files hViewSecond
    change second.files.shows path = _
    rw [hSecondFiles, hFiles]
    exact hShows
  obtain ⟨last, hReads⟩ := exists_whole_read reader hShown
  obtain ⟨t, hThird, -, -⟩ := exists_processRun hReads (by simp)
  refine ⟨t, calls, hFirst.trans (hSecond.trans hThird), ?_, hCalls⟩
  have hBegins : ∀ other, .started other ∉
      calls ++ [.finished (.announce start) (s.files.shows path) (.ok ())
        (some (activeServerDocument dump (start.endpoint boundPort)))] := by
    intro other hOther
    rcases List.mem_append.mp hOther with hCall | hEnd
    · obtain ⟨c, hSame⟩ := hCalls _ hCall
      cases hSame
    · cases List.mem_singleton.mp hEnd
  refine (takeTurns_started 0 _ hBegins).append (fun process => ?_)
    ((takeTurns_started 1 stops ?_).append (fun process => ?_) (takeTurns_of_no_start ?_))
  · have hWorks := isSome_running hFirst hStart.idle process
    rw [hIdle process] at hWorks
    exact hWorks.symm
  · simp
  · have hWorks := isSome_running hSecond hIdle process
    rw [← hWorks, Option.isSome_eq_false_iff, Option.isNone_iff_eq_none]
    by_cases hOne : process = 1
    · rw [hOne]
      exact (congrArg SharedFiles.running hViewSecond).trans hLeft
    · exact (hOthersSecond process hOne).trans (hIdle process)
  · simp

end Discovery

/-- A server whose configured port is taken. -/
def secondServer : ServerStart where
  configPath := "config/server.json"
  port := 7777
  hPort := by decide
  portAutoDiscovery := true
  startedMs := 1700000000123
  tryBindPort port := port = 7778

theorem boundPort_secondServer : secondServer.boundPort = some 7778 := by decide

/-- What the second server prints. -/
def secondServerText : String :=
  "\x7b\"config_path\":\"config/server.json\",\"host\":\"127.0.0.1\",\"pid\":0," ++
    "\"port\":7778,\"started_at_unix_ms\":1700000000123\x7d"

/-- A parser of the second server's document. -/
def parseSecondServer (bytes : Bytes) : Except String (Json ℚ) :=
  if bytes = activeServerDocument (fun _ : Json ℚ => secondServerText)
      (secondServer.endpoint 7778) then
    .ok (secondServer.endpoint 7778).payload
  else .error "unexpected document"

/-- The server that took the configured port. -/
def firstServer : ServerStart :=
  { secondServer with startedMs := 1700000000001, tryBindPort := fun _ => true }

/-- The first server stops, and finds the second one in the file. -/
def firstServerStops : EndpointRequest :=
  .cleanUp (firstServer.endpoint 7777) (.ok (secondServer.endpoint 7778))

/-- The second server is found, also after the first one stopped. -/
theorem clients_find_servers_second :
    ∃ (t : ProcessFiles String EndpointRequest (Except String Unit))
      (trace : List (Nat × FileEvent String EndpointRequest (Except String Unit))) (bytes : Bytes),
      Run (ProcessStep (EndpointRequest.program (fun _ : Json ℚ => secondServerText)
          "runtime/active-server.json") "runtime/active-server.json") ProcessFiles.none trace t ∧
        (1, .started firstServerStops) ∈ trace ∧
          (2, .read 0 "runtime/active-server.json" bytes bytes) ∈ trace ∧
            LeadsTo parseSecondServer "runtime/active-server.json" bytes secondServer := by
  have hPath : "runtime/active-server.json" ≠ "" := by decide
  have hDone : firstServerStops.program (fun _ : Json ℚ => secondServerText)
      "runtime/active-server.json" = .done (.ok ()) :=
    show cleanUpEndpoint "runtime/active-server.json" (firstServer.endpoint 7777)
        (.ok (secondServer.endpoint 7778)) = .done (.ok ()) from
      cleanUpEndpoint_of_other (by decide)
  obtain ⟨t, calls, run, hTurns, hCalls⟩ :=
    exists_announcement_read (fun _ : Json ℚ => secondServerText) hPath boundPort_secondServer
      hDone (ProcessFiles.quiet_none _ _) 0
  refine ⟨t, _, activeServerDocument (fun _ : Json ℚ => secondServerText)
    (secondServer.endpoint 7778), run, ?_, ?_, ?_⟩
  · exact List.mem_append_right _ (List.mem_append_left _ List.mem_cons_self)
  · exact List.mem_append_right _ (List.mem_append_right _ (by simp))
  obtain ⟨-, -, hLast⟩ := clients_find_servers _ parseSecondServer _ hPath run
    (ProcessFiles.quiet_none _ _) (fun _ => rfl) hTurns fun server start boundPort hTold hBound => by
      have hStops : firstServerStops ≠ .announce start := nofun
      obtain rfl := announce_of_mem hCalls hStops hTold
      obtain rfl := Option.some.inj (boundPort_secondServer.symm.trans hBound)
      exact if_pos rfl
  exact hLast _ _ _ _ _ _ _ _ _ _ (announcedAndRead_eq ..) (by simp [firstServerStops])

end DevyFps.Replication
