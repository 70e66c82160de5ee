import DevyFps.Foundations.JsonAccess
import DevyFps.Foundations.Publication

/-! The file in which a server tells the clients on its machine where it listens. -/

namespace DevyFps.Runtime

open Foundations

/-- A new line. -/
def newline : Bytes := [10]

/-- `std::filesystem::path::parent_path`, where `/` separates. -/
def parentPath (path : String) : String :=
  let folder := path.toList.reverse.dropWhile (· ≠ '/')
  match folder.dropWhile (· = '/') with
  | [] => if folder.isEmpty then "" else "/"
  | stem => String.ofList stem.reverse

/-- What the errors of a program say that replaces a file. -/
structure ReplaceTexts where
  directory : (parent message : String) → String
  openFailed : (tmpPath : String) → String
  writeFailed : (tmpPath : String) → String
  publishFailed : (path message : String) → String

section Replacing

variable (texts : ReplaceTexts) (path tmpPath : String)

/-- The temporary file takes the name, at the second attempt once the old file is gone. -/
def renameOver : FileProgram String (Except String Unit) :=
  .call (.rename tmpPath path) fun
  | none => .done (.ok ())
  | some _ =>
      .call (.remove path) fun _ =>
      .call (.rename tmpPath path) fun
      | none => .done (.ok ())
      | some message =>
          .call (.remove tmpPath) fun _ =>
          .done (.error (texts.publishFailed path message))

/-- The stream that writes reports a failure when it is flushed; what closing it reports is not
looked at. -/
def writeAndRename (body : Bytes) : FileProgram String (Except String Unit) :=
  .call (.openTruncated tmpPath) fun
  | some _ => .done (.error (texts.openFailed tmpPath))
  | none =>
      .call (.write body) fun
      | some _ =>
          .call .close fun _ =>
          .call (.remove tmpPath) fun _ =>
          .done (.error (texts.writeFailed tmpPath))
      | none => .call .close fun _ => renameOver texts path tmpPath

/-- The program that `write_active_server_info` and `write_atomic_text_file` share. -/
def replaceFile (body : Bytes) : FileProgram String (Except String Unit) :=
  if (parentPath path).isEmpty then writeAndRename texts path (path ++ ".tmp") body
  else
    .call (.createDirectories (parentPath path)) fun
    | some message => .done (.error (texts.directory (parentPath path) message))
    | none => writeAndRename texts path (path ++ ".tmp") body

end Replacing

/-- What a program that replaces a file promises: the file holds the new content, or what it held
before, or, where it had to make way, nothing. -/
def Replaced (body : Bytes) (before : Option Bytes) (result : Except String Unit)
    (after : Option Bytes) : Prop :=
  match result with
  | .ok () => after = some body
  | .error _ => after = before ∨ after = none

/-- The temporary file is another one. -/
theorem path_ne_tmpPath (path : String) : path ≠ path ++ ".tmp" := by
  intro hSame
  have hLength := congrArg String.length hSame
  rw [String.length_append] at hLength
  exact absurd hLength (by simp)

section Discipline

variable {texts : ReplaceTexts} {path tmpPath : String} {body : Bytes} {before : Option Bytes}
  {Good : Bytes → Prop}

/-- The last step of a replacement swaps a complete file in. -/
theorem careful_renameOver (hNe : tmpPath ≠ path) (hGood : Good body) :
    (renameOver texts path tmpPath).Careful tmpPath path Good (Replaced body before)
      ⟨false, some body, before⟩ := by
  have hRename : ∀ shown : Option Bytes,
      Stage.Allows tmpPath path Good ⟨false, some body, shown⟩ (.rename tmpPath path) :=
    fun _ => ⟨rfl, rfl, rfl, body, rfl, hGood⟩
  refine ⟨hRename before, fun renamed => ?_⟩
  cases renamed with
  | none => rfl
  | some _ =>
      refine ⟨.inl rfl, fun removed => ?_⟩
      -- The old file may be gone by now.
      have hShown : ∃ shown : Option Bytes, (shown = before ∨ shown = none) ∧
          Stage.after path ⟨false, some body, before⟩ (.remove path) removed =
            ⟨false, some body, shown⟩ := by
        cases removed with
        | none => exact ⟨none, .inr rfl, if_pos rfl⟩
        | some _ => exact ⟨before, .inl rfl, rfl⟩
      obtain ⟨shown, hShown, hStage⟩ := hShown
      change FileProgram.Careful _ _ _ _ _
        (Stage.after path ⟨false, some body, before⟩ (.remove path) removed)
      rw [hStage]
      refine ⟨hRename shown, fun again => ?_⟩
      cases again with
      | none => rfl
      | some message =>
          refine ⟨.inr ⟨rfl, rfl⟩, fun cleaned => ?_⟩
          cases cleaned with
          | none =>
              simp only [Stage.after, if_neg hNe]
              exact hShown
          | some _ => exact hShown

/-- The file at the path is never open for writing. -/
theorem careful_writeAndRename (hNe : tmpPath ≠ path) (hGood : Good body) :
    (writeAndRename texts path tmpPath body).Careful tmpPath path Good (Replaced body before)
      ⟨false, none, before⟩ := by
  refine ⟨⟨rfl, rfl⟩, fun opened => ?_⟩
  cases opened with
  | some _ => exact .inl rfl
  | none =>
      refine ⟨rfl, fun written => ?_⟩
      cases written with
      | none => exact ⟨trivial, fun _ => careful_renameOver hNe hGood⟩
      | some _ =>
          refine ⟨trivial, fun _ => ⟨.inr ⟨rfl, rfl⟩, fun removed => ?_⟩⟩
          cases removed with
          | none =>
              simp only [Stage.after, if_neg hNe]
              exact .inl rfl
          | some _ => exact .inl rfl

/-- A file is replaced as a whole, wherever a call fails. -/
theorem careful_replaceFile (hGood : Good body) :
    (replaceFile texts path body).Careful (path ++ ".tmp") path Good (Replaced body before)
      ⟨false, none, before⟩ := by
  have hWrite : (writeAndRename texts path (path ++ ".tmp") body).Careful (path ++ ".tmp") path
      Good (Replaced body before) ⟨false, none, before⟩ :=
    careful_writeAndRename (path_ne_tmpPath path).symm hGood
  unfold replaceFile
  split
  · exact hWrite
  · refine ⟨trivial, fun created => ?_⟩
    cases created with
    | none => exact hWrite
    | some _ => exact .inl rfl

/-- If no call fails, the file is replaced. -/
theorem unhindered_replaceFile : (replaceFile texts path body).unhindered = .ok () := by
  unfold replaceFile
  split <;> rfl

end Discipline

structure ServerEndpointInfo where
  host : String := "127.0.0.1"
  port : UInt16 := 0
  pid : UInt64 := 0
  configPath : String := ""
  startedAtUnixMs : UInt64 := 0
  deriving DecidableEq, Repr

section Documents

variable {D : Type}

def parsePort : Json D → Option UInt16
  | .numberUnsigned raw =>
      if raw.toNat ≥ 1 ∧ raw.toNat ≤ 65535 then some (UInt16.ofNat raw.toNat) else none
  | .numberInteger raw =>
      if raw.toInt ≥ 1 ∧ raw.toInt ≤ 65535 then some (UInt16.ofNat raw.toInt.toNat) else none
  | _ => none

def parseU64 : Json D → Option UInt64
  | .numberUnsigned raw => some raw
  | .numberInteger raw => if raw.toInt ≥ 0 then some (UInt64.ofNat raw.toInt.toNat) else none
  | _ => none

/-- The document of an endpoint. -/
def ServerEndpointInfo.payload (info : ServerEndpointInfo) : Json D :=
  .object
    [("config_path", .string info.configPath),
      ("host", .string info.host),
      ("pid", .numberUnsigned info.pid),
      ("port", .numberUnsigned info.port.toUInt64),
      ("started_at_unix_ms", .numberUnsigned info.startedAtUnixMs)]

def readHost (payload : Json D) : Except String String :=
  match payload.member "host" with
  | some (.string host) =>
      if host.isEmpty then .error "active server info `host` must not be empty" else .ok host
  | _ => .error "active server info is missing string `host`"

def readPort (payload : Json D) : Except String UInt16 :=
  match payload.member "port" with
  | none => .error "active server info is missing `port`"
  | some value =>
      match parsePort value with
      | some port => .ok port
      | none => .error "active server info `port` must be in [1,65535]"

/-- A member that may be left out. -/
def readOptional {α : Type} (payload : Json D) (field : String) (fallback : α)
    (parse : Json D → Option α) (message : String) : Except String α :=
  match payload.member field with
  | none => .ok fallback
  | some value =>
      match parse value with
      | some a => .ok a
      | none => .error message

def parseString : Json D → Option String
  | .string value => some value
  | _ => none

/-- What `read_active_server_info` makes of a document. -/
def readEndpoint (payload : Json D) : Except String ServerEndpointInfo := do
  if !payload.isObject then
    throw "active server info payload must be an object"
  let host ← readHost payload
  let port ← readPort payload
  let pid ← readOptional payload "pid" 0 parseU64
    "active server info `pid` must be an unsigned integer"
  let configPath ← readOptional payload "config_path" "" parseString
    "active server info `config_path` must be a string"
  let startedAtUnixMs ← readOptional payload "started_at_unix_ms" 0 parseU64
    "active server info `started_at_unix_ms` must be an unsigned integer"
  return { host, port, pid, configPath, startedAtUnixMs }

section Grammar

variable {payload : Json D} {info : ServerEndpointInfo}

/-- A port is read from a positive integer of 16 bits only. -/
theorem parsePort_eq_some_iff {value : Json D} {port : UInt16} :
    parsePort value = some port ↔ port ≠ 0 ∧ value.integer = some (port.toNat : Int) := by
  have hNonzero : port ≠ 0 ↔ 1 ≤ port.toNat := by
    rw [ne_eq, ← UInt16.toNat_inj]
    exact Nat.one_le_iff_ne_zero.symm
  have hSize : port.toNat < 65536 := port.toNat_lt
  rw [hNonzero]
  cases value with
  | numberUnsigned raw =>
      change (if raw.toNat ≥ 1 ∧ raw.toNat ≤ 65535 then some (UInt16.ofNat raw.toNat) else none) =
        some port ↔ 1 ≤ port.toNat ∧ some (raw.toNat : Int) = some (port.toNat : Int)
      rw [Option.some.injEq, Nat.cast_inj]
      constructor
      · intro h
        split at h
        · injection h with h
          rw [← h, UInt16.toNat_ofNat_of_lt' (show raw.toNat < 65536 by omega)]
          omega
        · cases h
      · rintro ⟨hLow, hRaw⟩
        rw [if_pos (by omega), hRaw, UInt16.ofNat_toNat]
  | numberInteger raw =>
      change (if raw.toInt ≥ 1 ∧ raw.toInt ≤ 65535 then some (UInt16.ofNat raw.toInt.toNat)
        else none) = some port ↔ 1 ≤ port.toNat ∧ some raw.toInt = some (port.toNat : Int)
      rw [Option.some.injEq]
      constructor
      · intro h
        split at h
        · injection h with h
          rw [← h, UInt16.toNat_ofNat_of_lt' (show raw.toInt.toNat < 65536 by omega)]
          omega
        · cases h
      · rintro ⟨hLow, hRaw⟩
        rw [if_pos (by omega), hRaw, Int.toNat_natCast, UInt16.ofNat_toNat]
  | _ => exact ⟨nofun, fun h => nomatch h.2⟩

/-- A number is read from an integer of 64 bits only. -/
theorem parseU64_eq_some_iff {value : Json D} {n : UInt64} :
    parseU64 value = some n ↔ value.integer = some (n.toNat : Int) := by
  cases value with
  | numberUnsigned raw =>
      change some raw = some n ↔ some (raw.toNat : Int) = some (n.toNat : Int)
      rw [Option.some.injEq, Option.some.injEq, Nat.cast_inj, UInt64.toNat_inj]
  | numberInteger raw =>
      change (if raw.toInt ≥ 0 then some (UInt64.ofNat raw.toInt.toNat) else none) = some n ↔
        some raw.toInt = some (n.toNat : Int)
      have hSize : raw.toInt < 2 ^ 63 := raw.toInt_lt
      rw [Option.some.injEq]
      constructor
      · intro h
        split at h
        · injection h with h
          rw [← h, UInt64.toNat_ofNat_of_lt' (show raw.toInt.toNat < 2 ^ 64 by omega)]
          omega
        · cases h
      · intro hRaw
        rw [if_pos (by omega), hRaw, Int.toNat_natCast, UInt64.ofNat_toNat]
  | _ => exact ⟨nofun, nofun⟩

theorem parseString_eq_some_iff {value : Json D} {text : String} :
    parseString value = some text ↔ value = .string text := by
  cases value with
  | string other =>
      rw [Json.string.injEq]
      exact Option.some_inj
  | _ => exact ⟨nofun, nofun⟩

/-- A document describes an endpoint: it names a host and a port, and what else it says is said of
that endpoint. -/
structure Describes (payload : Json D) (info : ServerEndpointInfo) : Prop where
  host : payload.member "host" = some (.string info.host)
  hostNonempty : info.host ≠ ""
  port : (payload.member "port").bind Json.integer = some (info.port.toNat : Int)
  portNonzero : info.port ≠ 0
  pid : (payload.member "pid").elim (some 0) Json.integer = some (info.pid.toNat : Int)
  configPath : (payload.member "config_path").getD (.string "") = .string info.configPath
  startedAtUnixMs : (payload.member "started_at_unix_ms").elim (some 0) Json.integer =
    some (info.startedAtUnixMs.toNat : Int)

/-- A host must be there and must not be empty. -/
theorem readHost_eq_ok_iff {host : String} :
    readHost payload = .ok host ↔ payload.member "host" = some (.string host) ∧ host ≠ "" := by
  unfold readHost
  split
  · next text hMember =>
      rw [hMember, Option.some.injEq, Json.string.injEq]
      by_cases hEmpty : text = ""
      · rw [hEmpty, if_pos (show "".isEmpty = true from rfl)]
        exact ⟨nofun, fun h => absurd h.1.symm h.2⟩
      · rw [if_neg (by simpa using hEmpty), Except.ok.injEq]
        exact ⟨fun h => ⟨h, h ▸ hEmpty⟩, fun h => h.1⟩
  · next hNone => exact ⟨nofun, fun h => absurd h.1 (hNone host)⟩

/-- A port must be there and must not be zero. -/
theorem readPort_eq_ok_iff {port : UInt16} :
    readPort payload = .ok port ↔
      port ≠ 0 ∧ (payload.member "port").bind Json.integer = some (port.toNat : Int) := by
  unfold readPort
  cases payload.member "port" with
  | none => exact ⟨nofun, fun h => nomatch h.2⟩
  | some value =>
      rw [Option.bind_some, ← parsePort_eq_some_iff]
      dsimp only
      split
      · next other hOther => rw [hOther, Except.ok.injEq, Option.some.injEq]
      · next hNone => exact ⟨nofun, fun h => by rw [hNone] at h; cases h⟩

/-- An optional field has its fallback, or must be of its type. -/
theorem readOptional_eq_ok_iff {α : Type} {field : String} {fallback a : α}
    {parse : Json D → Option α} {message : String} :
    readOptional payload field fallback parse message = .ok a ↔
      (payload.member field).elim (some fallback) parse = some a := by
  unfold readOptional
  cases payload.member field with
  | none => rw [Option.elim_none, Except.ok.injEq, Option.some.injEq]
  | some value =>
      rw [Option.elim_some]
      dsimp only
      split
      · next other hOther => rw [hOther, Except.ok.injEq, Option.some.injEq]
      · next hNone => exact ⟨nofun, fun h => by rw [hNone] at h; cases h⟩

/-- A number that may be left out. -/
theorem readOptional_parseU64_iff {field message : String} {n : UInt64} :
    readOptional payload field 0 parseU64 message = .ok n ↔
      (payload.member field).elim (some 0) Json.integer = some (n.toNat : Int) := by
  rw [readOptional_eq_ok_iff]
  cases payload.member field with
  | none =>
      rw [Option.elim_none, Option.elim_none, Option.some.injEq, Option.some.injEq,
        ← UInt64.toNat_inj]
      exact ⟨fun h => congrArg Int.ofNat h, fun h => Int.ofNat.inj h⟩
  | some value => exact parseU64_eq_some_iff

/-- The reader accepts exactly the documents that describe an endpoint, and reads that one. -/
theorem readEndpoint_eq_ok_iff : readEndpoint payload = .ok info ↔ Describes payload info := by
  have hConfigPath : ∀ {message : String} {path : String},
      readOptional payload "config_path" "" parseString message = .ok path ↔
        (payload.member "config_path").getD (.string "") = .string path := by
    intro message path
    rw [readOptional_eq_ok_iff]
    cases payload.member "config_path" with
    | none => rw [Option.elim_none, Option.getD_none, Option.some.injEq, Json.string.injEq]
    | some value => exact parseString_eq_some_iff
  unfold readEndpoint
  by_cases hObject : payload.isObject = true
  · rw [hObject]
    constructor
    · intro h
      obtain ⟨host, hHost, h⟩ := ok_of_bind h
      obtain ⟨port, hPort, h⟩ := ok_of_bind h
      obtain ⟨pid, hPid, h⟩ := ok_of_bind h
      obtain ⟨path, hPath, h⟩ := ok_of_bind h
      obtain ⟨started, hStarted, h⟩ := ok_of_bind h
      injection h with h
      rw [← h]
      obtain ⟨hMember, hNonempty⟩ := readHost_eq_ok_iff.mp hHost
      obtain ⟨hNonzero, hPort⟩ := readPort_eq_ok_iff.mp hPort
      exact ⟨hMember, hNonempty, hPort, hNonzero, readOptional_parseU64_iff.mp hPid,
        hConfigPath.mp hPath, readOptional_parseU64_iff.mp hStarted⟩
    · intro h
      have hHost := readHost_eq_ok_iff.mpr ⟨h.host, h.hostNonempty⟩
      have hPort := readPort_eq_ok_iff.mpr ⟨h.portNonzero, h.port⟩
      change (readHost payload >>= _) = _
      rw [hHost, ok_bind, hPort, ok_bind, readOptional_parseU64_iff.mpr h.pid, ok_bind,
        hConfigPath.mpr h.configPath, ok_bind, readOptional_parseU64_iff.mpr h.startedAtUnixMs,
        ok_bind]
      rfl
  · rw [Bool.not_eq_true] at hObject
    rw [hObject]
    refine ⟨nofun, fun h => ?_⟩
    have hIs := Json.isObject_of_member h.host
    exact absurd (hObject.symm.trans hIs) Bool.false_ne_true

/-- The document of an endpoint describes it. -/
theorem describes_payload (hHost : info.host ≠ "") (hPort : info.port ≠ 0) :
    Describes (info.payload : Json D) info := by
  refine ⟨rfl, hHost, ?_, hPort, rfl, rfl, rfl⟩
  change some (info.port.toUInt64.toNat : Int) = some (info.port.toNat : Int)
  rw [UInt16.toNat_toUInt64]

end Grammar

end Documents

/-! The files of the source. Text goes through the JSON library: `dump` prints a document, and `parse`
reads one from a stream, or reports what is wrong with it. -/

def activeServerTexts : ReplaceTexts where
  directory parent message := "failed to create directory `" ++ parent ++ "`: " ++ message
  openFailed tmpPath := "failed to open temporary file `" ++ tmpPath ++ "`"
  writeFailed tmpPath := "failed to write temporary file `" ++ tmpPath ++ "`"
  publishFailed path message :=
    "failed to publish active server info file `" ++ path ++ "`: " ++ message

def writeActiveServerInfo {D : Type} (dump : Json D → String) (outputPath : String)
    (info : ServerEndpointInfo) : FileProgram String (Except String Unit) :=
  if outputPath.isEmpty then .done (.error "active server info path is empty")
  else if info.host.isEmpty then .done (.error "active server info host is empty")
  else if info.port = 0 then .done (.error "active server info port must be non-zero")
  else
    replaceFile activeServerTexts outputPath (Bytes.ofString (dump info.payload) ++ newline)

/-- The file of an endpoint. -/
def activeServerDocument {D : Type} (dump : Json D → String) (info : ServerEndpointInfo) : Bytes :=
  Bytes.ofString (dump info.payload) ++ newline

/-- `content` is what the file holds, where it can be opened. -/
def readActiveServerInfo {D : Type} (parse : Bytes → Except String (Json D)) (inputPath : String)
    (content : Option Bytes) : Except String ServerEndpointInfo :=
  if inputPath.isEmpty then .error "active server info path is empty"
  else
    match content with
    | none => .error ("failed to open active server info file `" ++ inputPath ++ "`")
    | some bytes =>
        match parse bytes with
        | .error what => .error ("failed to parse active server info JSON: " ++ what)
        | .ok payload => readEndpoint payload

/-- A file that was removed is gone, and so is one that was not there. -/
def removeActiveServerInfo (inputPath : String) : FileProgram String (Except String Unit) :=
  if inputPath.isEmpty then .done (.error "active server info path is empty")
  else
    .call (.remove inputPath) fun
    | some message =>
        .done (.error
          ("failed to remove active server info file `" ++ inputPath ++ "`: " ++ message))
    | none => .done (.ok ())

section Programs

variable {D : Type} {dump : Json D → String} {path : String} {info : ServerEndpointInfo}
  {Good : Bytes → Prop}

/-- A writer touches the path by a rename only, and what it renames is a complete document. -/
theorem disciplined_writeActiveServerInfo
    (hGood : info.host ≠ "" → info.port ≠ 0 → Good (activeServerDocument dump info)) :
    (writeActiveServerInfo dump path info).Disciplined (path ++ ".tmp") path Good
      (Replaced (activeServerDocument dump info)) := by
  intro before
  unfold writeActiveServerInfo
  split
  · exact .inl rfl
  split
  · exact .inl rfl
  split
  · exact .inl rfl
  next hHost hPort => exact careful_replaceFile (hGood (by simpa using hHost) hPort)

/-- If no call fails, a proper endpoint is written. -/
theorem unhindered_writeActiveServerInfo (hPath : path ≠ "") (hHost : info.host ≠ "")
    (hPort : info.port ≠ 0) : (writeActiveServerInfo dump path info).unhindered = .ok () := by
  unfold writeActiveServerInfo
  rw [if_neg (by simpa using hPath), if_neg (by simpa using hHost), if_neg hPort]
  exact unhindered_replaceFile

/-- What a removal promises. -/
def Removed (before : Option Bytes) (result : Except String Unit) (after : Option Bytes) : Prop :=
  match result with
  | .ok () => after = none
  | .error _ => after = before

/-- A clean-up removes the file at the path, and touches nothing else. -/
theorem disciplined_removeActiveServerInfo :
    (removeActiveServerInfo path).Disciplined (path ++ ".tmp") path Good Removed := by
  intro before
  unfold removeActiveServerInfo
  split
  · rfl
  · refine ⟨.inl rfl, fun removed => ?_⟩
    cases removed with
    | none =>
        simp only [Stage.after, if_pos]
        rfl
    | some message => rfl

/-- A file that was written is read as the endpoint that it tells of. -/
theorem readActiveServerInfo_document {parse : Bytes → Except String (Json D)} (hPath : path ≠ "")
    (hHost : info.host ≠ "") (hPort : info.port ≠ 0)
    (hParse : parse (activeServerDocument dump info) = .ok info.payload) :
    readActiveServerInfo parse path (some (activeServerDocument dump info)) = .ok info := by
  unfold readActiveServerInfo
  rw [if_neg (by simpa using hPath)]
  dsimp only
  rw [hParse]
  exact readEndpoint_eq_ok_iff.mpr (describes_payload hHost hPort)

end Programs

end DevyFps.Runtime
