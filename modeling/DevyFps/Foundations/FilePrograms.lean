import DevyFps.Foundations.Bytes
import DevyFps.Foundations.Run
import Mathlib.Logic.Function.Basic

/-! Programs that call a file system. Any call may fail, what is written shows bit by bit, and a
program may stop between any two of its steps. -/

universe u v w

namespace Foundations

/-- The names of a file system and the files behind them. A file that was opened keeps its content
when its name is taken over or removed. -/
structure Files (Path : Type u) where
  names : Path → Option Nat
  contents : Nat → Bytes
  /-- Files from here on are not in use. -/
  fresh : Nat

namespace Files

variable {Path : Type u}

def setContent (s : Files Path) (file : Nat) (bytes : Bytes) : Files Path :=
  { s with contents := Function.update s.contents file bytes }

/-- What is found under a name. -/
def shows (s : Files Path) (path : Path) : Option Bytes := (s.names path).map s.contents

section Contents

variable (s : Files Path)

@[simp] theorem names_setContent (file : Nat) (bytes : Bytes) :
    (s.setContent file bytes).names = s.names := rfl

@[simp] theorem fresh_setContent (file : Nat) (bytes : Bytes) :
    (s.setContent file bytes).fresh = s.fresh := rfl

@[simp] theorem contents_setContent_self (file : Nat) (bytes : Bytes) :
    (s.setContent file bytes).contents file = bytes := Function.update_self _ _ _

theorem contents_setContent_of_ne {file other : Nat} (h : other ≠ file) (bytes : Bytes) :
    (s.setContent file bytes).contents other = s.contents other := Function.update_of_ne h _ _

theorem shows_eq_some_iff {path : Path} {bytes : Bytes} :
    s.shows path = some bytes ↔ ∃ file, s.names path = some file ∧ s.contents file = bytes :=
  Option.map_eq_some_iff

end Contents

section Names

variable [DecidableEq Path]

def setName (s : Files Path) (path : Path) (file : Option Nat) : Files Path :=
  { s with names := Function.update s.names path file }

/-- A new file under a name. -/
def create (s : Files Path) (path : Path) : Files Path :=
  { (s.setContent s.fresh []).setName path (some s.fresh) with fresh := s.fresh + 1 }

variable (s : Files Path)

@[simp] theorem names_setName_self (path : Path) (file : Option Nat) :
    (s.setName path file).names path = file := Function.update_self _ _ _

theorem names_setName_of_ne {path other : Path} (h : other ≠ path) (file : Option Nat) :
    (s.setName path file).names other = s.names other := Function.update_of_ne h _ _

@[simp] theorem contents_setName (path : Path) (file : Option Nat) :
    (s.setName path file).contents = s.contents := rfl

@[simp] theorem fresh_setName (path : Path) (file : Option Nat) :
    (s.setName path file).fresh = s.fresh := rfl

@[simp] theorem names_create_self (path : Path) : (s.create path).names path = some s.fresh :=
  Function.update_self _ _ _

theorem names_create_of_ne {path other : Path} (h : other ≠ path) :
    (s.create path).names other = s.names other := Function.update_of_ne h _ _

@[simp] theorem fresh_create (path : Path) : (s.create path).fresh = s.fresh + 1 := rfl

@[simp] theorem contents_create_self (path : Path) : (s.create path).contents s.fresh = [] :=
  Function.update_self _ _ _

theorem contents_create_of_lt {file : Nat} (h : file < s.fresh) (path : Path) :
    (s.create path).contents file = s.contents file := Function.update_of_ne (Nat.ne_of_lt h) _ _

end Names

end Files

inductive FileCall (Path : Type u) where
  | createDirectories (path : Path)
  | openTruncated (path : Path)
  | write (bytes : Bytes)
  | close
  | remove (path : Path)
  | rename (source target : Path)

/-- What a call reports: a message where it failed. -/
abbrev CallResult := Option String

inductive FileProgram (Path : Type u) (α : Type v) where
  | done (result : α)
  | call (c : FileCall Path) (next : CallResult → FileProgram Path α)

/-- What a call does to the files, and to the file that the program has open. A call that fails does
nothing, but that a part may have been written. -/
inductive Calls {Path : Type u} [DecidableEq Path] :
    Files Path × Option Nat → FileCall Path → CallResult → Files Path × Option Nat → Prop where
  | failed (s : Files Path × Option Nat) (c : FileCall Path) (message : String)
      (hCall : c ≠ .close) : Calls s c (some message) s
  | createDirectories (s : Files Path × Option Nat) (path : Path) :
      Calls s (.createDirectories path) none s
  | truncate (files : Files Path) (handle : Option Nat) (path : Path) (file : Nat)
      (hName : files.names path = some file) :
      Calls (files, handle) (.openTruncated path) none (files.setContent file [], some file)
  | create (files : Files Path) (handle : Option Nat) (path : Path)
      (hName : files.names path = none) :
      Calls (files, handle) (.openTruncated path) none
        (files.create path, some files.fresh)
  | write (files : Files Path) (file : Nat) (bytes : Bytes) :
      Calls (files, some file) (.write bytes) none
        (files.setContent file (files.contents file ++ bytes), some file)
  | writePart (files : Files Path) (file : Nat) (bytes part : Bytes) (message : String)
      (hPart : part <+: bytes) :
      Calls (files, some file) (.write bytes) (some message)
        (files.setContent file (files.contents file ++ part), some file)
  | close (files : Files Path) (handle : Option Nat) (result : CallResult) :
      Calls (files, handle) .close result (files, none)
  | remove (files : Files Path) (handle : Option Nat) (path : Path) :
      Calls (files, handle) (.remove path) none (files.setName path none, handle)
  | rename (files : Files Path) (handle : Option Nat) (source target : Path) (file : Nat)
      (hName : files.names source = some file) :
      Calls (files, handle) (.rename source target) none
        ((files.setName source none).setName target (some file), handle)

/-- A program under way, with the request that it serves, and with what was found under the name
that it publishes when it started. -/
structure RunningProgram (Path : Type u) (ι : Type w) (α : Type v) where
  request : ι
  before : Option Bytes
  rest : FileProgram Path α
  handle : Option Nat

/-- A file that a reader has open: what it held at that time, and what was read so far. -/
structure OpenFile (Path : Type u) where
  path : Path
  file : Nat
  seen : Bytes
  got : Bytes

/-- The files, the one program that changes them, and the readers with what they have open. -/
structure SharedFiles (Path : Type u) (ι : Type w) (α : Type v) where
  files : Files Path
  running : Option (RunningProgram Path ι α) := none
  readers : Nat → Option (OpenFile Path) := fun _ => none

inductive FileEvent (Path : Type u) (ι : Type w) (α : Type v) where
  | started (request : ι)
  | called (c : FileCall Path) (result : CallResult)
  | wrote (part : Bytes)
  | finished (request : ι) (before : Option Bytes) (result : α) (after : Option Bytes)
  | crashed
  | opened (reader : Nat) (path : Path) (seen : Bytes)
  | readPart (reader : Nat)
  | read (reader : Nat) (path : Path) (seen got : Bytes)
  | closed (reader : Nat)

/-- The steps of the one program and of the readers. A reader takes a file piece by piece, while
the program goes on. -/
inductive FileStep {Path : Type u} {ι : Type w} {α : Type v} [DecidableEq Path]
    (program : ι → FileProgram Path α) (target : Path) :
    SharedFiles Path ι α → FileEvent Path ι α → SharedFiles Path ι α → Prop where
  | start (s : SharedFiles Path ι α) (request : ι) (hIdle : s.running = none) :
      FileStep program target s (.started request)
        { s with running := some ⟨request, s.files.shows target, program request, none⟩ }
  | call (s : SharedFiles Path ι α) (request : ι) (before : Option Bytes)
      (c : FileCall Path) (next : CallResult → FileProgram Path α) (handle handle' : Option Nat)
      (result : CallResult) (files : Files Path)
      (hRunning : s.running = some ⟨request, before, .call c next, handle⟩)
      (hCall : Calls (s.files, handle) c result (files, handle')) :
      FileStep program target s (.called c result)
        { s with files, running := some ⟨request, before, next result, handle'⟩ }
  | writePart (s : SharedFiles Path ι α) (request : ι) (before : Option Bytes)
      (part rest : Bytes) (next : CallResult → FileProgram Path α) (file : Nat)
      (hRunning : s.running = some ⟨request, before, .call (.write (part ++ rest)) next, some file⟩) :
      FileStep program target s (.wrote part)
        { s with
          files := s.files.setContent file (s.files.contents file ++ part)
          running := some ⟨request, before, .call (.write rest) next, some file⟩ }
  | finish (s : SharedFiles Path ι α) (request : ι) (before : Option Bytes)
      (result : α) (handle : Option Nat)
      (hRunning : s.running = some ⟨request, before, .done result, handle⟩) :
      FileStep program target s (.finished request before result (s.files.shows target))
        { s with running := none }
  | crash (s : SharedFiles Path ι α) : FileStep program target s .crashed { s with running := none }
  | openFile (s : SharedFiles Path ι α) (reader : Nat) (path : Path) (file : Nat)
      (hName : s.files.names path = some file) :
      FileStep program target s (.opened reader path (s.files.contents file))
        { s with
          readers := Function.update s.readers reader
            (some ⟨path, file, s.files.contents file, []⟩) }
  | readPart (s : SharedFiles Path ι α) (reader : Nat) (held : OpenFile Path) (part : Bytes)
      (hOpen : s.readers reader = some held)
      (hPart : part <+: (s.files.contents held.file).drop held.got.length) :
      FileStep program target s (.readPart reader)
        { s with
          readers := Function.update s.readers reader
            (some { held with got := held.got ++ part }) }
  | readAll (s : SharedFiles Path ι α) (reader : Nat) (held : OpenFile Path)
      (hOpen : s.readers reader = some held)
      (hEnd : (s.files.contents held.file).length ≤ held.got.length) :
      FileStep program target s (.read reader held.path held.seen held.got)
        { s with readers := Function.update s.readers reader none }
  | closeFile (s : SharedFiles Path ι α) (reader : Nat) :
      FileStep program target s (.closed reader)
        { s with readers := Function.update s.readers reader none }

end Foundations
