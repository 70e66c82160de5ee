import DevyFps.Foundations.Publication

/-! Processes whose file programs interleave call by call. Where they take turns, their runs are
runs of one program after another. -/

universe u v w

namespace Foundations

/-- The files, what each process runs on them, and the readers with what they have open. -/
structure ProcessFiles (Path : Type u) (ι : Type w) (α : Type v) where
  files : Files Path
  running : Nat → Option (RunningProgram Path ι α) := fun _ => none
  readers : Nat → Option (OpenFile Path) := fun _ => none

namespace ProcessFiles

variable {Path : Type u} {ι : Type w} {α : Type v} (s : ProcessFiles Path ι α)

/-- The files with what one process runs on them. -/
def view (process : Nat) : SharedFiles Path ι α where
  files := s.files
  running := s.running process
  readers := s.readers

/-- What one process left. -/
def put (process : Nat) (after : SharedFiles Path ι α) : ProcessFiles Path ι α where
  files := after.files
  running := Function.update s.running process after.running
  readers := after.readers

/-- No process but one is at work. -/
def Only (process : Nat) : Prop := ∀ other, other ≠ process → s.running other = none

@[simp] theorem running_put_self (process : Nat) (after : SharedFiles Path ι α) :
    (s.put process after).running process = after.running := Function.update_self _ _ _

theorem running_put_of_ne {process other : Nat} (h : other ≠ process)
    (after : SharedFiles Path ι α) : (s.put process after).running other = s.running other :=
  Function.update_of_ne h _ _

@[simp] theorem view_put_self (process : Nat) (after : SharedFiles Path ι α) :
    (s.put process after).view process = after := by
  unfold view
  rw [running_put_self]
  rfl

/-- What another process left, by the eyes of this one. -/
theorem view_put_of_ne {process other : Nat} (h : other ≠ process)
    (after : SharedFiles Path ι α) :
    (s.put process after).view other = { after with running := s.running other } := by
  unfold view
  rw [running_put_of_ne s h]
  rfl

theorem view_eq_of_idle {first second : Nat} (hFirst : s.running first = none)
    (hSecond : s.running second = none) : s.view first = s.view second := by
  unfold view
  rw [hFirst, hSecond]

end ProcessFiles

/-- The steps of all processes, in any order. A process that crashes was running something. -/
inductive ProcessStep {Path : Type u} {ι : Type w} {α : Type v} [DecidableEq Path]
    (program : ι → FileProgram Path α) (target : Path) :
    ProcessFiles Path ι α → Nat × FileEvent Path ι α → ProcessFiles Path ι α → Prop where
  | step (s : ProcessFiles Path ι α) (process : Nat) (event : FileEvent Path ι α)
      (after : SharedFiles Path ι α) (hCrash : event = .crashed → s.running process ≠ none)
      (hStep : FileStep program target (s.view process) event after) :
      ProcessStep program target s (process, event) (s.put process after)

section Turns

variable {Path : Type u} {ι : Type w} {α : Type v}

/-- Whether a process is at work after an event of its own. -/
def FileEvent.working (before : Bool) : FileEvent Path ι α → Bool
  | .started _ => true
  | .finished .. => false
  | .crashed => false
  | _ => before

/-- Whether a process is at work after a trace. -/
def workingAfter (process : Nat) : Bool → List (Nat × FileEvent Path ι α) → Bool
  | working, [] => working
  | working, (other, event) :: later =>
      workingAfter process (if other = process then event.working working else working) later

/-- A process begins only when no process is at work. -/
def TakeTurns (trace : List (Nat × FileEvent Path ι α)) : Prop :=
  ∀ earlier process request later, trace = earlier ++ (process, .started request) :: later →
    ∀ other, workingAfter other false earlier = false

theorem workingAfter_append (process : Nat) (working : Bool)
    (first second : List (Nat × FileEvent Path ι α)) :
    workingAfter process working (first ++ second) =
      workingAfter process (workingAfter process working first) second := by
  induction first generalizing working with
  | nil => rfl
  | cons label first ih => exact ih _

/-- A part of a trace in which nothing begins changes nothing about who may begin. -/
theorem TakeTurns.append {first second : List (Nat × FileEvent Path ι α)} (hFirst : TakeTurns first)
    (hRest : ∀ process, workingAfter process false first = false) (hSecond : TakeTurns second) :
    TakeTurns (first ++ second) := by
  intro earlier process request later hTrace other
  rcases List.append_eq_append_iff.mp hTrace with ⟨middle, rfl, hMiddle⟩ | ⟨middle, rfl, hMiddle⟩
  · rw [workingAfter_append, hRest other]
    exact hSecond middle process request later hMiddle other
  · rcases List.cons_eq_append_iff.mp hMiddle with ⟨rfl, -⟩ | ⟨rest, rfl, -⟩
    · rw [List.append_nil] at hRest
      exact hRest other
    · exact hFirst earlier process request rest rfl other

/-- A process that works alone, from its start on. -/
theorem takeTurns_started (process : Nat) (request : ι) {later : List (FileEvent Path ι α)}
    (hLater : ∀ other, .started other ∉ later) :
    TakeTurns (((FileEvent.started request : FileEvent Path ι α) :: later).map (process, ·)) := by
  intro earlier starter other rest hTrace third
  cases earlier with
  | nil => rfl
  | cons label earlier =>
      have hIn : (starter, FileEvent.started other) ∈ later.map (process, ·) := by
        rw [List.map_cons, List.cons_append, List.cons.injEq] at hTrace
        exact hTrace.2 ▸ List.mem_append_right _ List.mem_cons_self
      obtain ⟨event, hEvent, hSame⟩ := List.mem_map.mp hIn
      obtain rfl := (Prod.mk.inj hSame).2
      exact absurd hEvent (hLater other)

/-- Where nothing begins, everybody may take a turn. -/
theorem takeTurns_of_no_start {trace : List (Nat × FileEvent Path ι α)}
    (h : ∀ process request, (process, .started request) ∉ trace) : TakeTurns trace := by
  rintro earlier process request later rfl
  exact absurd (List.mem_append_right _ List.mem_cons_self) (h process request)

end Turns

section Serial

variable {Path : Type u} {ι : Type w} {α : Type v} [DecidableEq Path] {target : Path}
  {program : ι → FileProgram Path α}

/-- What an event says of the one program is so. -/
theorem FileStep.isSome_running {s t : SharedFiles Path ι α} {event : FileEvent Path ι α}
    (hStep : FileStep program target s event t) :
    t.running.isSome = event.working s.running.isSome := by
  cases hStep with
  | call request before c next handle handle' result files hRunning hCall =>
      unfold FileEvent.working
      rw [hRunning]
      rfl
  | writePart request before part rest next file hRunning =>
      unfold FileEvent.working
      rw [hRunning]
      rfl
  | start | finish | crash | openFile | readPart | readAll | closeFile => rfl

/-- A trace tells which processes are at work. -/
theorem isSome_running {s t : ProcessFiles Path ι α} {trace : List (Nat × FileEvent Path ι α)}
    (run : Run (ProcessStep program target) s trace t) (hIdle : ∀ process, s.running process = none)
    (process : Nat) : (t.running process).isSome = workingAfter process false trace := by
  induction run with
  | nil =>
      rw [hIdle process]
      rfl
  | @snoc middle t trace label prior last ih =>
      cases last with
      | step worker event after hCrash hStep =>
          rw [workingAfter_append, ← ih]
          change _ = if worker = process then _ else _
          by_cases hSame : worker = process
          · subst hSame
            rw [ProcessFiles.running_put_self, if_pos rfl]
            exact hStep.isSome_running
          · rw [ProcessFiles.running_put_of_ne middle (Ne.symm hSame), if_neg hSame]

/-- A step of a process that runs nothing, and begins nothing, is a reader's. -/
theorem FileStep.view_of_idle {s : ProcessFiles Path ι α} {process : Nat}
    {event : FileEvent Path ι α} {after : SharedFiles Path ι α}
    (hStep : FileStep program target (s.view process) event after)
    (hIdle : s.running process = none) (hCrash : event ≠ .crashed)
    (hStart : ∀ request, event ≠ .started request) (only : Nat) :
    FileStep program target (s.view only) event { after with running := s.running only } ∧
      after.running = none := by
  cases hStep with
  | start request hNone => exact absurd rfl (hStart request)
  | call request before c next handle handle' result files hRunning hCall =>
      exact absurd (hIdle.symm.trans hRunning) nofun
  | writePart request before part rest next file hRunning =>
      exact absurd (hIdle.symm.trans hRunning) nofun
  | finish request before result handle hRunning =>
      exact absurd (hIdle.symm.trans hRunning) nofun
  | crash => exact absurd rfl hCrash
  | openFile reader path file hName => exact ⟨.openFile (s.view only) reader path file hName, hIdle⟩
  | readPart reader held part hOpen hPart =>
      exact ⟨.readPart (s.view only) reader held part hOpen hPart, hIdle⟩
  | readAll reader held hOpen hEnd =>
      exact ⟨.readAll (s.view only) reader held hOpen hEnd, hIdle⟩
  | closeFile reader => exact ⟨.closeFile (s.view only) reader, hIdle⟩

/-- Where the processes take turns, a step is one of the program that is under way. -/
theorem ProcessStep.serial {s t : ProcessFiles Path ι α} {label : Nat × FileEvent Path ι α}
    (hStep : ProcessStep program target s label t) {only : Nat} (hOnly : s.Only only)
    (hTurn : ∀ request, label.2 = .started request → ∀ process, s.running process = none) :
    ∃ next, t.Only next ∧ FileStep program target (s.view only) label.2 (t.view next) := by
  cases hStep with
  | step process event after hCrash hStep =>
      -- A process that begins is the one at work from then on.
      have hSwitch : s.view process = s.view only → s.Only process →
          (s.put process after).Only process ∧
            FileStep program target (s.view only) event ((s.put process after).view process) := by
        intro hView hAlone
        rw [ProcessFiles.view_put_self, ← hView]
        exact ⟨fun other hOther => (s.running_put_of_ne hOther after).trans (hAlone other hOther),
          hStep⟩
      by_cases hSame : process = only
      · exact ⟨process, hSwitch (by rw [hSame]) (hSame ▸ hOnly)⟩
      by_cases hStarts : ∃ request, event = .started request
      · obtain ⟨request, hStarted⟩ := hStarts
        have hIdle := hTurn request hStarted
        exact ⟨process, hSwitch (s.view_eq_of_idle (hIdle _) (hIdle _)) fun other _ => hIdle other⟩
      have hIdle := hOnly process hSame
      obtain ⟨hReads, hNone⟩ := hStep.view_of_idle hIdle (fun hEvent => hCrash hEvent hIdle)
        (fun request hStarted => hStarts ⟨request, hStarted⟩) only
      refine ⟨only, fun other hOther => ?_, ?_⟩
      · by_cases hProcess : other = process
        · rw [hProcess]
          exact (s.running_put_self process after).trans hNone
        · exact (s.running_put_of_ne hProcess after).trans (hOnly other hOther)
      · rw [s.view_put_of_ne (Ne.symm hSame)]
        exact hReads

/-- Processes that take turns run one program after another. -/
theorem serial_run {s t : ProcessFiles Path ι α} {trace : List (Nat × FileEvent Path ι α)}
    (run : Run (ProcessStep program target) s trace t) (hIdle : ∀ process, s.running process = none)
    (hTurns : TakeTurns trace) :
    ∃ only, t.Only only ∧
      Run (FileStep program target) (s.view 0) (trace.map Prod.snd) (t.view only) := by
  induction run with
  | nil => exact ⟨0, fun other _ => hIdle other, Run.nil _⟩
  | @snoc middle t trace label prior last ih =>
      obtain ⟨only, hOnly, hPrior⟩ := ih fun earlier process request later hTrace => by
        subst hTrace
        exact hTurns earlier process request (later ++ [label]) (List.append_assoc _ _ _)
      obtain ⟨next, hNext, hLast⟩ := last.serial hOnly fun request hStarted process => by
        have hNot := hTurns trace label.1 request [] (by rw [← hStarted]) process
        rw [← isSome_running prior hIdle] at hNot
        exact Option.isSome_eq_false_iff.mp hNot |> Option.isNone_iff_eq_none.mp
      refine ⟨next, hNext, ?_⟩
      rw [List.map_append]
      exact hPrior.snoc hLast

/-- What one program after another does, a process does alone. -/
theorem exists_processRun {s : ProcessFiles Path ι α} {process : Nat} {u : SharedFiles Path ι α}
    {trace : List (FileEvent Path ι α)} (run : Run (FileStep program target) (s.view process) trace u)
    (hCrash : .crashed ∉ trace) :
    ∃ t : ProcessFiles Path ι α, Run (ProcessStep program target) s (trace.map (process, ·)) t ∧
      t.view process = u ∧ ∀ other, other ≠ process → t.running other = s.running other := by
  induction run with
  | nil => exact ⟨s, Run.nil _, rfl, fun _ _ => rfl⟩
  | @snoc middle u trace event prior last ih =>
      obtain ⟨t, hPrior, hMiddle, hOthers⟩ :=
        ih fun hEarlier => hCrash (List.mem_append_left _ hEarlier)
      have hNot : event ≠ .crashed := fun hEvent =>
        hCrash (List.mem_append_right _ (List.mem_singleton.mpr hEvent.symm))
      have hStep : ProcessStep program target t (process, event) _ :=
        .step t process event u (fun hEvent => absurd hEvent hNot) (hMiddle ▸ last)
      refine ⟨t.put process u, ?_, t.view_put_self process u, fun other hOther => ?_⟩
      · rw [List.map_append]
        exact hPrior.snoc hStep
      · exact (t.running_put_of_ne hOther u).trans (hOthers other hOther)

end Serial

section Published

variable {Path : Type u} {ι : Type w} {α : Type v} [DecidableEq Path] {tmp target : Path}
  {program : ι → FileProgram Path α} {Publishes : ι → Bytes → Prop}
  {Post : ι → Option Bytes → α → Option Bytes → Prop}

/-- Files on which no process is at work, with the names apart. -/
structure ProcessFiles.Quiet (tmp target : Path) (s : ProcessFiles Path ι α) : Prop where
  files : (s.view 0).Quiet tmp target
  idle : ∀ process, s.running process = none

/-- The runs of publishing programs are coherent when the processes take turns. -/
theorem Publishing.coherent_processes (h : Publishing tmp target program Publishes Post)
    (hNe : target ≠ tmp) {s t : ProcessFiles Path ι α} {trace : List (Nat × FileEvent Path ι α)}
    (run : Run (ProcessStep program target) s trace t) (hStart : s.Quiet tmp target)
    (hReaders : ∀ reader, s.readers reader = none) (hTurns : TakeTurns trace) :
    Coherent target Publishes Post (s.files.shows target) (trace.map Prod.snd) := by
  obtain ⟨only, -, hRun⟩ := serial_run run hStart.idle hTurns
  exact h.coherent hNe hRun hStart.files hReaders

end Published

/-- Files without names, before any process runs. -/
def ProcessFiles.none {Path : Type u} {ι : Type w} {α : Type v} : ProcessFiles Path ι α where
  files := { names := fun _ => Option.none, contents := fun _ => [], fresh := 0 }

theorem ProcessFiles.quiet_none {Path : Type u} {ι : Type w} {α : Type v} (tmp target : Path) :
    (none : ProcessFiles Path ι α).Quiet tmp target :=
  ⟨SharedFiles.quiet_none tmp target, fun _ => rfl⟩

end Foundations
