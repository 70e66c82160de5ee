import DevyFps.Foundations.FilePrograms
import DevyFps.Foundations.Run

/-! A file that is replaced as a whole: it is written under another name, and renamed once it is
complete. Readers then see complete files only, wherever a call fails or the writer stops. -/

universe u v w

namespace Foundations

/-- What a publishing program knows of the files. -/
structure Stage where
  opened : Bool
  /-- The content under the temporary name, where it is known. -/
  written : Option Bytes
  /-- The content under the published name. -/
  shown : Option Bytes

section Discipline

variable {Path : Type u} {α : Type v} [DecidableEq Path] (tmp target : Path)

namespace Stage

/-- The stage after a call. -/
def after (stage : Stage) : FileCall Path → CallResult → Stage
  | .openTruncated _, none => { stage with opened := true, written := some [] }
  | .write bytes, none => { stage with written := stage.written.map (· ++ bytes) }
  | .write _, some _ => { stage with written := none }
  | .close, _ => { stage with opened := false }
  | .remove path, none =>
      if path = target then { stage with shown := none } else { stage with written := none }
  | .rename _ _, none => { stage with written := none, shown := stage.written }
  | _, _ => stage

/-- The calls that a publishing program may make: it writes under the temporary name only, and
renames a complete file that it has closed. -/
def Allows (Good : Bytes → Prop) (stage : Stage) : FileCall Path → Prop
  | .createDirectories _ => True
  | .openTruncated path => path = tmp ∧ stage.opened = false
  | .write _ => stage.opened = true
  | .close => True
  | .remove path => path = target ∨ path = tmp ∧ stage.opened = false
  | .rename source path =>
      source = tmp ∧ path = target ∧ stage.opened = false ∧
        ∃ bytes, stage.written = some bytes ∧ Good bytes

/-- The stage describes the files and what the program has open. -/
structure Holds (stage : Stage) (files : Files Path) (handle : Option Nat) : Prop where
  opened : stage.opened = true → ∃ file, handle = some file ∧ files.names tmp = some file
  written : ∀ bytes, stage.written = some bytes → files.shows tmp = some bytes
  shown : files.shows target = stage.shown

end Stage

/-- A program that makes allowed calls only, whatever they report, and that ends as `Post` says. -/
def FileProgram.Careful (Good : Bytes → Prop) (Post : α → Option Bytes → Prop) :
    FileProgram Path α → Stage → Prop
  | .done result, stage => Post result stage.shown
  | .call c next, stage =>
      stage.Allows tmp target Good c ∧
        ∀ result, (next result).Careful Good Post (stage.after target c result)

theorem FileProgram.Careful.mono {Good : Bytes → Prop} {Post Post' : α → Option Bytes → Prop}
    (hPost : ∀ result after, Post result after → Post' result after) {program : FileProgram Path α}
    {stage : Stage} (h : program.Careful tmp target Good Post stage) :
    program.Careful tmp target Good Post' stage := by
  induction program generalizing stage with
  | done result => exact hPost result stage.shown h
  | call c next ih => exact ⟨h.1, fun result => ih result (h.2 result)⟩

/-- How a program ends where no call fails. -/
def FileProgram.unhindered : FileProgram Path α → α
  | .done result => result
  | .call _ next => (next none).unhindered

/-- The published name shows nothing but good content, in a file that has no temporary name. -/
structure Files.Separate (Good : Bytes → Prop) (files : Files Path) : Prop where
  known : ∀ path file, files.names path = some file → file < files.fresh
  apart : ∀ file, files.names target = some file → files.names tmp ≠ some file
  good : ∀ bytes, files.shows target = some bytes → Good bytes

/-- A file that was opened under the published name stays as it was. -/
structure OpenFile.Kept (held : OpenFile Path) (files : Files Path) : Prop where
  known : held.file < files.fresh
  apart : held.path = target → files.names tmp ≠ some held.file
  same : held.path = target → files.contents held.file = held.seen
  part : held.path = target → held.got <+: held.seen

end Discipline

section Calls

variable {Path : Type u} {tmp target : Path} {Good : Bytes → Prop} {files : Files Path}

/-- A change that keeps the published files of every reader, and the files apart. -/
structure Keeps (tmp target : Path) (Good : Bytes → Prop) (files files' : Files Path) : Prop where
  separate : files'.Separate tmp target Good
  readers : ∀ held : OpenFile Path, held.Kept tmp target files → held.Kept tmp target files'

theorem Keeps.refl (h : files.Separate tmp target Good) : Keeps tmp target Good files files :=
  ⟨h, fun _ hHeld => hHeld⟩

/-- The file under the temporary name may change. -/
theorem keeps_setContent {file : Nat} (h : files.Separate tmp target Good)
    (hTmp : files.names tmp = some file) (bytes : Bytes) :
    Keeps tmp target Good files (files.setContent file bytes) ∧
      (files.setContent file bytes).shows target = files.shows target ∧
        (files.setContent file bytes).shows tmp = some bytes := by
  have hShows : (files.setContent file bytes).shows target = files.shows target := by
    unfold Files.shows
    rw [Files.names_setContent]
    refine Option.map_congr fun other hOther => ?_
    refine Files.contents_setContent_of_ne files (fun hSame => ?_) bytes
    exact h.apart other hOther (hSame ▸ hTmp)
  refine ⟨⟨⟨h.known, h.apart, fun content hContent => h.good content (hShows ▸ hContent)⟩, ?_⟩,
    hShows, ?_⟩
  · intro held hHeld
    refine ⟨hHeld.known, hHeld.apart, fun hPath => ?_, hHeld.part⟩
    have hOther : held.file ≠ file := fun hSame => hHeld.apart hPath (hSame ▸ hTmp)
    exact (Files.contents_setContent_of_ne files hOther bytes).trans (hHeld.same hPath)
  · exact files.setContent file bytes |>.shows_eq_some_iff.mpr
      ⟨file, hTmp, Files.contents_setContent_self files file bytes⟩

variable [DecidableEq Path]

/-- A new file may come under the temporary name. -/
theorem keeps_create (h : files.Separate tmp target Good) (hNe : target ≠ tmp) :
    Keeps tmp target Good files (files.create tmp) ∧
      (files.create tmp).shows target = files.shows target ∧
        (files.create tmp).shows tmp = some [] := by
  have hShows : (files.create tmp).shows target = files.shows target := by
    unfold Files.shows
    rw [Files.names_create_of_ne files hNe]
    exact Option.map_congr fun other hOther =>
      Files.contents_create_of_lt files (h.known target other hOther) tmp
  refine ⟨⟨⟨?_, ?_, fun content hContent => h.good content (hShows ▸ hContent)⟩, ?_⟩, hShows, ?_⟩
  · intro path file hName
    rw [Files.fresh_create]
    by_cases hPath : path = tmp
    · rw [hPath, Files.names_create_self] at hName
      injection hName with hName
      omega
    · rw [Files.names_create_of_ne files hPath] at hName
      exact Nat.lt_succ_of_lt (h.known path file hName)
  · intro file hName hTmp
    rw [Files.names_create_of_ne files hNe] at hName
    rw [Files.names_create_self] at hTmp
    injection hTmp with hTmp
    exact absurd (h.known target file hName) (by omega)
  · intro held hHeld
    refine ⟨Nat.lt_succ_of_lt hHeld.known, fun _ hTmp => ?_, fun hPath => ?_,
      hHeld.part⟩
    · rw [Files.names_create_self] at hTmp
      injection hTmp with hTmp
      exact absurd hHeld.known (by omega)
    · exact (Files.contents_create_of_lt files hHeld.known tmp).trans (hHeld.same hPath)
  · exact (files.create tmp).shows_eq_some_iff.mpr
      ⟨files.fresh, Files.names_create_self files tmp, Files.contents_create_self files tmp⟩

/-- Names may go. -/
theorem keeps_remove (h : files.Separate tmp target Good) (path : Path) :
    Keeps tmp target Good files (files.setName path none) := by
  have hLess : ∀ other file, (files.setName path none).names other = some file →
      files.names other = some file := by
    intro other file hName
    by_cases hOther : other = path
    · rw [hOther, Files.names_setName_self] at hName
      cases hName
    · rwa [Files.names_setName_of_ne files hOther] at hName
  refine ⟨⟨fun other file hName => h.known other file (hLess other file hName),
    fun file hTarget hTmp => h.apart file (hLess _ _ hTarget) (hLess _ _ hTmp), ?_⟩, ?_⟩
  · intro bytes hShows
    obtain ⟨file, hName, hContent⟩ := (Files.shows_eq_some_iff _).mp hShows
    exact h.good bytes ((Files.shows_eq_some_iff _).mpr ⟨file, hLess _ _ hName, hContent⟩)
  · intro held hHeld
    exact ⟨hHeld.known, fun hPath hTmp => hHeld.apart hPath (hLess _ _ hTmp), hHeld.same,
      hHeld.part⟩

theorem shows_remove_of_ne {path other : Path} (h : other ≠ path) :
    (files.setName path none).shows other = files.shows other := by
  unfold Files.shows
  rw [Files.names_setName_of_ne files h, Files.contents_setName]

theorem shows_remove_self (path : Path) : (files.setName path none).shows path = none := by
  unfold Files.shows
  rw [Files.names_setName_self, Option.map_none]

/-- The temporary file takes the published name. -/
theorem keeps_rename {file : Nat} (h : files.Separate tmp target Good) (hNe : target ≠ tmp)
    (hTmp : files.names tmp = some file) (hGood : Good (files.contents file)) :
    Keeps tmp target Good files ((files.setName tmp none).setName target (some file)) ∧
      ((files.setName tmp none).setName target (some file)).shows target =
        some (files.contents file) := by
  have hTmpGone : ((files.setName tmp none).setName target (some file)).names tmp = none := by
    rw [Files.names_setName_of_ne _ hNe.symm, Files.names_setName_self]
  have hShows : ((files.setName tmp none).setName target (some file)).shows target =
      some (files.contents file) :=
    (Files.shows_eq_some_iff _).mpr ⟨file, Files.names_setName_self _ _ _, rfl⟩
  refine ⟨⟨⟨?_, ?_, ?_⟩, ?_⟩, hShows⟩
  · intro path other hName
    by_cases hTarget : path = target
    · rw [hTarget, Files.names_setName_self] at hName
      injection hName with hName
      exact hName ▸ h.known tmp file hTmp
    · rw [Files.names_setName_of_ne _ hTarget] at hName
      by_cases hPath : path = tmp
      · rw [hPath, Files.names_setName_self] at hName
        cases hName
      · rw [Files.names_setName_of_ne _ hPath] at hName
        exact h.known path other hName
  · intro other _ hOther
    rw [hTmpGone] at hOther
    cases hOther
  · intro bytes hBytes
    rw [hShows] at hBytes
    injection hBytes with hBytes
    exact hBytes ▸ hGood
  · intro held hHeld
    refine ⟨hHeld.known, fun _ hOther => ?_, hHeld.same, hHeld.part⟩
    rw [hTmpGone] at hOther
    cases hOther

/-- What an allowed call does. -/
theorem keeps_call {stage : Stage} {handle handle' : Option Nat} {c : FileCall Path}
    {result : CallResult} {files' : Files Path} (hNe : target ≠ tmp)
    (h : files.Separate tmp target Good) (hHolds : stage.Holds tmp target files handle)
    (hAllows : stage.Allows tmp target Good c)
    (hCall : Calls (files, handle) c result (files', handle')) :
    Keeps tmp target Good files files' ∧
      (stage.after target c result).Holds tmp target files' handle' := by
  generalize hBefore : (files, handle) = before at hCall
  generalize hAfter : (files', handle') = later at hCall
  cases hCall with
  | failed known other message hNotClose =>
      obtain ⟨rfl, rfl⟩ := Prod.mk.inj (hAfter.trans hBefore.symm)
      refine ⟨Keeps.refl h, ?_⟩
      cases c with
      | close => exact absurd rfl hNotClose
      | write bytes => exact ⟨hHolds.opened, nofun, hHolds.shown⟩
      | createDirectories path => exact hHolds
      | openTruncated path => exact hHolds
      | remove path => exact hHolds
      | rename source path => exact hHolds
  | createDirectories known path =>
      obtain ⟨rfl, rfl⟩ := Prod.mk.inj (hAfter.trans hBefore.symm)
      exact ⟨Keeps.refl h, hHolds⟩
  | truncate known held path file hName =>
      obtain ⟨rfl, rfl⟩ := Prod.mk.inj hBefore
      obtain ⟨rfl, rfl⟩ := Prod.mk.inj hAfter
      obtain ⟨rfl, -⟩ := hAllows
      obtain ⟨hKeeps, hShown, hTmp⟩ := keeps_setContent h hName []
      refine ⟨hKeeps, fun _ => ⟨file, rfl, hName⟩, fun bytes hBytes => ?_, hShown.trans hHolds.shown⟩
      exact hTmp.trans hBytes
  | create known held path hName =>
      obtain ⟨rfl, rfl⟩ := Prod.mk.inj hBefore
      obtain ⟨rfl, rfl⟩ := Prod.mk.inj hAfter
      obtain ⟨rfl, -⟩ := hAllows
      obtain ⟨hKeeps, hShown, hTmp⟩ := keeps_create h hNe
      refine ⟨hKeeps, fun _ => ⟨files.fresh, rfl, Files.names_create_self files path⟩,
        fun bytes hBytes => ?_, hShown.trans hHolds.shown⟩
      exact hTmp.trans hBytes
  | write known file bytes =>
      obtain ⟨rfl, rfl⟩ := Prod.mk.inj hBefore
      obtain ⟨rfl, rfl⟩ := Prod.mk.inj hAfter
      obtain ⟨other, hSame, hName⟩ := hHolds.opened hAllows
      obtain rfl := Option.some.inj hSame
      obtain ⟨hKeeps, hShown, hTmp⟩ := keeps_setContent h hName (files.contents file ++ bytes)
      refine ⟨hKeeps, fun _ => ⟨file, rfl, hName⟩, fun content hContent => ?_,
        hShown.trans hHolds.shown⟩
      obtain ⟨earlier, hEarlier, rfl⟩ := Option.map_eq_some_iff.mp hContent
      have hWas := hHolds.written earlier hEarlier
      rw [Files.shows, hName, Option.map_some, Option.some.injEq] at hWas
      rw [hTmp, hWas]
  | writePart known file bytes part message hPart =>
      obtain ⟨rfl, rfl⟩ := Prod.mk.inj hBefore
      obtain ⟨rfl, rfl⟩ := Prod.mk.inj hAfter
      obtain ⟨other, hSame, hName⟩ := hHolds.opened hAllows
      obtain rfl := Option.some.inj hSame
      obtain ⟨hKeeps, hShown, -⟩ := keeps_setContent h hName (files.contents file ++ part)
      exact ⟨hKeeps, fun _ => ⟨file, rfl, hName⟩, nofun, hShown.trans hHolds.shown⟩
  | close known held result =>
      obtain ⟨rfl, rfl⟩ := Prod.mk.inj hBefore
      obtain ⟨rfl, rfl⟩ := Prod.mk.inj hAfter
      exact ⟨Keeps.refl h, nofun, hHolds.written, hHolds.shown⟩
  | remove known held path =>
      obtain ⟨rfl, rfl⟩ := Prod.mk.inj hBefore
      obtain ⟨rfl, rfl⟩ := Prod.mk.inj hAfter
      refine ⟨keeps_remove h path, ?_⟩
      change Stage.Holds tmp target (if path = target then _ else _) _ _
      by_cases hPath : path = target
      · rw [if_pos hPath, hPath]
        refine ⟨fun hOpened => ?_, fun bytes hBytes => ?_, shows_remove_self target⟩
        · obtain ⟨file, hHandle, hName⟩ := hHolds.opened hOpened
          exact ⟨file, hHandle, (Files.names_setName_of_ne files hNe.symm none).trans hName⟩
        · exact (shows_remove_of_ne hNe.symm).trans (hHolds.written bytes hBytes)
      · obtain ⟨rfl, hClosed⟩ := hAllows.resolve_left hPath
        rw [if_neg hPath]
        refine ⟨fun hOpened => ?_, nofun, (shows_remove_of_ne hNe).trans hHolds.shown⟩
        exact absurd (hClosed.symm.trans hOpened) Bool.false_ne_true
  | rename known held source path file hName =>
      obtain ⟨rfl, rfl⟩ := Prod.mk.inj hBefore
      obtain ⟨rfl, rfl⟩ := Prod.mk.inj hAfter
      obtain ⟨rfl, rfl, hClosed, bytes, hBytes, hGood⟩ := hAllows
      have hWas := hHolds.written bytes hBytes
      rw [Files.shows, hName, Option.map_some, Option.some.injEq] at hWas
      obtain ⟨hKeeps, hShows⟩ := keeps_rename h hNe hName (hWas ▸ hGood)
      refine ⟨hKeeps, fun hOpened => ?_, nofun, ?_⟩
      · exact absurd (hClosed.symm.trans hOpened) Bool.false_ne_true
      · exact hShows.trans ((congrArg some hWas).trans hBytes.symm)

/-- An allowed call may succeed. -/
theorem exists_call {stage : Stage} {handle : Option Nat} {c : FileCall Path}
    (hHolds : stage.Holds tmp target files handle) (hAllows : stage.Allows tmp target Good c) :
    ∃ files' handle', Calls (files, handle) c none (files', handle') := by
  cases c with
  | createDirectories path => exact ⟨_, _, Calls.createDirectories _ path⟩
  | openTruncated path =>
      cases hName : files.names path with
      | none => exact ⟨_, _, Calls.create files handle path hName⟩
      | some file => exact ⟨_, _, Calls.truncate files handle path file hName⟩
  | write bytes =>
      obtain ⟨file, rfl, hName⟩ := hHolds.opened hAllows
      exact ⟨_, _, Calls.write files file bytes⟩
  | close => exact ⟨_, _, Calls.close files handle none⟩
  | remove path => exact ⟨_, _, Calls.remove files handle path⟩
  | rename source path =>
      obtain ⟨rfl, rfl, -, bytes, hBytes, -⟩ := hAllows
      obtain ⟨file, hName, -⟩ := (Files.shows_eq_some_iff _).mp (hHolds.written bytes hBytes)
      exact ⟨_, _, Calls.rename files handle source path file hName⟩

end Calls

section Runs

variable {Path : Type u} {ι : Type w} {α : Type v} [DecidableEq Path] (tmp target : Path)
  (Good : Bytes → Prop)

/-- A program that publishes good content whatever the file holds when it starts. -/
def FileProgram.Disciplined (Post : Option Bytes → α → Option Bytes → Prop)
    (program : FileProgram Path α) : Prop :=
  ∀ before, program.Careful tmp target Good (Post before) ⟨false, none, before⟩

variable (Post : ι → Option Bytes → α → Option Bytes → Prop)

/-- The files are as the programs and the readers rely on. -/
structure SharedFiles.Intact (s : SharedFiles Path ι α) : Prop where
  files : s.files.Separate tmp target Good
  readers : ∀ reader held, s.readers reader = some held → held.Kept tmp target s.files
  running : ∀ r, s.running = some r → ∃ stage : Stage,
    stage.Holds tmp target s.files r.handle ∧
      r.rest.Careful tmp target Good (Post r.request r.before) stage

/-- What an event tells about the published name: a file that is opened holds good content, and
its reader gets what the file held then. -/
def FileEvent.Sound : FileEvent Path ι α → Prop
  | .opened _ path seen => path = target → Good seen
  | .read _ path seen got => path = target → got = seen
  | .finished request before result after => Post request before result after
  | _ => True

variable {tmp target Good Post} {program : ι → FileProgram Path α}

theorem SharedFiles.Intact.keep {s : SharedFiles Path ι α} {files : Files Path}
    (h : s.Intact tmp target Good Post) (hKeeps : Keeps tmp target Good s.files files)
    {running : Option (RunningProgram Path ι α)}
    (hRunning : ∀ r, running = some r → ∃ stage : Stage,
      stage.Holds tmp target files r.handle ∧
        r.rest.Careful tmp target Good (Post r.request r.before) stage) :
    ({ s with files, running } : SharedFiles Path ι α).Intact tmp target Good Post :=
  ⟨hKeeps.separate, fun reader held hHeld => hKeeps.readers held (h.readers reader held hHeld),
    hRunning⟩

/-- A reader opens, reads on or closes. -/
theorem SharedFiles.Intact.setReader {s : SharedFiles Path ι α}
    (h : s.Intact tmp target Good Post) (reader : Nat) (entry : Option (OpenFile Path))
    (hEntry : ∀ held, entry = some held → held.Kept tmp target s.files) :
    ({ s with readers := Function.update s.readers reader entry } :
      SharedFiles Path ι α).Intact tmp target Good Post := by
  refine ⟨h.files, fun other held hHeld => ?_, h.running⟩
  by_cases hOther : other = reader
  · exact hEntry held ((Function.update_self reader entry s.readers).symm.trans (hOther ▸ hHeld))
  · exact h.readers other held ((Function.update_of_ne hOther entry s.readers).symm.trans hHeld)

/-- What one step preserves, and what it tells. -/
theorem SharedFiles.Intact.step {s t : SharedFiles Path ι α} {event : FileEvent Path ι α}
    (hNe : target ≠ tmp) (h : s.Intact tmp target Good Post)
    (hStep : FileStep program target s event t)
    (hStarted : ∀ request, event = .started request →
      (program request).Disciplined tmp target Good (Post request)) :
    t.Intact tmp target Good Post ∧ event.Sound target Good Post := by
  cases hStep with
  | start request hIdle =>
      refine ⟨⟨h.files, h.readers, fun r hRunning => ?_⟩, trivial⟩
      obtain rfl := Option.some.inj hRunning
      exact ⟨⟨false, none, s.files.shows target⟩, ⟨nofun, nofun, rfl⟩,
        hStarted request rfl (s.files.shows target)⟩
  | call request before c next handle handle' result files hRunning hCall =>
      obtain ⟨stage, hHolds, hAllows, hNext⟩ := h.running _ hRunning
      obtain ⟨hKeeps, hAfter⟩ := keeps_call hNe h.files hHolds hAllows hCall
      refine ⟨h.keep hKeeps fun r hSame => ?_, trivial⟩
      obtain rfl := Option.some.inj hSame
      exact ⟨_, hAfter, hNext result⟩
  | writePart request before part rest next file hRunning =>
      obtain ⟨stage, hHolds, hAllows, hNext⟩ := h.running _ hRunning
      -- The part is written as by a call of its own; the rest of the call is still to come.
      obtain ⟨hKeeps, hAfter⟩ := keeps_call hNe h.files hHolds (c := .write part) hAllows
        (Calls.write s.files file part)
      refine ⟨h.keep hKeeps fun r hSame => ?_, trivial⟩
      obtain rfl := Option.some.inj hSame
      refine ⟨_, hAfter, hAllows, fun result => ?_⟩
      have hResult := hNext result
      cases result with
      | some message => exact hResult
      | none =>
          unfold Stage.after at hResult ⊢
          simpa only [Option.map_map, Function.comp_def, List.append_assoc] using hResult
  | finish request before result handle hRunning =>
      obtain ⟨stage, hHolds, hPost⟩ := h.running _ hRunning
      refine ⟨h.keep (Keeps.refl h.files) nofun, ?_⟩
      change Post request before result (s.files.shows target)
      rw [hHolds.shown]
      exact hPost
  | crash => exact ⟨h.keep (Keeps.refl h.files) nofun, trivial⟩
  | openFile reader path file hName =>
      refine ⟨h.setReader reader _ fun held hHeld => ?_, fun hPath => ?_⟩
      · obtain rfl := Option.some.inj hHeld
        exact ⟨h.files.known path file hName, fun hPath => h.files.apart file (hPath ▸ hName),
          fun _ => rfl, fun _ => List.nil_prefix⟩
      · exact h.files.good _ ((Files.shows_eq_some_iff _).mpr ⟨file, hPath ▸ hName, rfl⟩)
  | readPart reader held part hOpen hPart =>
      have hHeld := h.readers reader held hOpen
      refine ⟨h.setReader reader _ fun other hOther => ?_, trivial⟩
      obtain rfl := Option.some.inj hOther
      refine ⟨hHeld.known, hHeld.apart, hHeld.same, fun hPath => ?_⟩
      have hGot := List.prefix_iff_eq_append.mp (hHeld.part hPath)
      rw [hHeld.same hPath] at hPart
      change held.got ++ part <+: held.seen
      rw [← hGot]
      exact (List.prefix_append_right_inj held.got).mpr hPart
  | readAll reader held hOpen hEnd =>
      have hHeld := h.readers reader held hOpen
      refine ⟨h.setReader reader none nofun, fun hPath => ?_⟩
      rw [hHeld.same hPath] at hEnd
      exact (hHeld.part hPath).eq_of_length_le hEnd
  | closeFile reader => exact ⟨h.setReader reader none nofun, trivial⟩

/-- What whole runs preserve, and what their events tell. -/
theorem SharedFiles.Intact.run {s t : SharedFiles Path ι α} {trace : List (FileEvent Path ι α)}
    (hNe : target ≠ tmp) (run : Run (FileStep program target) s trace t)
    (hStart : s.Intact tmp target Good Post)
    (hStarted : ∀ request, .started request ∈ trace →
      (program request).Disciplined tmp target Good (Post request)) :
    t.Intact tmp target Good Post ∧ ∀ event ∈ trace, event.Sound target Good Post := by
  induction run with
  | nil => exact ⟨hStart, nofun⟩
  | snoc prior last ih =>
      obtain ⟨hMiddle, hEarlier⟩ := ih fun request hRequest =>
        hStarted request (List.mem_append_left _ hRequest)
      obtain ⟨hFinal, hLast⟩ := hMiddle.step hNe last fun request hRequest =>
        hStarted request (List.mem_append_right _ (List.mem_singleton.mpr hRequest.symm))
      refine ⟨hFinal, fun event hEvent => ?_⟩
      rcases List.mem_append.mp hEvent with hBefore | hNow
      · exact hEarlier event hBefore
      · exact List.mem_singleton.mp hNow ▸ hLast

/-- A program that is under way was started in this step, or was under way before. -/
theorem FileStep.underWay {s t : SharedFiles Path ι α} {event : FileEvent Path ι α}
    (hStep : FileStep program target s event t) {r : RunningProgram Path ι α}
    (hRunning : t.running = some r) :
    event = .started r.request ∨
      ∃ earlier, s.running = some earlier ∧ earlier.request = r.request := by
  cases hStep with
  | start request hIdle =>
      obtain rfl := Option.some.inj hRunning
      exact .inl rfl
  | call request before c next handle handle' result files hBefore hCall =>
      obtain rfl := Option.some.inj hRunning
      exact .inr ⟨_, hBefore, rfl⟩
  | writePart request before part rest next file hBefore =>
      obtain rfl := Option.some.inj hRunning
      exact .inr ⟨_, hBefore, rfl⟩
  | finish | crash => cases hRunning
  | openFile | readPart | readAll | closeFile => exact .inr ⟨r, hRunning, rfl⟩

/-- A program that ends was started before. -/
theorem started_of_finished {s t : SharedFiles Path ι α}
    {earlier later : List (FileEvent Path ι α)} {request : ι} {before : Option Bytes} {result : α}
    {after : Option Bytes}
    (run : Run (FileStep program target) s
      (earlier ++ .finished request before result after :: later) t)
    (hIdle : s.running = none) : .started request ∈ earlier := by
  obtain ⟨u, v, hEarlier, hFinish, -⟩ := run.around
  have hStarted : ∀ r, u.running = some r → .started r.request ∈ earlier := by
    refine hEarlier.history (I := fun trace s => ∀ r, s.running = some r →
      .started r.request ∈ trace) ?_ fun r hRunning => ?_
    · intro trace s label t hTrace hStep r hNow
      rcases hStep.underWay hNow with hStart | ⟨first, hBefore, hRequest⟩
      · exact List.mem_append_right _ (List.mem_singleton.mpr hStart.symm)
      · exact List.mem_append_left _ (hRequest ▸ hTrace first hBefore)
    · rw [hIdle] at hRunning
      cases hRunning
  cases hFinish with
  | finish request before result handle hRunning => exact hStarted _ hRunning

/-- A program that is under way can come to its end without a failure. -/
theorem SharedFiles.Intact.exists_end (hNe : target ≠ tmp) {s : SharedFiles Path ι α} {request : ι}
    {before : Option Bytes} {rest : FileProgram Path α} {handle : Option Nat}
    (h : s.Intact tmp target Good Post)
    (hRunning : s.running = some ⟨request, before, rest, handle⟩) :
    ∃ t trace handle', Run (FileStep program target) s trace t ∧
      t.running = some ⟨request, before, .done rest.unhindered, handle'⟩ ∧
        ∀ event ∈ trace, ∃ c, event = .called c none := by
  induction rest generalizing s handle with
  | done result => exact ⟨s, [], handle, .nil s, hRunning, nofun⟩
  | call c next ih =>
      obtain ⟨stage, hHolds, hAllows, hNext⟩ := h.running _ hRunning
      obtain ⟨files, handle', hCall⟩ := exists_call hHolds hAllows
      obtain ⟨hKeeps, hAfter⟩ := keeps_call hNe h.files hHolds hAllows hCall
      have hStep : FileStep program target s (.called c none)
          { s with files, running := some ⟨request, before, next none, handle'⟩ } :=
        .call s request before c next handle handle' none files hRunning hCall
      have hIntact : ({ s with files, running := some ⟨request, before, next none, handle'⟩ } :
          SharedFiles Path ι α).Intact tmp target Good Post := by
        refine h.keep hKeeps fun r hSame => ?_
        obtain rfl := Option.some.inj hSame
        exact ⟨_, hAfter, hNext none⟩
      obtain ⟨t, trace, last, run, hEnd, hCalls⟩ := ih none hIntact rfl
      refine ⟨t, .called c none :: trace, last, (Run.single hStep).trans run, hEnd, ?_⟩
      intro event hEvent
      rcases List.mem_cons.mp hEvent with rfl | hLater
      · exact ⟨c, rfl⟩
      · exact hCalls event hLater

/-- A reader that is left alone reads what is there. -/
theorem exists_whole_read {s : SharedFiles Path ι α} (reader : Nat) {path : Path} {bytes : Bytes}
    (hShows : s.files.shows path = some bytes) :
    ∃ t, Run (FileStep program target) s
      [.opened reader path bytes, .readPart reader, .read reader path bytes bytes] t := by
  obtain ⟨file, hName, rfl⟩ := (Files.shows_eq_some_iff _).mp hShows
  let holding (held : OpenFile Path) : SharedFiles Path ι α :=
    { s with readers := Function.update s.readers reader (some held) }
  have hOpen : FileStep program target s (.opened reader path (s.files.contents file))
      (holding ⟨path, file, s.files.contents file, []⟩) :=
    .openFile s reader path file hName
  have hPart : FileStep program target (holding ⟨path, file, s.files.contents file, []⟩)
      (.readPart reader) _ :=
    .readPart _ reader ⟨path, file, s.files.contents file, []⟩ (s.files.contents file)
      (Function.update_self _ _ _) List.prefix_rfl
  refine ⟨_, ((Run.single hOpen).snoc hPart).snoc (.readAll _ reader
    ⟨path, file, s.files.contents file, s.files.contents file⟩ (Function.update_self _ _ _) ?_)⟩
  exact Nat.le_refl _

/-- Files with the names apart, and with nothing under way. -/
structure SharedFiles.Quiet (tmp target : Path) (s : SharedFiles Path ι α) : Prop where
  known : ∀ path file, s.files.names path = some file → file < s.files.fresh
  apart : ∀ file, s.files.names target = some file → s.files.names tmp ≠ some file
  readers : ∀ reader held, s.readers reader = some held → held.Kept tmp target s.files
  idle : s.running = none

/-- Quiet files are intact for whatever the published name shows. -/
theorem SharedFiles.Quiet.intact {s : SharedFiles Path ι α} (h : s.Quiet tmp target)
    (hShown : ∀ bytes, s.files.shows target = some bytes → Good bytes) :
    s.Intact tmp target Good Post :=
  ⟨⟨h.known, h.apart, hShown⟩, h.readers,
    fun r hRunning => by rw [h.idle] at hRunning; cases hRunning⟩

theorem SharedFiles.Intact.quiet {s : SharedFiles Path ι α} (h : s.Intact tmp target Good Post)
    (hIdle : s.running = none) : s.Quiet tmp target :=
  ⟨h.files.known, h.files.apart, h.readers, hIdle⟩

/-- What a reader has open it opened in this step, or had open before. -/
theorem FileStep.held {s t : SharedFiles Path ι α} {event : FileEvent Path ι α}
    (hStep : FileStep program target s event t) {reader : Nat} {held : OpenFile Path}
    (hHeld : t.readers reader = some held) :
    event = .opened reader held.path held.seen ∨
      ∃ earlier, s.readers reader = some earlier ∧ earlier.path = held.path ∧
        earlier.seen = held.seen := by
  have hUpdate : ∀ (changed : Nat) (entry : Option (OpenFile Path)),
      Function.update s.readers changed entry reader = some held →
        reader = changed ∧ entry = some held ∨ s.readers reader = some held := by
    intro changed entry hNow
    by_cases hSame : reader = changed
    · rw [hSame, Function.update_self] at hNow
      exact .inl ⟨hSame, hNow⟩
    · rw [Function.update_of_ne hSame] at hNow
      exact .inr hNow
  cases hStep with
  | openFile changed path file hName =>
      rcases hUpdate _ _ hHeld with ⟨rfl, hEntry⟩ | hBefore
      · obtain rfl := Option.some.inj hEntry
        exact .inl rfl
      · exact .inr ⟨held, hBefore, rfl, rfl⟩
  | readPart changed earlier part hOpen hPart =>
      rcases hUpdate _ _ hHeld with ⟨rfl, hEntry⟩ | hBefore
      · obtain rfl := Option.some.inj hEntry
        exact .inr ⟨earlier, hOpen, rfl, rfl⟩
      · exact .inr ⟨held, hBefore, rfl, rfl⟩
  | readAll changed earlier hOpen hEnd =>
      rcases hUpdate _ _ hHeld with ⟨-, hEntry⟩ | hBefore
      · cases hEntry
      · exact .inr ⟨held, hBefore, rfl, rfl⟩
  | closeFile changed =>
      rcases hUpdate _ _ hHeld with ⟨-, hEntry⟩ | hBefore
      · cases hEntry
      · exact .inr ⟨held, hBefore, rfl, rfl⟩
  | start | call | writePart | finish | crash => exact .inr ⟨held, hHeld, rfl, rfl⟩

/-- A reader reads what it opened before. -/
theorem opened_of_read {s t : SharedFiles Path ι α} {earlier later : List (FileEvent Path ι α)}
    {reader : Nat} {path : Path} {seen got : Bytes}
    (run : Run (FileStep program target) s (earlier ++ .read reader path seen got :: later) t)
    (hStart : ∀ reader, s.readers reader = none) : .opened reader path seen ∈ earlier := by
  obtain ⟨u, v, hEarlier, hRead, -⟩ := run.around
  have hHeld : ∀ held, u.readers reader = some held →
      .opened reader held.path held.seen ∈ earlier := by
    refine hEarlier.history (I := fun trace s => ∀ held, s.readers reader = some held →
      .opened reader held.path held.seen ∈ trace) ?_ fun held hOpen => ?_
    · intro trace s label t hTrace hStep held hNow
      rcases hStep.held hNow with hOpened | ⟨before, hBefore, hPath, hSeen⟩
      · exact List.mem_append_right _ (List.mem_singleton.mpr hOpened.symm)
      · exact List.mem_append_left _ (hPath ▸ hSeen ▸ hTrace before hBefore)
    · rw [hStart] at hOpen
      cases hOpen
  cases hRead with
  | readAll reader held hOpen hEnd => exact hHeld held hOpen

end Runs

section Published

variable {Path : Type u} {ι : Type w} {α : Type v} [DecidableEq Path] {tmp target : Path}
  {program : ι → FileProgram Path α} {Publishes : ι → Bytes → Prop}
  {Post : ι → Option Bytes → α → Option Bytes → Prop}

/-- The programs publish what their requests say, and end as they say. -/
def Publishing (tmp target : Path) (program : ι → FileProgram Path α)
    (Publishes : ι → Bytes → Prop) (Post : ι → Option Bytes → α → Option Bytes → Prop) : Prop :=
  ∀ request, ∀ Good : Bytes → Prop, (∀ bytes, Publishes request bytes → Good bytes) →
    (program request).Disciplined tmp target Good (Post request)

/-- The state after a run, and what its events tell. -/
theorem Publishing.run (h : Publishing tmp target program Publishes Post) (hNe : target ≠ tmp)
    {s t : SharedFiles Path ι α} {trace : List (FileEvent Path ι α)}
    (run : Run (FileStep program target) s trace t) (hStart : s.Quiet tmp target)
    (Good : Bytes → Prop) (hShown : ∀ bytes, s.files.shows target = some bytes → Good bytes)
    (hGood : ∀ request, .started request ∈ trace → ∀ bytes, Publishes request bytes → Good bytes) :
    t.Intact tmp target Good Post ∧ ∀ event ∈ trace, event.Sound target Good Post :=
  (hStart.intact hShown).run hNe run fun request hRequest => h request Good (hGood request hRequest)

/-- A program ends as its request says. -/
theorem Publishing.finished (h : Publishing tmp target program Publishes Post)
    (hNe : target ≠ tmp) {s t : SharedFiles Path ι α} {trace : List (FileEvent Path ι α)}
    (run : Run (FileStep program target) s trace t) (hStart : s.Quiet tmp target) {request : ι}
    {before : Option Bytes} {result : α} {after : Option Bytes}
    (hEvent : .finished request before result after ∈ trace) :
    Post request before result after :=
  (h.run hNe run hStart (fun _ => True) (fun _ _ => trivial) fun _ _ _ _ => trivial).2
    _ hEvent

/-- A reader gets the file as it was when it was opened. -/
theorem Publishing.read (h : Publishing tmp target program Publishes Post)
    (hNe : target ≠ tmp) {s t : SharedFiles Path ι α} {trace : List (FileEvent Path ι α)}
    (run : Run (FileStep program target) s trace t) (hStart : s.Quiet tmp target) {reader : Nat}
    {seen got : Bytes} (hEvent : .read reader target seen got ∈ trace) : got = seen :=
  (h.run hNe run hStart (fun _ => True) (fun _ _ => trivial) fun _ _ _ _ => trivial).2
    _ hEvent rfl

/-- What is found when the file is opened was there at the start, or was published since. -/
theorem Publishing.opened (h : Publishing tmp target program Publishes Post) (hNe : target ≠ tmp)
    {s t : SharedFiles Path ι α} {earlier later : List (FileEvent Path ι α)} {reader : Nat}
    {seen : Bytes}
    (run : Run (FileStep program target) s (earlier ++ .opened reader target seen :: later) t)
    (hStart : s.Quiet tmp target) :
    s.files.shows target = some seen ∨ ∃ request, .started request ∈ earlier ∧
      Publishes request seen := by
  obtain ⟨u, v, hEarlier, hOpen, -⟩ := run.around
  have hSound := (h.run hNe (hEarlier.snoc hOpen) hStart
    (fun bytes => s.files.shows target = some bytes ∨
      ∃ request, .started request ∈ earlier ∧ Publishes request bytes)
    (fun bytes hBytes => .inl hBytes) fun request hRequest bytes hBytes => ?_).2
  · exact hSound _ (List.mem_append_right _ (List.mem_singleton_self _)) rfl
  · rcases List.mem_append.mp hRequest with hBefore | hNow
    · exact .inr ⟨request, hBefore, hBytes⟩
    · cases List.mem_singleton.mp hNow

/-- Once a program has ended, nothing older than what it left is found. -/
theorem Publishing.opened_since (h : Publishing tmp target program Publishes Post)
    (hNe : target ≠ tmp) {s t : SharedFiles Path ι α}
    {earlier middle later : List (FileEvent Path ι α)} {request : ι} {before : Option Bytes}
    {result : α} {after : Option Bytes} {reader : Nat} {seen : Bytes}
    (run : Run (FileStep program target) s
      (earlier ++ .finished request before result after ::
        (middle ++ .opened reader target seen :: later)) t)
    (hStart : s.Quiet tmp target) :
    after = some seen ∨ ∃ request, .started request ∈ middle ∧ Publishes request seen := by
  obtain ⟨u, v, hEarlier, hFinish, hRest⟩ := run.around
  obtain ⟨hIntact, -⟩ := h.run hNe (hEarlier.snoc hFinish) hStart (fun _ => True)
    (fun _ _ => trivial) fun _ _ _ _ => trivial
  cases hFinish with
  | finish request before result handle hRunning =>
      have hOpened := h.opened hNe hRest (hIntact.quiet rfl)
      exact hOpened

/-- A request that nothing hinders ends as its program does then. -/
theorem Publishing.exists_finished (h : Publishing tmp target program Publishes Post)
    (hNe : target ≠ tmp) {s : SharedFiles Path ι α} (hStart : s.Quiet tmp target) (request : ι) :
    ∃ t trace after, Run (FileStep program target) s
        (.started request :: trace ++
          [.finished request (s.files.shows target) (program request).unhindered after]) t ∧
      t.files.shows target = after ∧ t.Quiet tmp target ∧
        ∀ event ∈ trace, ∃ c, event = .called c none := by
  have hBegin : FileStep program target s (.started request)
      { s with running := some ⟨request, s.files.shows target, program request, none⟩ } :=
    .start s request hStart.idle
  obtain ⟨hIntact, -⟩ := h.run hNe (Run.single hBegin) hStart (fun _ => True)
    (fun _ _ => trivial) fun _ _ _ _ => trivial
  obtain ⟨t, trace, handle, run, hEnd, hCalls⟩ := hIntact.exists_end hNe rfl
  have hLast : FileStep program target t
      (.finished request (s.files.shows target) (program request).unhindered
        (t.files.shows target)) { t with running := none } :=
    .finish t request _ _ _ hEnd
  have hWhole := ((Run.single hBegin).trans run).snoc hLast
  obtain ⟨hFinal, -⟩ := h.run hNe hWhole hStart (fun _ => True) (fun _ _ => trivial)
    fun _ _ _ _ => trivial
  exact ⟨_, trace, _, hWhole, rfl, hFinal.quiet rfl, hCalls⟩

/-- A request that asks for no call ends at once. -/
theorem exists_finished_done {s : SharedFiles Path ι α} (hIdle : s.running = none) {request : ι}
    {result : α} (hDone : program request = .done result) :
    ∃ t : SharedFiles Path ι α, Run (FileStep program target) s
        [.started request, .finished request (s.files.shows target) result (s.files.shows target)] t ∧
      t.files = s.files ∧ t.running = none := by
  have hBegin : FileStep program target s (.started request)
      { s with running := some ⟨request, s.files.shows target, .done result, none⟩ } :=
    hDone ▸ .start s request hIdle
  exact ⟨_, (Run.single hBegin).snoc (.finish _ request _ result none rfl), rfl, rfl⟩

/-- A document that nothing hinders is published and can be read. -/
theorem Publishing.exists_read (h : Publishing tmp target program Publishes Post)
    (hNe : target ≠ tmp) {s : SharedFiles Path ι α} (hStart : s.Quiet tmp target) (request : ι)
    (reader : Nat) {bytes : Bytes}
    (hPost : ∀ before after, Post request before (program request).unhindered after →
      after = some bytes) :
    ∃ t trace, Run (FileStep program target) s trace t ∧
      .read reader target bytes bytes ∈ trace ∧
        ∀ other, .started other ∈ trace → other = request := by
  obtain ⟨middle, calls, after, run, hShows, -, hCalls⟩ := h.exists_finished hNe hStart request
  have hAfter := hPost _ _ (h.finished hNe run hStart
    (List.mem_append_right _ (List.mem_singleton_self _)))
  obtain ⟨t, hRead⟩ := exists_whole_read reader (hShows.trans hAfter)
  refine ⟨t, _, run.trans hRead, List.mem_append_right _ ?_, fun other hOther => ?_⟩
  · exact List.mem_cons_of_mem _ (List.mem_cons_of_mem _ List.mem_cons_self)
  · simp only [List.cons_append, List.mem_cons, List.mem_append, List.not_mem_nil, or_false,
      FileEvent.started.injEq, reduceCtorEq] at hOther
    rcases hOther with hSame | hCall
    · exact hSame
    · obtain ⟨c, hSame⟩ := hCalls _ hCall
      cases hSame

/-- What a run tells of a published file, by the events of the trace. -/
structure Coherent (target : Path) (Publishes : ι → Bytes → Prop)
    (Post : ι → Option Bytes → α → Option Bytes → Prop) (initial : Option Bytes)
    (trace : List (FileEvent Path ι α)) : Prop where
  /-- A reader gets the file as it was when it opened it. -/
  read : ∀ earlier later reader seen got,
    trace = earlier ++ .read reader target seen got :: later →
      got = seen ∧ .opened reader target seen ∈ earlier
  /-- A file that is opened was there at the start, or was published since. -/
  opened : ∀ earlier later reader seen, trace = earlier ++ .opened reader target seen :: later →
    initial = some seen ∨ ∃ request, .started request ∈ earlier ∧ Publishes request seen
  /-- Nothing older than what an earlier program left. -/
  since : ∀ earlier middle later request before result after reader seen,
    trace = earlier ++ .finished request before result after ::
        (middle ++ .opened reader target seen :: later) →
      after = some seen ∨ ∃ request, .started request ∈ middle ∧ Publishes request seen
  /-- A program ends as its request says. -/
  finished : ∀ request before result after, .finished request before result after ∈ trace →
    Post request before result after

/-- Whatever fails, and wherever programs stop, runs of publishing programs are coherent. -/
theorem Publishing.coherent (h : Publishing tmp target program Publishes Post)
    (hNe : target ≠ tmp) {s t : SharedFiles Path ι α} {trace : List (FileEvent Path ι α)}
    (run : Run (FileStep program target) s trace t) (hStart : s.Quiet tmp target)
    (hReaders : ∀ reader, s.readers reader = none) :
    Coherent target Publishes Post (s.files.shows target) trace := by
  refine ⟨?_, ?_, ?_, fun _ _ _ _ hEvent => h.finished hNe run hStart hEvent⟩
  · rintro earlier later reader seen got rfl
    exact ⟨h.read hNe run hStart (List.mem_append_right _ (List.mem_cons_self)),
      opened_of_read run hReaders⟩
  · rintro earlier later reader seen rfl
    exact h.opened hNe run hStart
  · rintro earlier middle later request before result after reader seen rfl
    exact h.opened_since hNe run hStart

end Published

/-- Files without names. -/
def SharedFiles.none {Path : Type u} {ι : Type w} {α : Type v} : SharedFiles Path ι α where
  files := { names := fun _ => Option.none, contents := fun _ => [], fresh := 0 }

theorem SharedFiles.quiet_none {Path : Type u} {ι : Type w} {α : Type v} (tmp target : Path) :
    (none : SharedFiles Path ι α).Quiet tmp target :=
  ⟨nofun, nofun, nofun, rfl⟩

end Foundations
