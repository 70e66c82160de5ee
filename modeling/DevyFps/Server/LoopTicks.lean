import DevyFps.Server.MainLoopDeeds
import DevyFps.Server.MatchHistory

/-! A tick of the loop as the match sees it, and what the other steps leave of its phase. -/

namespace DevyFps.Server.MainLoop

open Foundations MatchLifecycleSimulation

variable {F : Type} [SingleFloat F] {s t : MainLoop F}

/-- What the match is given in a tick. -/
def matchCall (s : MainLoop F) (frame : TickFrame F) : TickCall where
  tick := frame.tick
  tickInterval := s.tickInterval
  activePlayerIds := s.sessionManager.activeSessions.map SessionView.playerId
  combatStates := (s.foughtIn frame).2.snapshot
  deathEvents := (s.foughtIn frame).1.deathEvents
  inventorySummaries := (s.lootedIn frame).2.inventorySnapshot

theorem summaries_matchCall (s : MainLoop F) (frame : TickFrame F) :
    (s.matchCall frame).inventorySummaries = (s.lootedIn frame).2.inventorySnapshot := by
  unfold matchCall
  dsimp only

theorem deathEvents_matchCall (s : MainLoop F) (frame : TickFrame F) :
    (s.matchCall frame).deathEvents = (s.foughtIn frame).1.deathEvents := by
  unfold matchCall
  dsimp only

/-- The part of the match in a tick is its call. -/
theorem playedIn_eq (s : MainLoop F) (frame : TickFrame F) :
    s.playedIn frame = s.matchLifecycleSimulation.tickWith (s.matchCall frame) := by
  unfold playedIn tickWith matchCall
  dsimp only

theorem combat_runFrame (s : MainLoop F) (frame : TickFrame F) :
    (s.runFrame frame).1.combat = (s.foughtIn frame).1 := by
  unfold runFrame
  dsimp only

theorem inventory_runFrame (s : MainLoop F) (frame : TickFrame F) :
    (s.runFrame frame).1.inventory = (s.lootedIn frame).1 := by
  unfold runFrame
  dsimp only

theorem lifecycle_runFrame (s : MainLoop F) (frame : TickFrame F) :
    (s.runFrame frame).1.lifecycle = (s.playedIn frame).1 := by
  unfold runFrame
  dsimp only

/-- A tick reports the frame that it has run. -/
theorem frame_runFrame (s : MainLoop F) (frame : TickFrame F) :
    (s.runFrame frame).1.frame = frame := by
  unfold runFrame
  dsimp only

/-- A tick runs the first frame that is due. -/
theorem ticked_of_step {record : ServerTick F} (hStep : LoopStep s (.ticked record) t) :
    ∃ frame rest, s.tickFrames = frame :: rest ∧ record = (s.runFrame frame).1 ∧
      s.Ticked frame t := by
  cases hStep with
  | tick frame rest hFrames =>
      exact ⟨frame, rest, hFrames, rfl, s.ticked_runFrame frame rest⟩

/-- The next tick that is due, known by a test of what it does. -/
theorem exists_tickNext {p : ServerTick F → Bool}
    (h : (s.tickFrames.head?.any fun frame => p (s.runFrame frame).1) = true) :
    ∃ record, LoopStep s (.ticked record) s.tickNext ∧ p record = true := by
  obtain ⟨frame, hFrame, hTest⟩ := (Option.any_eq_true _ _).mp h
  obtain ⟨rest, hFrames⟩ := List.head?_eq_some_iff.mp hFrame
  refine ⟨(s.runFrame frame).1, ?_, hTest⟩
  unfold tickNext
  rw [hFrames]
  exact .tick s frame rest hFrames

end DevyFps.Server.MainLoop
