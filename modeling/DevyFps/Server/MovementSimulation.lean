import DevyFps.Server.AuthoritativeLoop
import DevyFps.Shared.Game.Movement

/-! The movement state of every connected player, stepped once a tick from the
newest input of each. -/

namespace DevyFps.Server

open Foundations FloatFormat Game

structure PlayerMotionState (F : Type) [SingleFloat F] where
  playerId : Nat := 0
  positionX : F := ofRat 0
  positionY : F := ofRat 0
  velocityX : F := ofRat 0
  velocityY : F := ofRat 0
  speed : F := ofRat 0
  grounded : Bool := true
  moveState : MoveState := .idle
  verticalPosition : F := ofRat 0
  verticalVelocity : F := ofRat 0
  lastProcessedInputSeq : Nat := 0

structure MovementSimulation (F : Type) [SingleFloat F] where
  tuning : MovementTuning F
  statesByPlayer : UnorderedMap Nat (PlayerMotionState F)

namespace MovementSimulation

variable {F : Type} [SingleFloat F]

def create (tuning : MovementTuning F) : MovementSimulation F where
  tuning := sanitizeMovementTuning tuning
  statesByPlayer := ∅

def ensurePlayer (s : MovementSimulation F) (playerId : Nat) : MovementSimulation F :=
  { s with statesByPlayer := s.statesByPlayer.tryEmplace playerId { playerId := playerId } }

def removePlayer (s : MovementSimulation F) (playerId : Nat) : MovementSimulation F :=
  { s with statesByPlayer := s.statesByPlayer.erase playerId }

/-- The intent of the newest input, or the neutral one. -/
def intentOf (input : Option (PlayerInputCommand F)) : MovementInputIntent F :=
  match input with
  | some input =>
      { moveX := input.moveX, moveY := input.moveY, jump := input.jump, sprint := input.sprint,
        crouch := input.crouch }
  | none => {}

/-- The body of the loop over all players in `apply_inputs`. -/
def advanceState (tuning : MovementTuning F) (dt : F) (input : Option (PlayerInputCommand F))
    (state : PlayerMotionState F) : PlayerMotionState F :=
  let stepped := stepMovement
    { positionX := state.positionX, positionY := state.positionY, velocityX := state.velocityX,
      velocityY := state.velocityY, verticalPosition := state.verticalPosition,
      verticalVelocity := state.verticalVelocity, grounded := state.grounded,
      moveState := state.moveState }
    (intentOf input) dt tuning
  { playerId := state.playerId
    positionX := stepped.positionX
    positionY := stepped.positionY
    velocityX := stepped.velocityX
    velocityY := stepped.velocityY
    speed := horizontalSpeed stepped
    grounded := stepped.grounded
    moveState := stepped.moveState
    verticalPosition := stepped.verticalPosition
    verticalVelocity := stepped.verticalVelocity
    lastProcessedInputSeq :=
      match input with
      | some input =>
          if state.lastProcessedInputSeq < input.inputSeq then input.inputSeq
          else state.lastProcessedInputSeq
      | none => state.lastProcessedInputSeq }

/-- The tick interval in seconds, computed in double precision. -/
def tickSeconds (tickInterval : Int) : SingleFloat.Double F :=
  ofInt tickInterval / ofRat 1000000000

def applyInputs (s : MovementSimulation F) (tickInterval : Int)
    (inputs : List (PlayerInputCommand F)) : MovementSimulation F :=
  if tickInterval ≤ 0 then s
  else
    let dt : F := SingleFloat.narrow (tickSeconds tickInterval)
    if le dt (ofRat 0) then s
    else
      let latestInputByPlayer : UnorderedMap Nat (PlayerInputCommand F) :=
        inputs.foldl (fun latest input => latest.set input.playerId input) ∅
      let ensured := inputs.foldl (fun t input => t.ensurePlayer input.playerId) s
      { ensured with
        statesByPlayer := ensured.statesByPlayer.mapValues fun playerId state =>
          advanceState s.tuning dt (latestInputByPlayer.find playerId) state }

def stateFor (s : MovementSimulation F) (playerId : Nat) : Option (PlayerMotionState F) :=
  s.statesByPlayer.find playerId

/-- `snapshot`: the states ordered by player id. -/
def snapshot (s : MovementSimulation F) : List (PlayerMotionState F) :=
  sortBy (fun lhs rhs => decide (lhs.playerId < rhs.playerId)) s.statesByPlayer.values

/-- Every state is stored under the id it carries. -/
def KeyedById (s : MovementSimulation F) : Prop :=
  ∀ playerId state, s.statesByPlayer.find playerId = some state → state.playerId = playerId

theorem find_ensurePlayer (s : MovementSimulation F) (playerId id : Nat) :
    (s.ensurePlayer playerId).statesByPlayer.find id =
      if id = playerId then some ((s.statesByPlayer.find playerId).getD { playerId := playerId })
      else s.statesByPlayer.find id :=
  UnorderedMap.find_tryEmplace _ _ _ _

theorem find_removePlayer (s : MovementSimulation F) (playerId id : Nat) :
    (s.removePlayer playerId).statesByPlayer.find id =
      if id = playerId then none else s.statesByPlayer.find id :=
  UnorderedMap.find_erase _ _ _

theorem find_ensureAll (s : MovementSimulation F) (inputs : List (PlayerInputCommand F)) {id : Nat}
    (h : (inputs.foldl (fun t input => t.ensurePlayer input.playerId) s).statesByPlayer.find id ≠
      none) :
    s.statesByPlayer.find id ≠ none ∨ ∃ input ∈ inputs, input.playerId = id := by
  induction inputs generalizing s with
  | nil => exact Or.inl h
  | cons head rest ih =>
      cases ih (s.ensurePlayer head.playerId) h with
      | inl hFound =>
          rw [find_ensurePlayer] at hFound
          split at hFound
          · exact Or.inr ⟨head, List.mem_cons_self, by symm; assumption⟩
          · exact Or.inl hFound
      | inr hLater =>
          obtain ⟨input, hMem, hId⟩ := hLater
          exact Or.inr ⟨input, List.mem_cons_of_mem _ hMem, hId⟩

/-- A tick creates states only for the senders of its inputs. -/
theorem find_applyInputs {s : MovementSimulation F} {tickInterval : Int}
    {inputs : List (PlayerInputCommand F)} {id : Nat}
    (h : (s.applyInputs tickInterval inputs).statesByPlayer.find id ≠ none) :
    s.statesByPlayer.find id ≠ none ∨ ∃ input ∈ inputs, input.playerId = id := by
  unfold applyInputs at h
  split at h
  · exact Or.inl h
  · simp only at h
    split at h
    · exact Or.inl h
    · refine find_ensureAll s inputs ?_
      intro hNone
      apply h
      rw [UnorderedMap.find_mapValues, hNone]
      rfl

theorem KeyedById.ensurePlayer {s : MovementSimulation F} (h : s.KeyedById) (playerId : Nat) :
    (s.ensurePlayer playerId).KeyedById := by
  intro id state hFind
  rw [find_ensurePlayer] at hFind
  split at hFind
  · rename_i hId
    injection hFind with hState
    cases hOld : s.statesByPlayer.find playerId with
    | some old =>
        rw [← hState, hOld, Option.getD_some, hId]
        exact h playerId old hOld
    | none => rw [← hState, hOld, Option.getD_none, hId]
  · exact h id state hFind

theorem KeyedById.removePlayer {s : MovementSimulation F} (h : s.KeyedById) (playerId : Nat) :
    (s.removePlayer playerId).KeyedById := by
  intro id state hFind
  rw [find_removePlayer] at hFind
  split at hFind
  · cases hFind
  · exact h id state hFind

theorem KeyedById.applyInputs {s : MovementSimulation F} (h : s.KeyedById) (tickInterval : Int)
    (inputs : List (PlayerInputCommand F)) : (s.applyInputs tickInterval inputs).KeyedById := by
  have hEnsured : ∀ t : MovementSimulation F, t.KeyedById →
      (inputs.foldl (fun t input => t.ensurePlayer input.playerId) t).KeyedById := by
    induction inputs with
    | nil => exact fun _ ht => ht
    | cons head rest ih => exact fun t ht => ih _ (ht.ensurePlayer head.playerId)
  unfold MovementSimulation.applyInputs
  split
  · exact h
  · simp only
    split
    · exact h
    · intro id state hFind
      rw [UnorderedMap.find_mapValues] at hFind
      obtain ⟨old, hOld, rfl⟩ := Option.map_eq_some_iff.mp hFind
      exact hEnsured s h id old hOld

/-- The snapshot lists exactly the stored states. -/
theorem mem_snapshot {s : MovementSimulation F} {state : PlayerMotionState F} :
    state ∈ s.snapshot ↔ ∃ playerId, s.statesByPlayer.find playerId = some state := by
  rw [snapshot, mem_sortBy, UnorderedMap.mem_values_iff]

end MovementSimulation

end DevyFps.Server
