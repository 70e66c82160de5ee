import DevyFps.Server.InputDelivery

/-! One tick of movement. Each player is stepped once, by the last of its inputs, whatever else
the tick brings. -/

namespace DevyFps.Server

open Foundations FloatFormat Game

variable {F : Type} [SingleFloat F]

/-- The part of a player's state that the kinematics step. -/
def PlayerMotionState.kinematics (state : PlayerMotionState F) : MovementKinematicState F where
  positionX := state.positionX
  positionY := state.positionY
  velocityX := state.velocityX
  velocityY := state.velocityY
  verticalPosition := state.verticalPosition
  verticalVelocity := state.verticalVelocity
  grounded := state.grounded
  moveState := state.moveState

/-- One step of the kinematics with this input, or with the idle intent, leads from one state
of a player to the other. -/
structure SteppedOnce (tuning : MovementTuning F) (dt : F) (input : Option (PlayerInputCommand F))
    (before after : PlayerMotionState F) : Prop where
  playerId : after.playerId = before.playerId
  kinematics : after.kinematics =
    stepMovement before.kinematics (MovementSimulation.intentOf input) dt tuning
  speed : after.speed = horizontalSpeed after.kinematics
  acknowledged : after.lastProcessedInputSeq =
    max before.lastProcessedInputSeq ((input.map PlayerInputCommand.inputSeq).getD 0)

namespace MovementSimulation

/-- The last input of a player in a list. -/
def lastInput (inputs : List (PlayerInputCommand F)) (id : Nat) : Option (PlayerInputCommand F) :=
  (inputs.filter fun input => input.playerId = id).getLast?

/-- The state from which a player is stepped: a player without one gets a new one if it has
sent an input. -/
def stateBefore (s : MovementSimulation F) (inputs : List (PlayerInputCommand F)) (id : Nat) :
    Option (PlayerMotionState F) :=
  if (lastInput inputs id).isSome then some ((s.stateFor id).getD { playerId := id })
  else s.stateFor id

/-- The known players when the loop over them starts. -/
def ensureAll (s : MovementSimulation F) (inputs : List (PlayerInputCommand F)) :
    MovementSimulation F :=
  inputs.foldl (fun t input => t.ensurePlayer input.playerId) s

theorem lastInput_cons (head : PlayerInputCommand F) (rest : List (PlayerInputCommand F))
    (id : Nat) :
    lastInput (head :: rest) id =
      (lastInput rest id).or (if head.playerId = id then some head else none) := by
  unfold lastInput
  by_cases hHead : head.playerId = id
  · rw [List.filter_cons_of_pos (by simpa using hHead), if_pos hHead, List.getLast?_cons]
    cases (rest.filter fun input => input.playerId = id).getLast? <;> rfl
  · rw [List.filter_cons_of_neg (by simpa using hHead), if_neg hHead, Option.or_none]

theorem stateFor_ensurePlayer (s : MovementSimulation F) (playerId id : Nat) :
    (s.ensurePlayer playerId).stateFor id =
      if id = playerId then some ((s.stateFor playerId).getD { playerId := playerId })
      else s.stateFor id :=
  s.find_ensurePlayer playerId id

theorem stateFor_ensureAll_eq (s : MovementSimulation F) (inputs : List (PlayerInputCommand F))
    (id : Nat) : (s.ensureAll inputs).stateFor id = s.stateBefore inputs id := by
  induction inputs generalizing s with
  | nil => rfl
  | cons head rest ih =>
      refine (ih (s.ensurePlayer head.playerId)).trans ?_
      unfold stateBefore
      rw [lastInput_cons, stateFor_ensurePlayer]
      by_cases hHead : id = head.playerId
      · rw [if_pos hHead, if_pos hHead.symm, ← hHead, Option.getD_some]
        cases lastInput rest id with
        | none => rfl
        | some input => rfl
      · rw [if_neg hHead, if_neg (Ne.symm hHead), Option.or_none]

theorem stateFor_applyInputs (s : MovementSimulation F) {tickInterval : Int}
    (hPositive : PositiveInterval F tickInterval) (inputs : List (PlayerInputCommand F))
    (id : Nat) :
    (s.applyInputs tickInterval inputs).stateFor id =
      (s.stateBefore inputs id).map
        (advanceState s.tuning (SingleFloat.narrow (tickSeconds tickInterval))
          (lastInput inputs id)) := by
  rw [← stateFor_ensureAll_eq]
  unfold applyInputs stateFor ensureAll
  rw [if_neg (not_le.mpr hPositive.1)]
  dsimp only
  rw [hPositive.2, if_neg Bool.false_ne_true, UnorderedMap.find_mapValues, find_latest,
    UnorderedMap.find_empty, Option.or_none]
  rfl

theorem steppedOnce_advanceState (tuning : MovementTuning F) (dt : F)
    (input : Option (PlayerInputCommand F)) (state : PlayerMotionState F) :
    SteppedOnce tuning dt input state (advanceState tuning dt input state) where
  playerId := rfl
  kinematics := rfl
  speed := rfl
  acknowledged := lastProcessedInputSeq_advanceState tuning dt input state

/-- The loop over the players takes them in any order. -/
theorem players_any_order (s : MovementSimulation F) {tickInterval : Int}
    (hPositive : PositiveInterval F tickInterval) (inputs : List (PlayerInputCommand F))
    {order : List Nat} (hOnce : order.Nodup)
    (hAll : ∀ id, (s.ensureAll inputs).stateFor id ≠ none → id ∈ order) :
    UnorderedMap.SameContents
      (order.foldl (fun states id => states.modify id
        (advanceState s.tuning (SingleFloat.narrow (tickSeconds tickInterval))
          (lastInput inputs id))) (s.ensureAll inputs).statesByPlayer)
      (s.applyInputs tickInterval inputs).statesByPlayer := by
  refine (UnorderedMap.sameContents_foldl_modify _ _ hOnce hAll).trans fun id => ?_
  rw [UnorderedMap.find_mapValues]
  refine Eq.trans ?_ (s.stateFor_applyInputs hPositive inputs id).symm
  rw [← stateFor_ensureAll_eq]
  rfl

/-- In a tick each player is stepped once with its last input, and neither the inputs nor the
states of others, nor its own earlier inputs, nor the order of the tables matter to it. -/
theorem one_step_per_tick (s : MovementSimulation F) (tickInterval : Int)
    (hPositive : PositiveInterval F tickInterval) (inputs : List (PlayerInputCommand F)) :
    (∀ id, Option.Rel (SteppedOnce s.tuning (SingleFloat.narrow (tickSeconds tickInterval))
        (lastInput inputs id)) (s.stateBefore inputs id)
        ((s.applyInputs tickInterval inputs).stateFor id)) ∧
      (∀ (other : MovementSimulation F) (inputs' : List (PlayerInputCommand F)) (id : Nat),
        other.tuning = s.tuning → other.stateFor id = s.stateFor id →
        lastInput inputs' id = lastInput inputs id →
          (other.applyInputs tickInterval inputs').stateFor id =
            (s.applyInputs tickInterval inputs).stateFor id) ∧
      ∀ order : List Nat, order.Nodup →
        (∀ id, id ∈ order ↔ ∃ state, s.stateBefore inputs id = some state) →
        UnorderedMap.SameContents
          (order.foldl (fun states id => states.modify id
            (advanceState s.tuning (SingleFloat.narrow (tickSeconds tickInterval))
              (lastInput inputs id))) (s.ensureAll inputs).statesByPlayer)
          (s.applyInputs tickInterval inputs).statesByPlayer := by
  refine ⟨fun id => ?_, fun other inputs' id hTuning hState hLast => ?_, ?_⟩
  · rw [s.stateFor_applyInputs hPositive]
    cases s.stateBefore inputs id with
    | none => exact Option.Rel.none
    | some before => exact Option.Rel.some (steppedOnce_advanceState _ _ _ before)
  · rw [s.stateFor_applyInputs hPositive, other.stateFor_applyInputs hPositive]
    unfold stateBefore
    rw [hTuning, hState, hLast]
  · intro order hOnce hAll
    apply s.players_any_order hPositive inputs hOnce
    intro id hKnown
    rw [stateFor_ensureAll_eq] at hKnown
    exact (hAll id).mpr (Option.ne_none_iff_exists'.mp hKnown)

/-- Two inputs of player 3 in one tick of 100 ms, with one of another player between them. -/
def crossedInputs : List (PlayerInputCommand ℚ) :=
  [{ playerId := 3, inputSeq := 11, moveX := 1 }, { playerId := 4, inputSeq := 1, moveX := 1 },
    { playerId := 3, inputSeq := 12, moveY := 1 }]

/-- The last input of player 3 moves it from where a new player starts. -/
theorem one_step_per_tick_crossed :
    Option.Rel
      (SteppedOnce (sanitizeMovementTuning {}) (SingleFloat.narrow (tickSeconds (F := ℚ) 100000000))
        (some { playerId := 3, inputSeq := 12, moveY := 1 }))
      (some { playerId := 3 })
      (((create {}).applyInputs 100000000 crossedInputs).stateFor 3) :=
  (one_step_per_tick (create {}) 100000000 (positiveInterval_of_pos (by decide))
    crossedInputs).1 3

end MovementSimulation

end DevyFps.Server
