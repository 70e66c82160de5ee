import DevyFps.Client.PredictionReconciler
import DevyFps.Server.InputDelivery

/-! The client's guess against the server's movement, for any step of the kinematics. Both fold
the inputs of the player in the same way, so an answer of the server changes nothing that the
client predicted, until the numbers of the inputs wrap around. -/

namespace DevyFps

open Foundations FloatFormat Game

variable {F : Type} [SingleFloat F]

namespace Server.MovementSimulation

/-- `advanceState` for any step of the kinematics. -/
def advanceStateBy (step : StepMovement F) (tuning : MovementTuning F) (dt : F)
    (input : Option (PlayerInputCommand F)) (state : PlayerMotionState F) : PlayerMotionState F :=
  let stepped := step
    { positionX := state.positionX, positionY := state.positionY, velocityX := state.velocityX,
      velocityY := state.velocityY, verticalPosition := state.verticalPosition,
      verticalVelocity := state.verticalVelocity, grounded := state.grounded,
      moveState := state.moveState }
    (intentOf input) dt tuning
  { playerId := state.playerId
    positionX := stepped.positionX
    positionY := stepped.positionY
    velocityX := stepped.velocityX
    velocityY := stepped.velocityY
    speed := horizontalSpeed stepped
    grounded := stepped.grounded
    moveState := stepped.moveState
    verticalPosition := stepped.verticalPosition
    verticalVelocity := stepped.verticalVelocity
    lastProcessedInputSeq :=
      match input with
      | some input =>
          if state.lastProcessedInputSeq < input.inputSeq then input.inputSeq
          else state.lastProcessedInputSeq
      | none => state.lastProcessedInputSeq }

/-- `applyInputs` for any step of the kinematics. -/
def applyInputsBy (step : StepMovement F) (s : MovementSimulation F) (tickInterval : Int)
    (inputs : List (PlayerInputCommand F)) : MovementSimulation F :=
  if tickInterval ≤ 0 then s
  else
    let dt : F := SingleFloat.narrow (tickSeconds tickInterval)
    if le dt (ofRat 0) then s
    else
      let latestInputByPlayer : UnorderedMap Nat (PlayerInputCommand F) :=
        inputs.foldl (fun latest input => latest.set input.playerId input) ∅
      let ensured := inputs.foldl (fun t input => t.ensurePlayer input.playerId) s
      { ensured with
        statesByPlayer := ensured.statesByPlayer.mapValues fun playerId state =>
          advanceStateBy step s.tuning dt (latestInputByPlayer.find playerId) state }

/-- The loop of the server is the general one at the step function of the code. -/
theorem applyInputs_eq_applyInputsBy (s : MovementSimulation F) (tickInterval : Int)
    (inputs : List (PlayerInputCommand F)) :
    s.applyInputs tickInterval inputs = s.applyInputsBy stepMovement tickInterval inputs := rfl

/-- Making players known does not move those that are. -/
theorem stateFor_ensureAll {s : MovementSimulation F} {id : Nat} {state : PlayerMotionState F}
    (hKnown : s.stateFor id = some state) (inputs : List (PlayerInputCommand F)) :
    (inputs.foldl (fun t input => t.ensurePlayer input.playerId) s).stateFor id = some state := by
  induction inputs generalizing s with
  | nil => exact hKnown
  | cons head rest ih =>
      refine ih ?_
      unfold stateFor at hKnown ⊢
      rw [find_ensurePlayer]
      by_cases hHead : id = head.playerId
      · rw [if_pos hHead, ← hHead, hKnown, Option.getD_some]
      · rw [if_neg hHead, hKnown]

theorem tuning_ensureAll (s : MovementSimulation F) (inputs : List (PlayerInputCommand F)) :
    (inputs.foldl (fun t input => t.ensurePlayer input.playerId) s).tuning = s.tuning := by
  induction inputs generalizing s with
  | nil => rfl
  | cons head rest ih => exact ih (s.ensurePlayer head.playerId)

/-- Inputs do not change the tuning. -/
theorem tuning_applyInputsBy (step : StepMovement F) (s : MovementSimulation F)
    (tickInterval : Int) (inputs : List (PlayerInputCommand F)) :
    (s.applyInputsBy step tickInterval inputs).tuning = s.tuning := by
  unfold applyInputsBy
  dsimp only
  split_ifs
  · rfl
  · rfl
  · exact s.tuning_ensureAll inputs

/-- A tick with one input of a known player advances that player by it. -/
theorem stateFor_applyInputsBy (step : StepMovement F) {s : MovementSimulation F}
    {tickInterval : Int} (hPositive : PositiveInterval F tickInterval) {id : Nat}
    {state : PlayerMotionState F} (hKnown : s.stateFor id = some state)
    {inputs : List (PlayerInputCommand F)} {input : PlayerInputCommand F}
    (hOne : inputs.filter (fun input => input.playerId = id) = [input]) :
    (s.applyInputsBy step tickInterval inputs).stateFor id =
      some (advanceStateBy step s.tuning (SingleFloat.narrow (tickSeconds tickInterval))
        (some input) state) := by
  have hEnsured := stateFor_ensureAll hKnown inputs
  unfold applyInputsBy
  rw [if_neg (not_le.mpr hPositive.1)]
  dsimp only
  rw [hPositive.2, if_neg Bool.false_ne_true]
  unfold stateFor at hEnsured ⊢
  rw [UnorderedMap.find_mapValues, find_latest, hEnsured, hOne]
  rfl

end Server.MovementSimulation

namespace Replication

open Client Client.PredictionReconciler Server Server.MovementSimulation

/-- A state of the server as the client predicts it. -/
def predicted (state : PlayerMotionState F) : PredictedMotionState F where
  positionX := state.positionX
  positionY := state.positionY
  velocityX := state.velocityX
  velocityY := state.velocityY
  speed := state.speed
  grounded := state.grounded
  moveState := state.moveState
  verticalPosition := state.verticalPosition
  verticalVelocity := state.verticalVelocity
  lastInputSeq := state.lastProcessedInputSeq

/-- An input that lasts a tick, as the client queued it. -/
def pendingOf (tickInterval : Int) (input : PlayerInputCommand F) : PendingInput F where
  inputSeq := input.inputSeq
  moveX := input.moveX
  moveY := input.moveY
  jump := input.jump
  fire := input.fire
  sprint := input.sprint
  crouch := input.crouch
  dt := tickInterval

/-- The inputs of a player, frame by frame. -/
def inputsOf (playerId : Nat) (frames : List (List (PlayerInputCommand F))) :
    List (PlayerInputCommand F) :=
  frames.flatMap fun frame => frame.filter fun input => input.playerId = playerId

/-- One step of the server is one input of the client, on what the client predicts. -/
theorem predicted_advanceStateBy (step : StepMovement F) (tuning : MovementTuning F)
    (tickInterval : Int) (input : PlayerInputCommand F) (state : PlayerMotionState F) :
    predicted (advanceStateBy step tuning (SingleFloat.narrow (tickSeconds tickInterval))
      (some input) state) =
        applyInput step tuning (predicted state) (pendingOf tickInterval input) := by
  have hSeq : (if state.lastProcessedInputSeq < input.inputSeq then input.inputSeq
      else state.lastProcessedInputSeq) = max state.lastProcessedInputSeq input.inputSeq := by
    split
    · rename_i hLess
      exact (max_eq_right hLess.le).symm
    · rename_i hNot
      exact (max_eq_left (not_lt.mp hNot)).symm
  unfold predicted advanceStateBy applyInput
  dsimp only
  rw [hSeq]
  rfl

/-- The ticks with one input of a player each are the client's fold over these inputs. -/
theorem predicted_frames (step : StepMovement F) {tickInterval : Int}
    (hPositive : PositiveInterval F tickInterval) {playerId : Nat}
    {frames : List (List (PlayerInputCommand F))}
    (hOne : ∀ frame ∈ frames, ∃ input,
      frame.filter (fun input => input.playerId = playerId) = [input])
    {server : MovementSimulation F} {state : PlayerMotionState F}
    (hKnown : server.stateFor playerId = some state) :
    ((frames.foldl (fun t frame => t.applyInputsBy step tickInterval frame) server).stateFor
        playerId).map predicted =
      some (((inputsOf playerId frames).map (pendingOf tickInterval)).foldl
        (applyInput step server.tuning) (predicted state)) := by
  induction frames generalizing server state with
  | nil => exact congrArg (Option.map predicted) hKnown
  | cons frame rest ih =>
      obtain ⟨input, hInput⟩ := hOne frame List.mem_cons_self
      have hNext := stateFor_applyInputsBy step hPositive hKnown hInput
      have hRest := ih (fun later hLater => hOne later (List.mem_cons_of_mem _ hLater)) hNext
      rw [tuning_applyInputsBy, predicted_advanceStateBy] at hRest
      have hInputs : inputsOf playerId (frame :: rest) = input :: inputsOf playerId rest := by
        unfold inputsOf
        rw [List.flatMap_cons, hInput]
        rfl
      rw [List.foldl_cons, hRest, hInputs]
      rfl

/-- What a client predicts after inputs, and the server knows once it processed them. -/
def authorityAfter (step : StepMovement F) (tuning : MovementTuning F)
    (inputs : List (PendingInput F)) : PredictedMotionState F :=
  inputs.foldl (applyInput step tuning) {}

/-- A client, the inputs that it has queued since the reset, and how many of them are
acknowledged. -/
structure Prediction (F : Type) [SingleFloat F] where
  client : PredictionReconciler F
  sent : List (PendingInput F) := []
  acked : Nat := 0

inductive PredictionEvent (F : Type) [SingleFloat F] where
  | queued (inputSeq : Nat)
  | reconciled (result : ReconciliationResult F)

namespace Prediction

def start (client : PredictionReconciler F) : Prediction F where
  client := client.reset

def queued (step : StepMovement F) (s : Prediction F) (input : PendingInput F) : Prediction F where
  client := (s.client.queueLocalInput step input).2
  sent := s.sent ++ [{ input with inputSeq := (s.client.queueLocalInput step input).1 }]
  acked := s.acked

def reconciled (step : StepMovement F) (s : Prediction F) (acked : Nat)
    (authoritative : SnapshotMotionState F) : Prediction F where
  client := (s.client.reconcile step authoritative).2
  sent := s.sent
  acked := acked

/-- What the server has once it processed the first inputs. -/
def authority (step : StepMovement F) (s : Prediction F) (acked : Nat) : PredictedMotionState F :=
  authorityAfter step s.client.config.movementTuning (s.sent.take acked)

/-- What happens to the client: it queues inputs as long as the queue has room for the
unacknowledged ones, and takes over what the server has after the first inputs. -/
inductive PredictionStep (step : StepMovement F) :
    Prediction F → PredictionEvent F → Prediction F → Prop where
  | queue (s : Prediction F) (input : PendingInput F)
      (hRoom : s.sent.length + 1 - s.acked ≤ s.client.config.maxPendingInputs) :
      PredictionStep step s (.queued (s.client.queueLocalInput step input).1)
        (s.queued step input)
  | reconcile (s : Prediction F) (acked : Nat) (authoritative : SnapshotMotionState F)
      (hForward : s.acked ≤ acked) (hSent : acked ≤ s.sent.length)
      (hAuthority : rolledBack authoritative = s.authority step acked) :
      PredictionStep step s (.reconciled (s.client.reconcile step authoritative).1)
        (s.reconciled step acked authoritative)

/-- A reconciliation that finds the prediction right. -/
structure Settles (s : Prediction F) (result : ReconciliationResult F) (t : Prediction F) :
    Prop where
  state : t.client.state = s.client.state
  pending : t.client.pendingInputs = t.sent.drop t.acked
  replayed : result.replayedInputs = t.sent.length - t.acked

/-- The inputs carry the numbers from one on. -/
def Numbered (sent : List (PendingInput F)) : Prop :=
  ∀ i input, sent[i]? = some input → input.inputSeq = i + 1

/-- The client holds what it sent and nothing else. -/
structure InStep (step : StepMovement F) (s : Prediction F) : Prop where
  numbered : Numbered s.sent
  next : s.client.nextInputSeq = (s.sent.length + 1) % 2 ^ 32
  ackedSent : s.acked ≤ s.sent.length
  pending : s.client.pendingInputs = s.sent.drop s.acked
  state : s.client.state = authorityAfter step s.client.config.movementTuning s.sent

/-- The next input has the next number. -/
theorem Numbered.snoc {sent : List (PendingInput F)} (h : Numbered sent) {input : PendingInput F}
    (hSeq : input.inputSeq = sent.length + 1) : Numbered (sent ++ [input]) := by
  intro i found hFound
  rcases lt_trichotomy i sent.length with hBefore | rfl | hAfter
  · rw [List.getElem?_append_left hBefore] at hFound
    exact h i found hFound
  · rw [List.getElem?_append_right le_rfl, Nat.sub_self] at hFound
    cases hFound
    exact hSeq
  · rw [List.getElem?_eq_none (by simp; omega)] at hFound
    cases hFound

/-- The inputs after the acknowledged ones have larger numbers, one by one. -/
theorem Numbered.mem_take_drop {sent : List (PendingInput F)} (h : Numbered sent) {acked n : Nat}
    {input : PendingInput F} (hMem : input ∈ (sent.drop acked).take n) :
    input.inputSeq ≤ acked + n := by
  obtain ⟨i, hFound⟩ := List.mem_iff_getElem?.mp hMem
  by_cases hBound : i < n
  · rw [List.getElem?_take_of_lt hBound, List.getElem?_drop] at hFound
    have hSeq := h _ _ hFound
    omega
  · rw [List.getElem?_take_eq_none (not_lt.mp hBound)] at hFound
    cases hFound

/-- Dropping the inputs up to a number drops as many of them. -/
theorem Numbered.dropWhile_drop {sent : List (PendingInput F)} (h : Numbered sent)
    {acked later : Nat} (hForward : acked ≤ later) :
    (sent.drop acked).dropWhile (fun input => decide (input.inputSeq ≤ later)) =
      sent.drop later := by
  have hSplit : sent.drop acked = (sent.drop acked).take (later - acked) ++ sent.drop later := by
    have hRest : sent.drop later = (sent.drop acked).drop (later - acked) := by
      rw [List.drop_drop, Nat.add_sub_cancel' hForward]
    rw [hRest, List.take_append_drop]
  rw [hSplit, List.dropWhile_append_of_pos]
  · cases hRest : sent.drop later with
    | nil => rfl
    | cons head rest =>
        have hHead : sent[later]? = some head := by
          rw [← Nat.add_zero later, ← List.getElem?_drop, hRest]
          rfl
        have hSeq := h later head hHead
        rw [List.dropWhile_cons_of_neg (by simp; omega)]
  · intro input hMem
    have hSeq := h.mem_take_drop hMem
    simp only [decide_eq_true_eq]
    omega

/-- After so many inputs the server has acknowledged so many. -/
theorem lastInputSeq_authorityAfter (step : StepMovement F) (tuning : MovementTuning F)
    {sent : List (PendingInput F)} (h : Numbered sent) {n : Nat} (hSent : n ≤ sent.length) :
    (authorityAfter step tuning (sent.take n)).lastInputSeq = n := by
  induction n with
  | zero => rfl
  | succ n ih =>
      have hFound : sent[n]? = some sent[n] := List.getElem?_eq_getElem hSent
      have hSeq := h n _ hFound
      have hLast : (authorityAfter step tuning (sent.take (n + 1))).lastInputSeq =
          max (authorityAfter step tuning (sent.take n)).lastInputSeq sent[n].inputSeq := by
        unfold authorityAfter
        rw [List.take_succ_eq_append_getElem hSent, List.foldl_append]
        rfl
      rw [hLast, ih (Nat.le_of_lt hSent), hSeq]
      omega

/-- Inputs in two parts are applied one part after the other. -/
theorem authorityAfter_append (step : StepMovement F) (tuning : MovementTuning F)
    (first second : List (PendingInput F)) :
    second.foldl (applyInput step tuning) (authorityAfter step tuning first) =
      authorityAfter step tuning (first ++ second) :=
  List.foldl_append.symm

/-- At the start client and server are in step. -/
theorem inStep_start (step : StepMovement F) (client : PredictionReconciler F) :
    InStep step (start client) where
  numbered i input hFound := by cases hFound
  next := rfl
  ackedSent := le_rfl
  pending := rfl
  state := rfl

/-- An answer of the server, taken over while the numbers are those of the inputs. -/
theorem InStep.reconcile {step : StepMovement F} {s : Prediction F} (h : InStep step s)
    {acked : Nat} {authoritative : SnapshotMotionState F} (hForward : s.acked ≤ acked)
    (hSent : acked ≤ s.sent.length)
    (hAuthority : rolledBack authoritative = s.authority step acked) :
    (s.client.reconcile step authoritative).2.pendingInputs = s.sent.drop acked ∧
      (s.client.reconcile step authoritative).2.state = s.client.state ∧
      (s.client.reconcile step authoritative).1.replayedInputs = s.sent.length - acked := by
  have hSeq : authoritative.lastProcessedInputSeq = acked := by
    have hLast := congrArg PredictedMotionState.lastInputSeq hAuthority
    unfold authority at hLast
    rw [lastInputSeq_authorityAfter step _ h.numbered hSent] at hLast
    exact hLast
  have hPending : (s.client.pendingInputs.dropWhile fun input =>
      decide (input.inputSeq ≤ authoritative.lastProcessedInputSeq)) = s.sent.drop acked := by
    rw [h.pending, hSeq, h.numbered.dropWhile_drop hForward]
  refine ⟨hPending, ?_, ?_⟩
  · calc (s.client.reconcile step authoritative).2.state
        = (s.client.pendingInputs.dropWhile fun input =>
            decide (input.inputSeq ≤ authoritative.lastProcessedInputSeq)).foldl
              (applyInput step s.client.config.movementTuning) (rolledBack authoritative) := rfl
      _ = authorityAfter step s.client.config.movementTuning
            (s.sent.take acked ++ s.sent.drop acked) := by
          rw [hPending, hAuthority]
          exact authorityAfter_append step _ _ _
      _ = s.client.state := by rw [List.take_append_drop, h.state]
  · calc (s.client.reconcile step authoritative).1.replayedInputs
        = (s.client.pendingInputs.dropWhile fun input =>
            decide (input.inputSeq ≤ authoritative.lastProcessedInputSeq)).length := rfl
      _ = s.sent.length - acked := by rw [hPending, List.length_drop]

theorem sent_queued (step : StepMovement F) (s : Prediction F) (input : PendingInput F) :
    (s.queued step input).sent.length = s.sent.length + 1 :=
  List.length_append

/-- A queued input is predicted on top of those that wait. -/
theorem InStep.queue {step : StepMovement F} {s : Prediction F} (h : InStep step s)
    (input : PendingInput F)
    (hRoom : s.sent.length + 1 - s.acked ≤ s.client.config.maxPendingInputs)
    (hBound : s.sent.length + 1 < 2 ^ 32) : InStep step (s.queued step input) := by
  have hAcked := h.ackedSent
  have hSeq : s.client.nextInputSeq = s.sent.length + 1 := by
    rw [h.next, Nat.mod_eq_of_lt hBound]
  have hKept : ¬ s.client.config.maxPendingInputs ≤ s.client.pendingInputs.length := by
    rw [h.pending, List.length_drop]
    omega
  constructor
  · exact h.numbered.snoc hSeq
  · change (s.client.nextInputSeq + 1) % 2 ^ 32 = _
    rw [hSeq, sent_queued]
  · rw [sent_queued]
    exact Nat.le_succ_of_le hAcked
  · change (if _ then _ else s.client.pendingInputs) ++ [_] = _
    rw [if_neg hKept, h.pending]
    exact (List.drop_append_of_le_length hAcked).symm
  · change applyInput step _ s.client.state _ = _
    rw [h.state]
    exact authorityAfter_append step _ s.sent [_]

/-- No step takes back what was sent. -/
theorem sent_step {step : StepMovement F} {s t : Prediction F} {event : PredictionEvent F}
    (h : PredictionStep step s event t) : s.sent.length ≤ t.sent.length := by
  cases h with
  | queue input hRoom =>
      rw [sent_queued]
      exact Nat.le_succ _
  | reconcile acked authoritative hForward hSent hAuthority => exact le_rfl

/-- Every step keeps the client in step with the server, one case for each. -/
theorem InStep.step {step : StepMovement F} {s t : Prediction F} {event : PredictionEvent F}
    (h : InStep step s) (hStep : PredictionStep step s event t)
    (hBound : t.sent.length < 2 ^ 32) : InStep step t := by
  cases hStep with
  | queue input hRoom =>
      rw [sent_queued] at hBound
      exact h.queue input hRoom hBound
  | reconcile acked authoritative hForward hSent hAuthority =>
      obtain ⟨hPending, hState, -⟩ := h.reconcile hForward hSent hAuthority
      exact
        { numbered := h.numbered
          next := h.next
          ackedSent := hSent
          pending := hPending
          state := hState.trans h.state }

/-- As long as no number has been used twice, the client holds exactly what it sent. -/
theorem inStep_run {step : StepMovement F} {client : PredictionReconciler F}
    {trace : List (PredictionEvent F)} {s : Prediction F}
    (run : Run (PredictionStep step) (start client) trace s) (hBound : s.sent.length < 2 ^ 32) :
    InStep step s := by
  refine Run.invariant (I := fun t => t.sent.length < 2 ^ 32 → InStep step t) ?_ run
    (fun _ => inStep_start step client) hBound
  intro s event t hBefore hStep hAfter
  exact (hBefore (lt_of_le_of_lt (sent_step hStep) hAfter)).step hStep hAfter

/-- A snapshot leaves the client with the state of the server and the inputs that it has not seen.
-/
theorem settles_of_reconciled {step : StepMovement F} {s t : Prediction F}
    (h : InStep step s) {result : ReconciliationResult F}
    (hStep : PredictionStep step s (.reconciled result) t) : Settles s result t := by
  generalize hEvent : PredictionEvent.reconciled result = event at hStep
  cases hStep with
  | queue input hRoom => cases hEvent
  | reconcile acked authoritative hForward hSent hAuthority =>
      cases hEvent
      obtain ⟨hPending, hState, hReplayed⟩ := h.reconcile hForward hSent hAuthority
      exact ⟨hState, hPending, hReplayed⟩

end Prediction

open Prediction

/-- The server's ticks are the client's fold over the same inputs, and every answer of the
server finds the prediction right while fewer than `2 ^ 32` inputs were queued. -/
theorem prediction_equals_authority (step : StepMovement F) (client : PredictionReconciler F) :
    (∀ (server : MovementSimulation F) (tickInterval : Int) (playerId : Nat)
        (frames : List (List (PlayerInputCommand F))),
      server.tuning = client.config.movementTuning → PositiveInterval F tickInterval →
      server.stateFor playerId = some { playerId := playerId } →
      (∀ frame ∈ frames, ∃ input,
        frame.filter (fun input => input.playerId = playerId) = [input]) →
      ((frames.foldl (fun t frame => t.applyInputsBy step tickInterval frame) server).stateFor
          playerId).map predicted =
        some (((inputsOf playerId frames).map (pendingOf tickInterval)).foldl
          (applyInput step client.config.movementTuning) client.reset.state)) ∧
    ∀ (trace : List (PredictionEvent F)) (s t : Prediction F) (result : ReconciliationResult F),
      Run (PredictionStep step) (start client) trace s →
      PredictionStep step s (.reconciled result) t → t.sent.length < 2 ^ 32 →
        Settles s result t := by
  constructor
  · intro server tickInterval playerId frames hTuning hPositive hFresh hOne
    rw [← hTuning]
    exact predicted_frames step hPositive hOne hFresh
  · intro trace s t result run hStep hBound
    have hBefore := lt_of_le_of_lt (sent_step hStep) hBound
    exact settles_of_reconciled (inStep_run run hBefore) hStep

/-- The answer of a server that has a state. -/
def answerOf (state : PredictedMotionState F) : SnapshotMotionState F where
  positionX := state.positionX
  positionY := state.positionY
  velocityX := state.velocityX
  velocityY := state.velocityY
  speed := state.speed
  grounded := state.grounded
  moveState := state.moveState
  verticalPosition := state.verticalPosition
  verticalVelocity := state.verticalVelocity
  lastProcessedInputSeq := state.lastInputSeq

def firstInput : PlayerInputCommand ℚ := { playerId := 1, inputSeq := 1, moveX := 1 }

def secondInput : PlayerInputCommand ℚ := { playerId := 1, inputSeq := 2, moveY := 1 }

/-- A client that has queued one input of a second. -/
def oneSent : Prediction ℚ :=
  (start (PredictionReconciler.create {})).queued stepMovement (pendingOf 1000000000 firstInput)

/-- It has queued another one. -/
def twoSent : Prediction ℚ := oneSent.queued stepMovement (pendingOf 1000000000 secondInput)

/-- The server processes both inputs as the client predicted, and its answer to the first one
leaves the second to be replayed. -/
theorem prediction_equals_authority_twoSent :
    (((((MovementSimulation.create {}).ensurePlayer 1).applyInputs 1000000000
        [firstInput]).applyInputs 1000000000 [secondInput]).stateFor 1).map predicted =
      some twoSent.client.state ∧
    (twoSent.client.reconcile stepMovement (answerOf oneSent.client.state)).2.state =
      twoSent.client.state ∧
    (twoSent.client.reconcile stepMovement
      (answerOf oneSent.client.state)).1.replayedInputs = 1 := by
  obtain ⟨hTicks, hAnswers⟩ := prediction_equals_authority stepMovement
    (PredictionReconciler.create {} : PredictionReconciler ℚ)
  have hRun : Run (PredictionStep stepMovement) (start (PredictionReconciler.create {})) _ twoSent :=
    (Run.single (PredictionStep.queue _ (pendingOf 1000000000 firstInput) (by decide))).snoc
      (PredictionStep.queue _ (pendingOf 1000000000 secondInput) (by decide))
  have hAnswer : PredictionStep stepMovement twoSent _ _ :=
    PredictionStep.reconcile twoSent 1 (answerOf oneSent.client.state) (by decide) (by decide) rfl
  have hSettles := hAnswers _ _ _ _ hRun hAnswer (by decide)
  refine ⟨?_, hSettles.state, hSettles.replayed⟩
  rw [applyInputs_eq_applyInputsBy, applyInputs_eq_applyInputsBy]
  refine hTicks ((MovementSimulation.create {}).ensurePlayer 1) 1000000000 1
    [[firstInput], [secondInput]] rfl ⟨by decide, by decide +kernel⟩ rfl fun frame hFrame => ?_
  rcases List.mem_cons.mp hFrame with rfl | hSecond
  · exact ⟨firstInput, rfl⟩
  · exact ⟨secondInput, by rw [List.mem_singleton.mp hSecond]; rfl⟩

namespace Prediction

/-- The client can queue any number of inputs, each acknowledged before the next one. -/
theorem exists_run_acked (step : StepMovement F) {client : PredictionReconciler F}
    (hRoom : 0 < client.config.maxPendingInputs) (n : Nat) :
    ∃ trace s, Run (PredictionStep step) (start client) trace s ∧ s.sent.length = n ∧
      s.acked = n ∧ s.client.config = client.config := by
  induction n with
  | zero => exact ⟨[], start client, Run.nil _, rfl, rfl, rfl⟩
  | succ n ih =>
      obtain ⟨trace, s, run, hSent, hAcked, hConfig⟩ := ih
      have hQueue : PredictionStep step s _ (s.queued step {}) :=
        PredictionStep.queue s {} (by rw [hConfig]; omega)
      have hLength := s.sent_queued step {}
      have hAnswer : PredictionStep step (s.queued step {}) _ _ :=
        PredictionStep.reconcile _ (n + 1) (answerOf ((s.queued step {}).authority step (n + 1)))
          (Nat.le_succ_of_le hAcked.le) (by omega) rfl
      exact ⟨_, _, (run.snoc hQueue).snoc hAnswer, hLength.trans (congrArg (· + 1) hSent), rfl,
        hConfig⟩

/-- An input with the number zero is dropped by any answer. -/
theorem replayedInputs_wrapped (step : StepMovement F) {s : Prediction F}
    (hNext : s.client.nextInputSeq = 0) (hPending : s.client.pendingInputs = [])
    (input : PendingInput F) (authoritative : SnapshotMotionState F) :
    ((s.queued step input).client.reconcile step authoritative).1.replayedInputs = 0 := by
  have hQueued : (s.queued step input).client.pendingInputs = [{ input with inputSeq := 0 }] := by
    change (if _ then s.client.pendingInputs.tail else s.client.pendingInputs) ++
      [{ input with inputSeq := s.client.nextInputSeq }] = _
    rw [hPending, hNext]
    exact congrArg (· ++ _) (ite_self _)
  change (((s.queued step input).client.pendingInputs).dropWhile _).length = 0
  rw [hQueued, List.dropWhile_cons_of_pos (by simp)]
  rfl

end Prediction

/-- The input after `2 ^ 32 - 1` others gets the number zero, and the next answer of the server
drops it unacknowledged. -/
theorem prediction_fails_at_wrap :
    ¬ ∀ (trace : List (PredictionEvent ℚ)) (s t : Prediction ℚ) (result : ReconciliationResult ℚ),
      Run (PredictionStep stepMovement) (start (PredictionReconciler.create {})) trace s →
      PredictionStep stepMovement s (.reconciled result) t → Settles s result t := by
  intro hClaim
  obtain ⟨n, hn⟩ : ∃ n, n + 1 = 2 ^ 32 := ⟨2 ^ 32 - 1, by decide⟩
  have hSpace :
      0 < (PredictionReconciler.create {} : PredictionReconciler ℚ).config.maxPendingInputs := by
    decide
  obtain ⟨trace, s, run, hSent, hAcked, hConfig⟩ := exists_run_acked stepMovement hSpace n
  have hInStep := inStep_run run (by omega)
  have hNext : s.client.nextInputSeq = 0 := by
    rw [hInStep.next, hSent, hn, Nat.mod_self]
  have hPending : s.client.pendingInputs = [] := by
    rw [hInStep.pending, hAcked, ← hSent, List.drop_length]
  have hQueue : PredictionStep stepMovement s _ (s.queued stepMovement {}) :=
    PredictionStep.queue s {} (by rw [hConfig]; omega)
  have hLength := s.sent_queued stepMovement {}
  have hAnswer : PredictionStep stepMovement (s.queued stepMovement {}) _ _ :=
    PredictionStep.reconcile _ n (answerOf ((s.queued stepMovement {}).authority stepMovement n))
      hAcked.le (by omega) rfl
  have hReplayed := (hClaim _ _ _ _ (run.snoc hQueue) hAnswer).replayed
  rw [replayedInputs_wrapped stepMovement hNext hPending] at hReplayed
  change 0 = (s.queued stepMovement {}).sent.length - n at hReplayed
  omega

end Replication

end DevyFps
