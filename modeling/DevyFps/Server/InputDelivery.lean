import DevyFps.Foundations.Deliveries
import DevyFps.Server.MovementSimulation

/-! The loop and the movement simulation that its frames are fed to, under any calls: which
inputs are handed out, and which sequence number a player's state acknowledges. -/

namespace DevyFps.Server

open Foundations FloatFormat Game

structure InputPipeline (F : Type) [SingleFloat F] where
  loop : AuthoritativeLoop F
  movement : MovementSimulation F

/-- A call of the loop with what it returned, or a call of the movement simulation. -/
inductive InputEvent (F : Type) [SingleFloat F] where
  | enqueued (input : PlayerInputCommand F) (status : InputEnqueueStatus)
  | advanced (frames : List (TickFrame F))
  | cleared (playerId : Nat)
  | ensured (playerId : Nat)
  | removed (playerId : Nat)

variable {F : Type} [SingleFloat F]

/-- The largest sequence number of a list, zero for none. -/
def largestSeq (inputs : List (PlayerInputCommand F)) : Nat :=
  inputs.foldr (fun input largest => max input.inputSeq largest) 0

/-- The largest number in two lists is the larger of theirs. -/
theorem largestSeq_append (first second : List (PlayerInputCommand F)) :
    largestSeq (first ++ second) = max (largestSeq first) (largestSeq second) := by
  induction first with
  | nil => exact (Nat.zero_max _).symm
  | cons head rest ih =>
      change max head.inputSeq (largestSeq (rest ++ second)) =
        max (max head.inputSeq (largestSeq rest)) (largestSeq second)
      rw [ih, max_assoc]

/-- The number of no input is above the largest. -/
theorem le_largestSeq {inputs : List (PlayerInputCommand F)} {input : PlayerInputCommand F}
    (h : input ∈ inputs) : input.inputSeq ≤ largestSeq inputs := by
  induction inputs with
  | nil => cases h
  | cons head rest ih =>
      cases h with
      | head => exact le_max_left _ _
      | tail _ hRest => exact le_max_of_le_right (ih hRest)

theorem largestSeq_le {inputs : List (PlayerInputCommand F)} {bound : Nat}
    (h : ∀ input ∈ inputs, input.inputSeq ≤ bound) : largestSeq inputs ≤ bound := by
  induction inputs with
  | nil => exact Nat.zero_le bound
  | cons head rest ih =>
      exact max_le (h head List.mem_cons_self)
        (ih fun input hInput => h input (List.mem_cons_of_mem _ hInput))

/-- In an increasing list the last one is the largest. -/
theorem largestSeq_of_getLast {inputs : List (PlayerInputCommand F)}
    {newest : PlayerInputCommand F} (hNewest : inputs.getLast? = some newest)
    (hIncreasing : inputs.Pairwise fun a b => a.inputSeq < b.inputSeq) :
    largestSeq inputs = newest.inputSeq := by
  obtain ⟨rest, rfl⟩ := List.getLast?_eq_some_iff.mp hNewest
  apply Nat.le_antisymm
  · apply largestSeq_le
    intro input hInput
    rcases List.mem_append.mp hInput with hRest | hLast
    · exact ((List.pairwise_append.mp hIncreasing).2.2 input hRest newest
        (List.mem_singleton_self _)).le
    · rw [List.mem_singleton.mp hLast]
  · exact le_largestSeq (List.mem_append_right _ (List.mem_singleton_self _))

namespace MovementSimulation

/-- An interval that `apply_inputs` does not ignore. -/
def PositiveInterval (F : Type) [SingleFloat F] (tickInterval : Int) : Prop :=
  0 < tickInterval ∧ le (SingleFloat.narrow (tickSeconds (F := F) tickInterval) : F) (ofRat 0) = false

/-- In exact arithmetic no positive interval is ignored. -/
theorem positiveInterval_of_pos {tickInterval : Int} (h : 0 < tickInterval) :
    PositiveInterval ℚ tickInterval := by
  refine ⟨h, ?_⟩
  change decide (((tickInterval : ℚ)) / 1000000000 ≤ 0) = false
  have hSeconds : (0 : ℚ) < (tickInterval : ℚ) / 1000000000 :=
    div_pos (by exact_mod_cast h) (by norm_num)
  exact decide_eq_false (not_le.mpr hSeconds)

/-- The acknowledged sequence number of a known player. -/
def acknowledged (s : MovementSimulation F) (playerId : Nat) : Option Nat :=
  (s.statesByPlayer.find playerId).map PlayerMotionState.lastProcessedInputSeq

/-- A player that is made known has acknowledged nothing yet, unless it was known. -/
theorem acknowledged_ensurePlayer (s : MovementSimulation F) (playerId id : Nat) :
    (s.ensurePlayer playerId).acknowledged id =
      if id = playerId then some ((s.acknowledged id).getD 0) else s.acknowledged id := by
  unfold acknowledged
  rw [find_ensurePlayer]
  split
  · rename_i hSame
    rw [hSame]
    cases s.statesByPlayer.find playerId <;> rfl
  · rfl

/-- A removed player acknowledges nothing any more. -/
theorem acknowledged_removePlayer (s : MovementSimulation F) (playerId id : Nat) :
    (s.removePlayer playerId).acknowledged id =
      if id = playerId then none else s.acknowledged id := by
  unfold acknowledged
  rw [find_removePlayer]
  split
  · rfl
  · rfl

/-- Before the inputs of a frame are applied, each of their players is made known. -/
theorem acknowledged_ensureAll (s : MovementSimulation F) (inputs : List (PlayerInputCommand F))
    (id : Nat) :
    (inputs.foldl (fun t input => t.ensurePlayer input.playerId) s).acknowledged id =
      if inputs.filter (fun input => input.playerId = id) = [] then s.acknowledged id
      else some ((s.acknowledged id).getD 0) := by
  induction inputs generalizing s with
  | nil => rfl
  | cons head rest ih =>
      rw [List.foldl_cons, ih, acknowledged_ensurePlayer]
      by_cases hHead : head.playerId = id
      · rw [List.filter_cons_of_pos (by simpa using hHead), if_pos hHead.symm,
          if_neg (List.cons_ne_nil _ _), Option.getD_some, ite_self]
      · rw [List.filter_cons_of_neg (by simpa using hHead), if_neg (Ne.symm hHead)]

/-- The newest input of a player in a frame. -/
theorem find_latest (inputs : List (PlayerInputCommand F))
    (latest : UnorderedMap Nat (PlayerInputCommand F)) (id : Nat) :
    (inputs.foldl (fun latest input => latest.set input.playerId input) latest).find id =
      ((inputs.filter fun input => input.playerId = id).getLast?).or (latest.find id) := by
  induction inputs generalizing latest with
  | nil => rfl
  | cons head rest ih =>
      rw [List.foldl_cons, ih, UnorderedMap.find_set]
      by_cases hHead : head.playerId = id
      · rw [List.filter_cons_of_pos (by simpa using hHead), if_pos hHead.symm, List.getLast?_cons]
        cases (rest.filter fun input => input.playerId = id).getLast? <;> rfl
      · rw [List.filter_cons_of_neg (by simpa using hHead), if_neg (Ne.symm hHead)]

/-- A step acknowledges the number of its input, and never less than before. -/
theorem lastProcessedInputSeq_advanceState (tuning : MovementTuning F) (dt : F)
    (input : Option (PlayerInputCommand F)) (state : PlayerMotionState F) :
    (advanceState tuning dt input state).lastProcessedInputSeq =
      max state.lastProcessedInputSeq ((input.map PlayerInputCommand.inputSeq).getD 0) := by
  cases input with
  | none => exact (Nat.max_zero _).symm
  | some input =>
      change (if _ then _ else _) = max _ input.inputSeq
      split
      · rename_i hLess
        exact (max_eq_right hLess.le).symm
      · rename_i hNot
        exact (max_eq_left (not_lt.mp hNot)).symm

/-- What a frame with increasing inputs does to the acknowledged number of a player. -/
theorem acknowledged_applyInputs (s : MovementSimulation F) {tickInterval : Int}
    (hPositive : PositiveInterval F tickInterval) {inputs : List (PlayerInputCommand F)} {id : Nat}
    (hIncreasing : (inputs.filter fun input => input.playerId = id).Pairwise
      fun a b => a.inputSeq < b.inputSeq) :
    (s.applyInputs tickInterval inputs).acknowledged id =
      if inputs.filter (fun input => input.playerId = id) = [] then s.acknowledged id
      else some (max ((s.acknowledged id).getD 0)
        (largestSeq (inputs.filter fun input => input.playerId = id))) := by
  have hEnsured := s.acknowledged_ensureAll inputs id
  unfold applyInputs
  rw [if_neg (not_le.mpr hPositive.1)]
  dsimp only
  rw [hPositive.2, if_neg Bool.false_ne_true]
  unfold acknowledged at hEnsured ⊢
  rw [UnorderedMap.find_mapValues, find_latest, UnorderedMap.find_empty, Option.or_none,
    Option.map_map]
  cases hNewest : (inputs.filter fun input => input.playerId = id).getLast? with
  | none =>
      rw [List.getLast?_eq_none_iff] at hNewest
      rw [if_pos hNewest] at hEnsured ⊢
      rw [← hEnsured]
      rfl
  | some newest =>
      have hSome : inputs.filter (fun input => input.playerId = id) ≠ [] := by
        intro hNone
        rw [hNone] at hNewest
        cases hNewest
      rw [if_neg hSome] at hEnsured ⊢
      obtain ⟨state, hState, hSeq⟩ := Option.map_eq_some_iff.mp hEnsured
      rw [hState, largestSeq_of_getLast hNewest hIncreasing, ← hSeq, Option.map_some]
      exact congrArg some (lastProcessedInputSeq_advanceState _ _ _ _)

end MovementSimulation

namespace InputPipeline

def create (config : RuntimeConfig) (startTime : TimePoint) (tuning : MovementTuning F) :
    InputPipeline F where
  loop := .create config startTime
  movement := .create tuning

/-- The calls of both components; every frame is fed to `apply_inputs`. -/
inductive InputCall : InputPipeline F → InputEvent F → InputPipeline F → Prop where
  | enqueueInput (s) (input : PlayerInputCommand F) :
      InputCall s (.enqueued input (s.loop.enqueueInput input).1)
        { s with loop := (s.loop.enqueueInput input).2 }
  | advance (s) (now : TimePoint) (tickInterval : Int)
      (hPositive : MovementSimulation.PositiveInterval F tickInterval) :
      InputCall s (.advanced (s.loop.advance now).1)
        { loop := (s.loop.advance now).2
          movement := (s.loop.advance now).1.foldl
            (fun t frame => t.applyInputs tickInterval frame.inputs) s.movement }
  | clearPlayer (s) (playerId : Nat) :
      InputCall s (.cleared playerId) { s with loop := s.loop.clearPlayer playerId }
  | ensurePlayer (s) (playerId : Nat) :
      InputCall s (.ensured playerId) { s with movement := s.movement.ensurePlayer playerId }
  | removePlayer (s) (playerId : Nat) :
      InputCall s (.removed playerId) { s with movement := s.movement.removePlayer playerId }

end InputPipeline

namespace InputEvent

/-- What an event does to the queues of the loop. -/
def queueEvents : InputEvent F → List (QueueEvent (PlayerInputCommand F))
  | .enqueued input .accepted => [.accepted input]
  | .enqueued _ _ => []
  | .advanced frames => frames.map fun frame => .drained frame.inputs
  | .cleared playerId => [.cleared playerId]
  | .ensured _ => []
  | .removed _ => []

/-- A refused input is nothing to the queue. -/
theorem queueEvents_of_refused {input : PlayerInputCommand F} {status : InputEnqueueStatus}
    (h : status ≠ .accepted) : queueEvents (.enqueued input status) = [] := by
  cases status with
  | accepted => exact absurd rfl h
  | queueFull => rfl
  | outOfOrder => rfl

/-- The inputs of a player accepted since its last `clear_player`. -/
def accepted (playerId : Nat) (trace : List (InputEvent F)) : List (PlayerInputCommand F) :=
  QueueEvent.acceptedSince PlayerInputCommand.playerId playerId (trace.flatMap queueEvents)

/-- The inputs of a player in the frames returned since its last `clear_player`. -/
def delivered (playerId : Nat) (trace : List (InputEvent F)) : List (PlayerInputCommand F) :=
  QueueEvent.deliveredSince PlayerInputCommand.playerId playerId (trace.flatMap queueEvents)

end InputEvent

/-- What happened to a player since it was ensured. -/
structure PlayerService (F : Type) [SingleFloat F] where
  drained : List (PlayerInputCommand F) := []
  cleared : Bool := false

namespace PlayerService

/-- One more event in the service of a player, `none` while it is not known. An input in a
frame makes its sender known too. -/
def note (playerId : Nat) (known : Option (PlayerService F)) :
    InputEvent F → Option (PlayerService F)
  | .enqueued _ _ => known
  | .advanced frames =>
      let batch := (frames.flatMap TickFrame.inputs).filter fun input => input.playerId = playerId
      if batch = [] then known
      else
        let service := known.getD {}
        some { service with drained := service.drained ++ batch }
  | .cleared id =>
      if id = playerId then known.map fun service => { service with cleared := true } else known
  | .ensured id => if id = playerId then some (known.getD {}) else known
  | .removed id => if id = playerId then none else known

def sinceEnsured (playerId : Nat) (trace : List (InputEvent F)) : Option (PlayerService F) :=
  trace.foldl (note playerId) none

end PlayerService

namespace AuthoritativeLoop

open CommandQueues

/-- Only an accepted input changes the loop. -/
theorem enqueueInput_cases (s : AuthoritativeLoop F) (input : PlayerInputCommand F) :
    (s.enqueueInput input).1 ≠ .accepted ∧ (s.enqueueInput input).2 = s ∨
      (s.enqueueInput input).1 = .accepted ∧
        (∀ last, s.lastInputSeqByPlayer.find input.playerId = some last → last < input.inputSeq) ∧
        behindQueue (s.inputQueuesByPlayer.find input.playerId) input.inputSeq = false ∧
        s.pendingInputCount < s.config.inputQueueCapacity ∧
        (s.enqueueInput input).2 =
          { s with
            inputQueuesByPlayer := s.inputQueuesByPlayer.push input.playerId input
            lastInputSeqByPlayer := s.lastInputSeqByPlayer.set input.playerId input.inputSeq
            pendingInputCount := s.pendingInputCount + 1 } := by
  unfold enqueueInput
  by_cases hLast : (s.lastInputSeqByPlayer.find input.playerId).any (input.inputSeq ≤ ·) = true
  · left
    simp [hLast]
  · by_cases hQueue : behindQueue (s.inputQueuesByPlayer.find input.playerId) input.inputSeq = true
    · left
      simp [hQueue]
    · by_cases hFull : s.config.inputQueueCapacity ≤ s.pendingInputCount
      · left
        simp [hLast, hQueue, hFull]
      · right
        rw [if_neg hLast, if_neg hQueue, if_neg hFull]
        refine ⟨rfl, ?_, Bool.not_eq_true _ ▸ hQueue, not_le.mp hFull, rfl⟩
        intro last hFind
        by_contra hNot
        apply hLast
        rw [hFind, Option.any_some, decide_eq_true_iff]
        exact not_lt.mp hNot

/-- An input that passes the back of its queue passes all of it. -/
theorem lt_of_not_behindQueue {queues : CommandQueues (PlayerInputCommand F)}
    (hOrder : InOrder PlayerInputCommand.playerId PlayerInputCommand.inputSeq queues)
    {playerId inputSeq : Nat} (h : behindQueue (queues.find playerId) inputSeq = false) :
    ∀ other ∈ (queues.find playerId).getD [], other.inputSeq < inputSeq := by
  apply hOrder.lt_of_getLast
  intro back hBack
  unfold behindQueue at h
  rw [hBack] at h
  exact not_le.mp (of_decide_eq_false h)

/-- The frames of one call drain the queues one after the other. -/
theorem queueRun_cutFrames (s : AuthoritativeLoop F) (count : Nat) :
    Run (QueueStep PlayerInputCommand.playerId PlayerInputCommand.inputSeq)
      s.inputQueuesByPlayer ((s.cutFrames count).1.map fun frame => .drained frame.inputs)
      (s.cutFrames count).2.inputQueuesByPlayer := by
  induction count generalizing s with
  | zero => exact .nil _
  | succ count ih =>
      have hFirst : Run (QueueStep PlayerInputCommand.playerId PlayerInputCommand.inputSeq)
          s.inputQueuesByPlayer [.drained s.cutFrame.1.inputs] s.cutFrame.2.inputQueuesByPlayer :=
        Run.single (.drain _)
      exact hFirst.trans (ih s.cutFrame.2)

theorem inputQueuesByPlayer_clearPlayer (s : AuthoritativeLoop F) (playerId : Nat) :
    (s.clearPlayer playerId).inputQueuesByPlayer =
      UnorderedMap.erase s.inputQueuesByPlayer playerId := by
  unfold clearPlayer
  cases hFind : s.inputQueuesByPlayer.find playerId with
  | none => exact (UnorderedMap.erase_eq_self_of_find_none hFind).symm
  | some queue => rfl

/-- The last number of a player goes with its queue. -/
theorem lastInputSeqByPlayer_clearPlayer (s : AuthoritativeLoop F) (playerId : Nat) :
    (s.clearPlayer playerId).lastInputSeqByPlayer = s.lastInputSeqByPlayer.erase playerId := by
  unfold clearPlayer
  cases s.inputQueuesByPlayer.find playerId with
  | none => rfl
  | some queue => rfl

theorem lastInputSeqByPlayer_cutFrames (s : AuthoritativeLoop F) (count : Nat) :
    (s.cutFrames count).2.lastInputSeqByPlayer = s.lastInputSeqByPlayer := by
  induction count generalizing s with
  | zero => rfl
  | succ count ih => exact ih s.cutFrame.2

/-- The counter is right and within the capacity. -/
def WithinCapacity (s : AuthoritativeLoop F) : Prop :=
  s.CountsQueued ∧ s.pendingInputCount ≤ s.config.inputQueueCapacity

/-- No queue is over its capacity, by induction over the calls in the next lemmas. -/
theorem WithinCapacity.create (config : RuntimeConfig) (startTime : TimePoint) :
    (AuthoritativeLoop.create (F := F) config startTime).WithinCapacity :=
  ⟨rfl, Nat.zero_le _⟩

theorem WithinCapacity.enqueueInput {s : AuthoritativeLoop F} (h : s.WithinCapacity)
    (input : PlayerInputCommand F) : (s.enqueueInput input).2.WithinCapacity := by
  refine ⟨h.1.enqueueInput input, ?_⟩
  rcases s.enqueueInput_cases input with ⟨-, hState⟩ | ⟨-, -, -, hRoom, hState⟩
  · rw [hState]
    exact h.2
  · rw [hState]
    exact hRoom

theorem WithinCapacity.clearPlayer {s : AuthoritativeLoop F} (h : s.WithinCapacity)
    (playerId : Nat) : (s.clearPlayer playerId).WithinCapacity := by
  refine ⟨h.1.clearPlayer playerId, ?_⟩
  unfold AuthoritativeLoop.clearPlayer
  cases s.inputQueuesByPlayer.find playerId with
  | none => exact h.2
  | some queue => exact (Nat.sub_le _ _).trans h.2

theorem WithinCapacity.cutFrames {s : AuthoritativeLoop F} (h : s.WithinCapacity) (count : Nat) :
    (s.cutFrames count).2.WithinCapacity := by
  induction count generalizing s with
  | zero => exact h
  | succ count ih => exact ih ⟨h.1.cutFrame, (Nat.sub_le _ _).trans h.2⟩

/-- No subtraction from the counter wraps: not for a player who leaves, and not in a frame. -/
theorem CountsQueued.no_underflow {s : AuthoritativeLoop F} (h : s.CountsQueued) :
    (∀ playerId queue, s.inputQueuesByPlayer.find playerId = some queue →
        queue.length ≤ s.pendingInputCount) ∧
      s.drainInputs.1.length ≤ s.pendingInputCount := by
  constructor
  · intro playerId queue hFind
    rw [h, queued_of_find hFind]
    exact Nat.le_add_right _ _
  · rw [h, ← length_drain s.inputQueuesByPlayer]
    exact Nat.le_add_right _ _

/-- The counter of queued inputs follows the frames. -/
theorem CountsQueued.cutFrames {s : AuthoritativeLoop F} (h : s.CountsQueued) (count : Nat) :
    (s.cutFrames count).2.CountsQueued := by
  induction count generalizing s with
  | zero => exact h
  | succ count ih => exact ih h.cutFrame

end AuthoritativeLoop

namespace MovementSimulation

/-- What a player sent in a list of frames. -/
def sentIn (playerId : Nat) (frames : List (TickFrame F)) : List (PlayerInputCommand F) :=
  (frames.flatMap TickFrame.inputs).filter fun input => input.playerId = playerId

/-- Over the frames of a call, a player's acknowledged number becomes the largest of the inputs
that are handed to it. -/
theorem acknowledged_frames {tickInterval : Int} (hPositive : PositiveInterval F tickInterval)
    (frames : List (TickFrame F)) (id : Nat)
    (hIncreasing : ∀ frame ∈ frames, (frame.inputs.filter fun input => input.playerId = id).Pairwise
      fun a b => a.inputSeq < b.inputSeq) (s : MovementSimulation F) :
    (frames.foldl (fun t frame => t.applyInputs tickInterval frame.inputs) s).acknowledged id =
      if sentIn id frames = [] then s.acknowledged id
      else some (max ((s.acknowledged id).getD 0) (largestSeq (sentIn id frames))) := by
  induction frames generalizing s with
  | nil => rfl
  | cons frame rest ih =>
      have hRest := ih (fun frame hFrame => hIncreasing frame (List.mem_cons_of_mem _ hFrame))
        (s.applyInputs tickInterval frame.inputs)
      have hFirst := s.acknowledged_applyInputs hPositive
        (hIncreasing frame List.mem_cons_self)
      have hSent : sentIn id (frame :: rest) =
          (frame.inputs.filter fun input => input.playerId = id) ++ sentIn id rest := by
        unfold sentIn
        rw [List.flatMap_cons, List.filter_append]
      rw [List.foldl_cons, hRest, hFirst, hSent]
      by_cases hNone : frame.inputs.filter (fun input => input.playerId = id) = []
      · rw [hNone, if_pos rfl, List.nil_append]
      · have hSome : (frame.inputs.filter fun input => input.playerId = id) ++ sentIn id rest ≠ [] :=
          fun hEmpty => hNone (List.append_eq_nil_iff.mp hEmpty).1
        rw [if_neg hNone, if_neg hSome, largestSeq_append, Option.getD_some]
        by_cases hLater : sentIn id rest = []
        · rw [if_pos hLater, hLater, ← max_assoc]
          exact congrArg some (Nat.max_zero _).symm
        · rw [if_neg hLater, max_assoc]

end MovementSimulation

namespace InputPipeline

open CommandQueues MovementSimulation InputEvent

variable {s t : InputPipeline F} {trace : List (InputEvent F)}

/-- The calls of the loop are steps of its queues. -/
theorem queueRun_step {event : InputEvent F}
    (hOrder : InOrder PlayerInputCommand.playerId PlayerInputCommand.inputSeq
      s.loop.inputQueuesByPlayer) (hStep : InputCall s event t) :
    Run (QueueStep PlayerInputCommand.playerId PlayerInputCommand.inputSeq)
      s.loop.inputQueuesByPlayer event.queueEvents t.loop.inputQueuesByPlayer := by
  cases hStep with
  | enqueueInput input =>
      rcases s.loop.enqueueInput_cases input with
        ⟨hStatus, hState⟩ | ⟨hStatus, -, hBehind, -, hState⟩
      · rw [queueEvents_of_refused hStatus, hState]
        exact .nil _
      · rw [hStatus, hState]
        exact Run.single (.accept _ input (AuthoritativeLoop.lt_of_not_behindQueue hOrder hBehind))
  | advance now tickInterval hPositive => exact s.loop.queueRun_cutFrames _
  | clearPlayer playerId =>
      dsimp only
      rw [AuthoritativeLoop.inputQueuesByPlayer_clearPlayer]
      exact Run.single (.clear _ playerId)
  | ensurePlayer playerId => exact .nil _
  | removePlayer playerId => exact .nil _

/-- Every run of the input pipeline is one of ordered queues, one for each player. -/
theorem queueRun {config : RuntimeConfig} {startTime : TimePoint} {tuning : MovementTuning F}
    (run : Run InputCall (create config startTime tuning) trace s) :
    InOrder PlayerInputCommand.playerId PlayerInputCommand.inputSeq s.loop.inputQueuesByPlayer ∧
      Run (QueueStep PlayerInputCommand.playerId PlayerInputCommand.inputSeq) ∅
        (trace.flatMap queueEvents) s.loop.inputQueuesByPlayer := by
  apply run.refine (I := fun s => InOrder PlayerInputCommand.playerId PlayerInputCommand.inputSeq
    s.loop.inputQueuesByPlayer) (f := fun s => s.loop.inputQueuesByPlayer)
  · intro s event t hOrder hStep
    have hRun := queueRun_step hOrder hStep
    exact ⟨hOrder.run hRun, hRun⟩
  · exact inOrder_empty

/-- In no state that is reached a queue is over its capacity. -/
theorem withinCapacity {config : RuntimeConfig} {startTime : TimePoint} {tuning : MovementTuning F}
    (run : Run InputCall (create config startTime tuning) trace s) : s.loop.WithinCapacity := by
  apply run.invariant (I := fun s => s.loop.WithinCapacity)
  · intro s event t h hStep
    cases hStep with
    | enqueueInput input => exact h.enqueueInput input
    | advance now tickInterval hPositive => exact h.cutFrames _
    | clearPlayer playerId => exact h.clearPlayer playerId
    | ensurePlayer playerId => exact h
    | removePlayer playerId => exact h
  · exact AuthoritativeLoop.WithinCapacity.create config startTime

theorem accepted_snoc (playerId : Nat) (trace : List (InputEvent F)) (event : InputEvent F) :
    accepted playerId (trace ++ [event]) = event.queueEvents.foldl
      (QueueEvent.noteAccepted PlayerInputCommand.playerId playerId) (accepted playerId trace) := by
  unfold accepted QueueEvent.acceptedSince
  rw [List.flatMap_append, List.flatMap_singleton, List.foldl_append]

/-- An accepted input is the last of the accepted ones of its player. -/
theorem accepted_enqueued (playerId : Nat) (trace : List (InputEvent F))
    (input : PlayerInputCommand F) :
    accepted playerId (trace ++ [.enqueued input .accepted]) =
      if input.playerId = playerId then accepted playerId trace ++ [input]
      else accepted playerId trace :=
  accepted_snoc playerId trace (.enqueued input .accepted)

/-- What was accepted of a player is forgotten when it is cleared. -/
theorem accepted_cleared (playerId : Nat) (trace : List (InputEvent F)) (id : Nat) :
    accepted playerId (trace ++ [.cleared id]) =
      if id = playerId then [] else accepted playerId trace :=
  accepted_snoc playerId trace (.cleared id)

theorem delivered_snoc (playerId : Nat) (trace : List (InputEvent F)) (event : InputEvent F) :
    delivered playerId (trace ++ [event]) = event.queueEvents.foldl
      (QueueEvent.noteDelivered PlayerInputCommand.playerId playerId)
      (delivered playerId trace) := by
  unfold delivered QueueEvent.deliveredSince
  rw [List.flatMap_append, List.flatMap_singleton, List.foldl_append]

/-- A frame accepts nothing. -/
theorem noteAccepted_frames (playerId : Nat) (frames : List (TickFrame F))
    (commands : List (PlayerInputCommand F)) :
    (queueEvents (.advanced frames)).foldl
      (QueueEvent.noteAccepted PlayerInputCommand.playerId playerId) commands = commands := by
  change List.foldl _ _ (frames.map _) = _
  induction frames with
  | nil => rfl
  | cons frame rest ih => exact ih

/-- A frame hands out what it holds. -/
theorem noteDelivered_frames (playerId : Nat) (frames : List (TickFrame F))
    (commands : List (PlayerInputCommand F)) :
    (queueEvents (.advanced frames)).foldl
      (QueueEvent.noteDelivered PlayerInputCommand.playerId playerId) commands =
        commands ++ sentIn playerId frames := by
  change List.foldl _ _ (frames.map _) = _
  induction frames generalizing commands with
  | nil => exact (List.append_nil _).symm
  | cons frame rest ih =>
      refine (ih _).trans ?_
      unfold sentIn
      rw [List.flatMap_cons, List.filter_append, ← List.append_assoc]
      rfl

/-- The last sequence number of a player is the bound of what it had accepted. -/
def AcceptedInOrder (trace : List (InputEvent F)) (s : InputPipeline F) : Prop :=
  ∀ playerId, (accepted playerId trace).Pairwise (fun a b => a.inputSeq < b.inputSeq) ∧
    ∀ input ∈ accepted playerId trace,
      ∃ last, s.loop.lastInputSeqByPlayer.find playerId = some last ∧ input.inputSeq ≤ last

/-- A call keeps the accepted inputs of each player in the order of their numbers. -/
theorem AcceptedInOrder.step {event : InputEvent F} (h : AcceptedInOrder trace s)
    (hStep : InputCall s event t) : AcceptedInOrder (trace ++ [event]) t := by
  intro playerId
  obtain ⟨hIncreasing, hBound⟩ := h playerId
  cases hStep with
  | enqueueInput input =>
      rcases s.loop.enqueueInput_cases input with
        ⟨hStatus, hState⟩ | ⟨hStatus, hLast, -, -, hState⟩
      · rw [accepted_snoc, queueEvents_of_refused hStatus, hState]
        exact ⟨hIncreasing, hBound⟩
      · rw [hStatus, hState, accepted_enqueued, UnorderedMap.find_set]
        by_cases hSender : input.playerId = playerId
        · rw [if_pos hSender, if_pos hSender.symm]
          have hBelow : ∀ other ∈ accepted playerId trace, other.inputSeq < input.inputSeq := by
            intro other hOther
            obtain ⟨last, hFind, hLe⟩ := hBound other hOther
            rw [← hSender] at hFind
            exact hLe.trans_lt (hLast last hFind)
          refine ⟨List.pairwise_append.mpr ⟨hIncreasing, List.pairwise_singleton _ _, ?_⟩, ?_⟩
          · intro other hOther newest hNewest
            rw [List.mem_singleton.mp hNewest]
            exact hBelow other hOther
          · intro other hOther
            refine ⟨input.inputSeq, rfl, ?_⟩
            rcases List.mem_append.mp hOther with hOld | hNew
            · exact (hBelow other hOld).le
            · rw [List.mem_singleton.mp hNew]
        · rw [if_neg hSender, if_neg (Ne.symm hSender)]
          exact ⟨hIncreasing, hBound⟩
  | advance now tickInterval hPositive =>
      rw [accepted_snoc, noteAccepted_frames]
      refine ⟨hIncreasing, ?_⟩
      change ∀ input ∈ _, ∃ last, (s.loop.cutFrames _).2.lastInputSeqByPlayer.find _ = _ ∧ _
      rw [AuthoritativeLoop.lastInputSeqByPlayer_cutFrames]
      exact hBound
  | clearPlayer id =>
      rw [accepted_cleared, AuthoritativeLoop.lastInputSeqByPlayer_clearPlayer,
        UnorderedMap.find_erase]
      by_cases hSame : id = playerId
      · rw [if_pos hSame]
        exact ⟨List.Pairwise.nil, fun other hOther => nomatch hOther⟩
      · rw [if_neg hSame, if_neg (Ne.symm hSame)]
        exact ⟨hIncreasing, hBound⟩
  | ensurePlayer id =>
      rw [accepted_snoc]
      exact ⟨hIncreasing, hBound⟩
  | removePlayer id =>
      rw [accepted_snoc]
      exact ⟨hIncreasing, hBound⟩

/-- A player's state acknowledges the largest input drained for it since it was ensured, and
what was drained has not been forgotten by its queue unless that was cleared. -/
def Acknowledges (trace : List (InputEvent F)) (s : InputPipeline F) : Prop :=
  ∀ playerId,
    s.movement.acknowledged playerId =
      (PlayerService.sinceEnsured playerId trace).map (fun service => largestSeq service.drained) ∧
    ∀ service, PlayerService.sinceEnsured playerId trace = some service →
      service.cleared = false → ∀ input ∈ service.drained, input ∈ delivered playerId trace

theorem sinceEnsured_snoc (playerId : Nat) (trace : List (InputEvent F)) (event : InputEvent F) :
    PlayerService.sinceEnsured playerId (trace ++ [event]) =
      PlayerService.note playerId (PlayerService.sinceEnsured playerId trace) event :=
  List.foldl_concat _ _ _ _

/-- The frames of one call are sorted. -/
theorem frames_sorted (hOrder : InOrder PlayerInputCommand.playerId PlayerInputCommand.inputSeq
      s.loop.inputQueuesByPlayer) (now : TimePoint) :
    ∀ frame ∈ (s.loop.advance now).1, frame.inputs.Pairwise
      (Precedes PlayerInputCommand.playerId PlayerInputCommand.inputSeq) := by
  intro frame hFrame
  apply hOrder.batch_sorted (s.loop.queueRun_cutFrames (s.loop.framesDue now))
  exact List.mem_map_of_mem hFrame

/-- What was drained for a player that is not known yet is nothing. -/
theorem Acknowledges.kept_getD (h : Acknowledges trace s) {playerId : Nat}
    (hUncleared : ((PlayerService.sinceEnsured playerId trace).getD {}).cleared = false)
    {input : PlayerInputCommand F}
    (hInput : input ∈ ((PlayerService.sinceEnsured playerId trace).getD {}).drained) :
    input ∈ delivered playerId trace := by
  cases hKnown : PlayerService.sinceEnsured playerId trace with
  | none =>
      rw [hKnown] at hInput
      cases hInput
  | some service =>
      rw [hKnown] at hInput hUncleared
      exact (h playerId).2 service hKnown hUncleared input hInput

/-- A call keeps what is acknowledged in step with what has been handed out. -/
theorem Acknowledges.step {event : InputEvent F} (h : Acknowledges trace s)
    (hOrder : InOrder PlayerInputCommand.playerId PlayerInputCommand.inputSeq
      s.loop.inputQueuesByPlayer) (hStep : InputCall s event t) :
    Acknowledges (trace ++ [event]) t := by
  intro playerId
  obtain ⟨hLargest, hKept⟩ := h playerId
  rw [sinceEnsured_snoc, delivered_snoc]
  cases hStep with
  | enqueueInput input =>
      refine ⟨hLargest, fun service hService hUncleared other hOther => ?_⟩
      have hOld := hKept service hService hUncleared other hOther
      cases (s.loop.enqueueInput input).1 with
      | accepted => exact hOld
      | queueFull => exact hOld
      | outOfOrder => exact hOld
  | advance now tickInterval hPositive =>
      have hSorted := frames_sorted hOrder now
      have hFrames := acknowledged_frames hPositive (s.loop.advance now).1 playerId
        (fun frame hFrame => increasing_filter (hSorted frame hFrame) playerId) s.movement
      rw [noteDelivered_frames]
      dsimp only [PlayerService.note]
      change _ = Option.map _ (if sentIn playerId _ = [] then _ else _) ∧
        ∀ service, (if sentIn playerId _ = [] then _ else _) = _ → _
      rw [hFrames, hLargest]
      by_cases hNone : sentIn playerId (s.loop.advance now).1 = []
      · rw [if_pos hNone, if_pos hNone, hNone, List.append_nil]
        exact ⟨rfl, hKept⟩
      · rw [if_neg hNone, if_neg hNone]
        refine ⟨?_, ?_⟩
        · rw [Option.map_some, largestSeq_append]
          cases PlayerService.sinceEnsured playerId trace <;> rfl
        · intro service hService hUncleared input hInput
          injection hService with hService
          rw [← hService] at hUncleared hInput
          rcases List.mem_append.mp hInput with hOld | hNew
          · exact List.mem_append_left _ (h.kept_getD hUncleared hOld)
          · exact List.mem_append_right _ hNew
  | clearPlayer id =>
      dsimp only [PlayerService.note]
      by_cases hSame : id = playerId
      · rw [if_pos hSame]
        refine ⟨?_, ?_⟩
        · rw [hLargest]
          cases PlayerService.sinceEnsured playerId trace <;> rfl
        · intro service hService hUncleared
          obtain ⟨old, -, rfl⟩ := Option.map_eq_some_iff.mp hService
          cases hUncleared
      · rw [if_neg hSame]
        refine ⟨hLargest, fun service hService hUncleared input hInput => ?_⟩
        change input ∈ if id = playerId then [] else delivered playerId trace
        rw [if_neg hSame]
        exact hKept service hService hUncleared input hInput
  | ensurePlayer id =>
      dsimp only [PlayerService.note]
      rw [acknowledged_ensurePlayer]
      by_cases hSame : id = playerId
      · rw [if_pos hSame, if_pos hSame.symm, hLargest]
        refine ⟨?_, ?_⟩
        · cases PlayerService.sinceEnsured playerId trace <;> rfl
        · intro service hService hUncleared input hInput
          injection hService with hService
          rw [← hService] at hUncleared hInput
          exact h.kept_getD hUncleared hInput
      · rw [if_neg hSame, if_neg (Ne.symm hSame)]
        exact ⟨hLargest, hKept⟩
  | removePlayer id =>
      dsimp only [PlayerService.note]
      rw [acknowledged_removePlayer]
      by_cases hSame : id = playerId
      · rw [if_pos hSame, if_pos hSame.symm]
        exact ⟨rfl, fun service hService => nomatch hService⟩
      · rw [if_neg hSame, if_neg (Ne.symm hSame)]
        exact ⟨hLargest, hKept⟩

/-- In every run the server has acknowledged what it has handed out to the simulation. -/
theorem acknowledges {config : RuntimeConfig} {startTime : TimePoint} {tuning : MovementTuning F}
    (run : Run InputCall (create config startTime tuning) trace s) : Acknowledges trace s := by
  suffices hBoth : InOrder PlayerInputCommand.playerId PlayerInputCommand.inputSeq
      s.loop.inputQueuesByPlayer ∧ Acknowledges trace s from hBoth.2
  apply run.history (I := fun trace s => InOrder PlayerInputCommand.playerId
    PlayerInputCommand.inputSeq s.loop.inputQueuesByPlayer ∧ Acknowledges trace s)
  · intro trace s event t h hStep
    exact ⟨h.1.run (queueRun_step h.1 hStep), h.2.step h.1 hStep⟩
  · exact ⟨inOrder_empty, fun playerId => ⟨rfl, fun service hService => nomatch hService⟩⟩

/-- In every run the accepted inputs of a player are in the order of their numbers. -/
theorem acceptedInOrder {config : RuntimeConfig} {startTime : TimePoint}
    {tuning : MovementTuning F} (run : Run InputCall (create config startTime tuning) trace s) :
    AcceptedInOrder trace s := by
  apply run.history (I := AcceptedInOrder)
  · intro trace s event t h hStep
    exact h.step hStep
  · exact fun playerId => ⟨List.Pairwise.nil, fun input hInput => nomatch hInput⟩

/-- Every accepted input is handed out once, in the order of acceptance and in sorted frames;
the counter of waiting inputs is exact; and a state acknowledges the largest input drained for
its player since it was ensured. What waits has a larger number, if the queue was not cleared
since then, or is a first input with number zero. -/
theorem inputs_handed_out_once {config : RuntimeConfig} {startTime : TimePoint}
    {tuning : MovementTuning F} (run : Run InputCall (create config startTime tuning) trace s) :
    (∀ playerId,
      delivered playerId trace ++ (s.loop.inputQueuesByPlayer.find playerId).getD [] =
          accepted playerId trace ∧
        (accepted playerId trace).Pairwise fun a b => a.inputSeq < b.inputSeq) ∧
      (∀ frames, .advanced frames ∈ trace → ∀ frame ∈ frames, frame.inputs.Pairwise
        (Precedes PlayerInputCommand.playerId PlayerInputCommand.inputSeq)) ∧
      (s.loop.pendingInputCount = s.loop.inputQueuesByPlayer.queued ∧
        s.loop.pendingInputCount ≤ s.loop.config.inputQueueCapacity ∧
        (∀ playerId queue, s.loop.inputQueuesByPlayer.find playerId = some queue →
          queue.length ≤ s.loop.pendingInputCount) ∧
        ∀ count, (s.loop.cutFrames count).2.drainInputs.1.length ≤
          (s.loop.cutFrames count).2.pendingInputCount) ∧
      ∀ playerId state, s.movement.stateFor playerId = some state →
        ∃ service, PlayerService.sinceEnsured playerId trace = some service ∧
          state.lastProcessedInputSeq = largestSeq service.drained ∧
          (service.cleared = false →
            ∀ input ∈ (s.loop.inputQueuesByPlayer.find playerId).getD [],
              state.lastProcessedInputSeq < input.inputSeq ∨
                input.inputSeq = 0 ∧ service.drained = []) := by
  have hQueues := (queueRun run).2
  have hBooks := fun playerId => delivered_append_waiting hQueues playerId
  have hIncreasing := fun playerId => (acceptedInOrder run playerId).1
  obtain ⟨hCounts, hRoom⟩ := withinCapacity run
  refine ⟨fun playerId => ⟨hBooks playerId, hIncreasing playerId⟩, ?_, ?_, ?_⟩
  · intro frames hFrames frame hFrame
    apply inOrder_empty.batch_sorted hQueues
    exact List.mem_flatMap.mpr ⟨.advanced frames, hFrames, List.mem_map_of_mem hFrame⟩
  · exact ⟨hCounts, hRoom, hCounts.no_underflow.1,
      fun count => (hCounts.cutFrames count).no_underflow.2⟩
  · intro playerId state hState
    obtain ⟨hLargest, hKept⟩ := acknowledges run playerId
    unfold acknowledged at hLargest
    rw [show s.movement.statesByPlayer.find playerId = some state from hState,
      Option.map_some] at hLargest
    obtain ⟨service, hService, hSeq⟩ := Option.map_eq_some_iff.mp hLargest.symm
    refine ⟨service, hService, hSeq.symm, fun hUncleared input hInput => ?_⟩
    have hLater : ∀ other ∈ service.drained, other.inputSeq < input.inputSeq := by
      intro other hOther
      have hAccepted := hIncreasing playerId
      rw [accepted, ← hBooks playerId] at hAccepted
      exact (List.pairwise_append.mp hAccepted).2.2 other
        (hKept service hService hUncleared other hOther) input hInput
    by_cases hZero : input.inputSeq = 0
    · right
      refine ⟨hZero, ?_⟩
      cases hDrained : service.drained with
      | nil => rfl
      | cons other rest =>
          have hLess := hLater other (hDrained ▸ List.mem_cons_self)
          omega
    · left
      have hLe : largestSeq service.drained ≤ input.inputSeq - 1 := by
        apply largestSeq_le
        intro other hOther
        have hLess := hLater other hOther
        omega
      omega

/-- An input of the first player. -/
def sent (inputSeq : Nat) : PlayerInputCommand ℚ := { playerId := 1, inputSeq }

/-- Two inputs are handed out with the first frame, the third one waits for the next. -/
theorem inputs_handed_out_once_third :
    ∃ (trace : List (InputEvent ℚ)) (s : InputPipeline ℚ) (state : PlayerMotionState ℚ),
      Run InputCall (create {} 0 {}) trace s ∧
        delivered 1 trace = [sent 5, sent 7] ∧ accepted 1 trace = [sent 5, sent 7, sent 9] ∧
          s.movement.stateFor 1 = some state ∧ state.lastProcessedInputSeq = 7 := by
  have hPositive : PositiveInterval ℚ 33333333 := positiveInterval_of_pos (by decide)
  have hRun := (((((Run.nil (create {} 0 {} : InputPipeline ℚ)).snoc
    (InputCall.ensurePlayer _ 1)).snoc (InputCall.enqueueInput _ (sent 5))).snoc
    (InputCall.enqueueInput _ (sent 7))).snoc
    (InputCall.advance _ 33333333 33333333 hPositive)).snoc (InputCall.enqueueInput _ (sent 9))
  obtain ⟨hDelivered, -, -, hAcknowledged⟩ := inputs_handed_out_once hRun
  obtain ⟨state, hState, -⟩ := Option.map_eq_some_iff.mp
    ((acknowledges hRun 1).1.trans (show _ = some 7 from rfl))
  obtain ⟨service, hService, hSeq, -⟩ := hAcknowledged 1 state hState
  refine ⟨_, _, state, hRun, rfl, (hDelivered 1).1.symm, hState, ?_⟩
  rw [hSeq]
  obtain rfl := Option.some.inj hService
  rfl

/-- The clients count their inputs from one, but the loop takes an input with number zero,
which the state of a new player already seems to acknowledge. And a player whose queue is
cleared but whose state is kept may start again below what that state acknowledges. -/
theorem waiting_input_acknowledged_early :
    (¬ ∀ (config : RuntimeConfig) (startTime : TimePoint) (tuning : MovementTuning ℚ)
      (trace : List (InputEvent ℚ)) (s : InputPipeline ℚ),
      Run InputCall (create config startTime tuning) trace s →
      ∀ playerId state, s.movement.stateFor playerId = some state →
        ∀ input ∈ (s.loop.inputQueuesByPlayer.find playerId).getD [],
          state.lastProcessedInputSeq < input.inputSeq) ∧
      ¬ ∀ (config : RuntimeConfig) (startTime : TimePoint) (tuning : MovementTuning ℚ)
        (trace : List (InputEvent ℚ)) (s : InputPipeline ℚ),
        Run InputCall (create config startTime tuning) trace s →
        ∀ playerId state, s.movement.stateFor playerId = some state →
          ∀ input ∈ (s.loop.inputQueuesByPlayer.find playerId).getD [], 0 < input.inputSeq →
            state.lastProcessedInputSeq < input.inputSeq := by
  refine ⟨fun hClaim => ?_, fun hClaim => ?_⟩
  · have hRun := ((Run.nil (create {} 0 {} : InputPipeline ℚ)).snoc (InputCall.ensurePlayer _ 1)).snoc
      (InputCall.enqueueInput _ { playerId := 1 })
    have hLess := hClaim {} 0 {} _ _ hRun 1 { playerId := 1 } rfl { playerId := 1 }
      (List.mem_singleton_self _)
    exact Nat.lt_irrefl 0 hLess
  · have hPositive : PositiveInterval ℚ 33333333 := positiveInterval_of_pos (by decide)
    have hSent := ((Run.nil (create {} 0 {} : InputPipeline ℚ)).snoc
      (InputCall.enqueueInput _ { playerId := 1, inputSeq := 5 })).snoc
      (InputCall.advance _ 33333333 33333333 hPositive)
    have hRun := (hSent.snoc (InputCall.clearPlayer _ 1)).snoc
      (InputCall.enqueueInput _ { playerId := 1, inputSeq := 1 })
    have hFive := (acknowledges hSent 1).1
    obtain ⟨state, hState, hSeq⟩ := Option.map_eq_some_iff.mp
      (hFive.trans (show _ = some 5 from rfl))
    have hLess := hClaim {} 0 {} _ _ hRun 1 state hState { playerId := 1, inputSeq := 1 }
      (List.mem_singleton_self _) Nat.one_pos
    rw [hSeq] at hLess
    exact absurd hLess (by decide)

end InputPipeline

end DevyFps.Server
