import DevyFps.Client.EventReading
import DevyFps.Server.Conversations

/-! The events of the ticks on their way to one player. As long as its session and its
connection last, each event of each tick reaches it with the first snapshot that is due. -/

namespace DevyFps.Replication

open Foundations Net Client Server
open Server.MainLoop (LoopEvent LoopStep)
open Server.ServerHost (HostStep)

variable {F : Type} [SingleFloat F]

/-- The events that a tick has to tell. -/
def tickEvents (record : ServerTick F) : List (Document F) := (record.appendOutputs []).1

theorem appendOutputs_eq (record : ServerTick F) (pending : List (Document F)) :
    (record.appendOutputs pending).1 = pending ++ tickEvents record := by
  simp [tickEvents, ServerTick.appendOutputs, appendCombatOutputs, List.append_assoc]

/-- What a step of the host puts aside for the snapshots, and whether one is due. -/
def posting (event : HostEvent F) : Posting (Document F) :=
  match event.event with
  | .ticked record => ⟨tickEvents record, record.frame.snapshotDue⟩
  | _ => ⟨[], false⟩

/-- The events in the snapshots that a peer is sent in a step, as its event feed reads them. -/
def snapshotBatch (peerToken : PeerToken) (event : HostEvent F) : List (List (Document F)) :=
  ((sentTo peerToken event.sent).filter fun packet => packet.type = .stateSnapshot).map
    fun packet => snapshotEvents packet.payload

/-- An event that neither ends the session of a peer nor its connection. -/
def StaysIn (peerToken : PeerToken) : LoopEvent F → Prop
  | .disconnected other _ => other ≠ peerToken
  | .timedOut sessions => peerToken ∉ sessions.map SessionView.peerToken
  | _ => True

variable {settings : OutboundSettings F} {s t : ServerHost F} {peerToken : PeerToken}

theorem snapshotEvents_snapshotFor (loop : MainLoop F) (settings : OutboundSettings F)
    (record : ServerTick F) (events : List (Document F)) (update : PlayerWorldUpdate) :
    snapshotEvents (loop.snapshotFor settings record events update).payload = events := rfl

/-- The snapshot of a tick, for a peer that listens. -/
theorem snapshotBatch_tick (hTables : s.loop.sessionManager.TablesAgree) {record : ServerTick F}
    (hUpdates : record.frame.snapshotDue = true →
      List.Forall₂ (fun session update => update.playerId = session.playerId)
        s.loop.listeners record.updates)
    (hListens : (s.loop.listenerId peerToken).isSome = true) :
    snapshotBatch peerToken ⟨.ticked record, s.tickPackets settings record⟩ =
      Outbox.batch s.pendingSnapshotEvents ⟨tickEvents record, record.frame.snapshotDue⟩ := by
  obtain ⟨playerId, hId⟩ := Option.isSome_iff_exists.mp hListens
  unfold snapshotBatch Outbox.batch
  dsimp only
  rw [ServerHost.sentTo_tickPackets hTables hUpdates, hId]
  dsimp only
  rw [ServerHost.filter_packetsFor]
  split
  · rename_i hDue
    obtain ⟨update, -, hOnly⟩ := ServerHost.exists_update hTables (hUpdates hDue) hId
    rw [hOnly, List.map_singleton, List.map_singleton, snapshotEvents_snapshotFor,
      appendOutputs_eq]
  · rfl

/-- No answer to a join request is a snapshot. -/
theorem snapshotBatch_join (asker : PeerToken) (packet : Server.Packet F) (result : JoinResult)
    (loop : MainLoop F) :
    snapshotBatch peerToken ⟨.received asker packet (.join result),
      (settings.joinAnswer result loop).map fun packet => ⟨asker, packet⟩⟩ = [] := by
  unfold snapshotBatch
  dsimp only
  rw [sentTo_answer]
  unfold OutboundSettings.joinAnswer
  split
  · split
    · rfl
    · rfl
  · rfl

/-- A peer that listens gets the events that wait with every snapshot that is due. -/
theorem delivery_step {event : HostEvent F} (hTables : s.loop.sessionManager.TablesAgree)
    (hStep : HostStep settings s event t)
    (hListens : (s.loop.listenerId peerToken).isSome = true) :
    t.pendingSnapshotEvents = Outbox.after s.pendingSnapshotEvents (posting event) ∧
      snapshotBatch peerToken event = Outbox.batch s.pendingSnapshotEvents (posting event) := by
  cases hStep with
  | mk event loop hStep =>
      cases event with
      | ticked record =>
          obtain ⟨frame, rest, -, hRecord, -⟩ := MainLoop.ticked_of_step hStep
          refine ⟨?_, snapshotBatch_tick hTables ?_ hListens⟩
          · unfold ServerHost.tell posting Outbox.after
            dsimp only
            rw [appendOutputs_eq]
          · rw [hRecord, MainLoop.frame_runFrame]
            exact ServerHost.updates_of_due s.loop
      | received asker packet outcome =>
          cases outcome with
          | join result =>
              exact ⟨(List.append_nil _).symm, snapshotBatch_join asker packet result loop⟩
          | _ => exact ⟨(List.append_nil _).symm, rfl⟩
      | _ => exact ⟨(List.append_nil _).symm, rfl⟩

/-- A peer that listens goes on listening until its session or its connection ends. -/
theorem listens_step {event : HostEvent F} (hTables : s.loop.sessionManager.TablesAgree)
    (hStep : HostStep settings s event t) (hStays : StaysIn peerToken event.event)
    (hListens : (s.loop.listenerId peerToken).isSome = true) :
    (t.loop.listenerId peerToken).isSome = true := by
  obtain ⟨hSeat, hPeer⟩ := MainLoop.peer_step hTables hStep.loopStep peerToken
  have hBefore : decide (peerToken ∈ s.loop.peersByToken) = true ∧
      (s.loop.sessionManager.seat peerToken).isSome = true := by
    unfold MainLoop.listenerId at hListens
    split at hListens
    · rename_i hConnected
      exact ⟨decide_eq_true hConnected, hListens⟩
    · cases hListens
  have hAfter : decide (peerToken ∈ t.loop.peersByToken) = true ∧
      (t.loop.sessionManager.seat peerToken).isSome = true := by
    rw [hSeat, hPeer, hBefore.1]
    generalize event.event = happened at hStays
    unfold MainLoop.connectedAfter MainLoop.seatAfter
    cases happened with
    | received asker packet outcome =>
        cases outcome with
        | join result =>
            refine ⟨rfl, ?_⟩
            dsimp only
            split
            · rfl
            · exact hBefore.2
        | _ => exact ⟨rfl, hBefore.2⟩
    | disconnected other session =>
        have hOther : other ≠ peerToken := hStays
        simp only [hOther, ne_eq, not_false_eq_true, decide_true, Bool.and_self, if_false]
        exact ⟨trivial, hBefore.2⟩
    | timedOut sessions =>
        have hOther : peerToken ∉ sessions.map SessionView.peerToken := hStays
        simp only [hOther, not_false_eq_true, decide_true, Bool.and_self, if_false]
        exact ⟨trivial, hBefore.2⟩
    | connected other => exact ⟨Bool.or_true _, hBefore.2⟩
    | _ => exact ⟨rfl, hBefore.2⟩
  unfold MainLoop.listenerId
  rw [if_pos (of_decide_eq_true hAfter.1)]
  exact hAfter.2

/-- What the snapshots of a peer's stay bring it. -/
structure DeliveredOnce (peerToken : PeerToken) (s : ServerHost F) (trace : List (HostEvent F))
    (t : ServerHost F) : Prop where
  /-- Every event once, in the order of the ticks, or it still waits. -/
  all : (trace.flatMap (snapshotBatch peerToken)).flatten ++ t.pendingSnapshotEvents =
    s.pendingSnapshotEvents ++ trace.flatMap fun event => (posting event).added
  /-- A snapshot brings the events of the ticks since the one before it. -/
  prompt : ∀ earlier first between last later,
    trace = earlier ++ first :: between ++ last :: later →
      (posting first).emptied = true → (posting last).emptied = true →
        (∀ event ∈ between, (posting event).emptied = false) →
          snapshotBatch peerToken last =
            [(between.flatMap fun event => (posting event).added) ++ (posting last).added]

/-- The snapshots of a stay take the outbox away batch by batch. -/
theorem delivery_run {trace : List (HostEvent F)} (run : Run (HostStep settings) s trace t)
    (hTables : s.loop.sessionManager.TablesAgree)
    (hListens : (s.loop.listenerId peerToken).isSome = true)
    (hStays : ∀ event ∈ trace, StaysIn peerToken event.event) :
    t.loop.sessionManager.TablesAgree ∧ (t.loop.listenerId peerToken).isSome = true ∧
      t.pendingSnapshotEvents =
        Outbox.waitingAfter s.pendingSnapshotEvents (trace.map posting) ∧
      trace.flatMap (snapshotBatch peerToken) =
        Outbox.batches s.pendingSnapshotEvents (trace.map posting) := by
  induction run with
  | nil => exact ⟨hTables, hListens, rfl, rfl⟩
  | @snoc middle final trace event prior last ih =>
      obtain ⟨hMiddle, hStill, hWaiting, hBatches⟩ :=
        ih fun event hMem => hStays event (List.mem_append_left _ hMem)
      obtain ⟨hAfter, hBatch⟩ := delivery_step hMiddle last hStill
      refine ⟨(MainLoop.run_deeds (Run.single last.loopStep) hMiddle).1,
        listens_step hMiddle last (hStays event (by simp)) hStill, ?_, ?_⟩
      · rw [hAfter, hWaiting, List.map_append, Outbox.waitingAfter_append]
        rfl
      · rw [List.flatMap_append, hBatches, List.map_append, Outbox.batches_append, ← hWaiting]
        simp [Outbox.batches, hBatch]

/-- From any moment on, a player that stays hears of every event of every tick once, in order,
with the first snapshot that is due. -/
theorem events_delivered_once {setup : ServerSetup F} {before trace : List (HostEvent F)}
    (hBefore : Run (HostStep settings) (ServerHost.create setup) before s)
    (run : Run (HostStep settings) s trace t)
    (hListens : (s.loop.listenerId peerToken).isSome = true)
    (hStays : ∀ event ∈ trace, StaysIn peerToken event.event) :
    DeliveredOnce peerToken s trace t := by
  have hTables := ServerHost.tables_run hBefore
  obtain ⟨-, -, hWaiting, hBatches⟩ := delivery_run run hTables hListens hStays
  constructor
  · rw [hWaiting, hBatches, Outbox.flatten_batches_append, List.flatMap_map]
  · rintro earlier first between last later rfl hFirst hLast hBetween
    rw [show earlier ++ first :: between ++ last :: later =
      (earlier ++ first :: between) ++ last :: later by simp] at run
    obtain ⟨middle, after, hPrior, hStep, -⟩ := run.around
    obtain ⟨hMiddle, hStill, hUntold, -⟩ := delivery_run hPrior hTables hListens
      fun event hMem => hStays event (by simp at hMem ⊢; tauto)
    have hSince : middle.pendingSnapshotEvents =
        between.flatMap fun event => (posting event).added := by
      rw [hUntold, List.map_append, List.map_cons, Outbox.waitingAfter_emptied _ _ hFirst,
        List.flatMap_map]
      intro put hPut
      obtain ⟨event, hEvent, rfl⟩ := List.mem_map.mp hPut
      exact hBetween event hEvent
    rw [(delivery_step hMiddle hStep hStill).2, hSince]
    unfold Outbox.batch
    rw [if_pos hLast]

open Server.ServerHost (duelSettings welcomed run_welcomed)

/-- The match of a single player is over in the first tick after its join, and the snapshot of the
second tick tells of it. -/
theorem events_delivered_once_over :
    ∃ (trace : List (HostEvent ℚ)) (t : ServerHost ℚ),
      DeliveredOnce 101 welcomed trace t ∧
        (trace.flatMap (snapshotBatch 101)).map List.length = [1] ∧
        t.pendingSnapshotEvents = [] := by
  obtain ⟨before, hBefore, -⟩ := run_welcomed
  obtain ⟨first, hFirst, hTold⟩ := MainLoop.exists_tickNext (s := welcomed.loop.advance 66666666)
    (p := fun record => (tickEvents record).length == 1 && !record.frame.snapshotDue)
    (by decide +kernel)
  obtain ⟨second, hSecond, hDue⟩ := MainLoop.exists_tickNext
    (s := (welcomed.loop.advance 66666666).tickNext)
    (p := fun record => (tickEvents record).isEmpty && record.frame.snapshotDue)
    (by decide +kernel)
  simp only [Bool.and_eq_true, beq_iff_eq, List.isEmpty_iff, Bool.not_eq_true'] at hTold hDue
  have hAdvance : HostStep duelSettings welcomed _ _ :=
    .mk welcomed .advanced _ (.advance welcomed.loop 66666666 rfl)
  obtain ⟨trace, t, run, hEvents, hPostings⟩ : ∃ trace t,
      Run (HostStep duelSettings) welcomed trace t ∧
        trace.map HostEvent.event = [.advanced, .ticked first, .ticked second] ∧
        trace.map posting =
          [⟨[], false⟩, ⟨tickEvents first, first.frame.snapshotDue⟩,
            ⟨tickEvents second, second.frame.snapshotDue⟩] :=
    ⟨_, _, ((Run.single hAdvance).snoc (.mk _ (.ticked first) _ hFirst)).snoc
      (.mk _ (.ticked second) _ hSecond), rfl, rfl⟩
  have hListens : (welcomed.loop.listenerId 101).isSome = true := by decide +kernel
  have hStays : ∀ event ∈ trace, StaysIn 101 event.event := by
    intro event hEvent
    have hMem := List.mem_map_of_mem (f := HostEvent.event) hEvent
    rw [hEvents] at hMem
    simp only [List.mem_cons, List.not_mem_nil, or_false] at hMem
    rcases hMem with hEq | hEq | hEq <;> rw [hEq] <;> trivial
  obtain ⟨-, -, hWaiting, hBatches⟩ :=
    delivery_run run (ServerHost.tables_run hBefore) hListens hStays
  have hNone : welcomed.pendingSnapshotEvents = [] := rfl
  refine ⟨trace, t, events_delivered_once hBefore run hListens hStays, ?_, ?_⟩
  · rw [hBatches, hPostings, hNone]
    simp [Outbox.batches, Outbox.batch, Outbox.after, hTold, hDue]
  · rw [hWaiting, hPostings]
    simp [Outbox.waitingAfter, Outbox.after, hDue]

end DevyFps.Replication
