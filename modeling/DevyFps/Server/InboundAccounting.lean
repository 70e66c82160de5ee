import DevyFps.Server.PacketHandling
import DevyFps.Server.TelemetryWindows

/-! What the receive handler of `main` notes of a packet, and what follows for the calls between
two reports. -/

namespace DevyFps.Server

open Foundations FloatFormat Net

variable {F : Type} [SingleFloat F]

/-- Whether a branch of the handler calls `mark_command_rejected`. -/
def PacketOutcome.commandRejected : PacketOutcome F → Bool
  | .join result => !result.accepted
  | .input _ status => status ≠ .accepted
  | .block _ outcome => !outcome.applied
  | .fire _ status => status ≠ .accepted
  | .pickup _ status => status ≠ .accepted
  | .heard => false
  | .rejected => true

namespace MainLoop

/-- What `send_packet` notes of the answers to a join; `sizeOf` gives the sizes of the packets. -/
def joinCalls (result : JoinResult) (sizeOf : MessageType → Nat) : List TelemetryCall :=
  if result.accepted then
    [.noteOutboundPacket .joinAccept (sizeOf .joinAccept),
      .noteOutboundPacket .matchState (sizeOf .matchState)]
  else [.noteOutboundPacket .joinAccept (sizeOf .joinAccept)]

def sendCalls (outcome : PacketOutcome F) (sizeOf : MessageType → Nat) : List TelemetryCall :=
  match outcome with
  | .join result => joinCalls result sizeOf
  | _ => []

/-- The branch of a weapon fire that leaves the case before its end. -/
def leavesEarly (s : MainLoop F) (peerToken : PeerToken) (type : MessageType) : Bool :=
  type = .weaponFire && (s.sessionManager.sessionForPeer peerToken).isSome &&
    (s.matchLifecycleSimulation.state s.tickInterval).phase ≠ .inMatch

/-- The telemetry calls of the case of a received packet, in their order. -/
def receiveCalls (parse : Bytes → Option (Document F)) (s : MainLoop F) (peerToken : PeerToken)
    (data : Bytes) (now : TimePoint) (sizeOf : MessageType → Nat) : List TelemetryCall :=
  .noteInboundPacketReceived ::
    match tryDeserialize parse data with
    | .error _ => [.noteInboundPacketDrop true]
    | .ok packet =>
        if s.leavesEarly peerToken packet.type then
          [.noteCommandRejected, .noteInboundPacketDrop false]
        else
          match s.receivePacket peerToken packet now with
          -- An access that failed would leave the loop; `accepted_packet_handled` excludes it.
          | .error _ => []
          | .ok (outcome, _) =>
              sendCalls outcome sizeOf ++
                if outcome.commandRejected then
                  [.noteCommandRejected, .noteInboundPacketDrop false]
                else []

end MainLoop

/-- The calls that only the receive handler makes. -/
def TelemetryCall.isInbound : TelemetryCall → Bool
  | .noteInboundPacketReceived => true
  | .noteInboundPacketDrop _ => true
  | .noteCommandRejected => true
  | _ => false

/-- Calls as the server makes them: those of the receive handler for one packet after the other,
and between two packets any others. -/
inductive Handled (parse : Bytes → Option (Document F)) : List TelemetryCall → Prop where
  | nil : Handled parse []
  | other {call : TelemetryCall} {rest : List TelemetryCall} (hOther : call.isInbound = false)
      (later : Handled parse rest) : Handled parse (call :: rest)
  | received (s : MainLoop F) (peerToken : PeerToken) (data : Bytes) (now : TimePoint)
      (sizeOf : MessageType → Nat) {rest : List TelemetryCall} (later : Handled parse rest) :
      Handled parse (s.receiveCalls parse peerToken data now sizeOf ++ rest)

/-- Every drop has its reason, and every reason a packet. -/
structure Balanced (calls : List TelemetryCall) : Prop where
  dropped : totalNoted calls .inboundDropped =
    totalNoted calls .parseErrors + totalNoted calls .commandRejections
  received : totalNoted calls .inboundDropped ≤ totalNoted calls .inboundReceived

namespace MainLoop

variable (parse : Bytes → Option (Document F)) (s : MainLoop F) (peerToken : PeerToken)
  (data : Bytes) (now : TimePoint) (sizeOf : MessageType → Nat)

/-- How the accounting of a packet ends: it was taken, could not be parsed, or was rejected. -/
def endings : List (List TelemetryCall) :=
  [[], [.noteInboundPacketDrop true], [.noteCommandRejected, .noteInboundPacketDrop false]]

theorem sendCalls_outbound (outcome : PacketOutcome F) :
    ∀ call ∈ sendCalls outcome sizeOf, ∃ type size,
      call = TelemetryCall.noteOutboundPacket type size := by
  intro call hCall
  cases outcome with
  | join result =>
      have hJoin : call ∈ joinCalls result sizeOf := hCall
      unfold joinCalls at hJoin
      split at hJoin
      · simp only [List.mem_cons, List.not_mem_nil, or_false] at hJoin
        rcases hJoin with rfl | rfl
        · exact ⟨_, _, rfl⟩
        · exact ⟨_, _, rfl⟩
      · exact ⟨_, _, List.mem_singleton.mp hJoin⟩
  | _ => cases hCall

/-- The calls of a packet: its receipt, what is sent in answer, and one of the endings. -/
theorem receiveCalls_cases : ∃ sent ending,
    (∀ call ∈ sent, ∃ type size, call = TelemetryCall.noteOutboundPacket type size) ∧
      ending ∈ endings ∧ s.receiveCalls parse peerToken data now sizeOf =
        .noteInboundPacketReceived :: (sent ++ ending) := by
  have hNothing : ∀ call ∈ ([] : List TelemetryCall), ∃ type size,
      call = TelemetryCall.noteOutboundPacket type size := by simp
  have hTaken : [] ∈ endings := List.mem_cons_self
  have hRejected : [.noteCommandRejected, .noteInboundPacketDrop false] ∈ endings := by
    simp [endings]
  unfold receiveCalls
  cases tryDeserialize parse data with
  | error error =>
      exact ⟨[], [.noteInboundPacketDrop true], hNothing, by simp [endings], rfl⟩
  | ok packet =>
      dsimp only
      cases s.leavesEarly peerToken packet.type with
      | true => exact ⟨[], _, hNothing, hRejected, rfl⟩
      | false =>
          cases s.receivePacket peerToken packet now with
          | error error => exact ⟨[], [], hNothing, hTaken, rfl⟩
          | ok handled =>
              obtain ⟨outcome, t⟩ := handled
              dsimp only
              cases outcome.commandRejected with
              | true => exact ⟨_, _, sendCalls_outbound sizeOf outcome, hRejected, rfl⟩
              | false => exact ⟨_, _, sendCalls_outbound sizeOf outcome, hTaken, rfl⟩

theorem totalNoted_sent {sent : List TelemetryCall}
    (hSent : ∀ call ∈ sent, ∃ type size, call = TelemetryCall.noteOutboundPacket type size)
    {counter : Counter}
    (hCounter : ∀ type size, (TelemetryCall.noteOutboundPacket type size).noted counter = 0) :
    totalNoted sent counter = 0 := by
  unfold totalNoted
  apply List.sum_eq_zero
  intro count hCount
  obtain ⟨call, hCall, rfl⟩ := List.mem_map.mp hCount
  obtain ⟨type, size, rfl⟩ := hSent call hCall
  exact hCounter type size

/-- The handler keeps the balance with each packet. -/
theorem receiveCalls_balanced : Balanced (s.receiveCalls parse peerToken data now sizeOf) := by
  obtain ⟨sent, ending, hSent, hEnding, hCalls⟩ :=
    s.receiveCalls_cases parse peerToken data now sizeOf
  have hTotal : ∀ counter,
      (∀ type size, (TelemetryCall.noteOutboundPacket type size).noted counter = 0) →
      totalNoted (.noteInboundPacketReceived :: (sent ++ ending)) counter =
        TelemetryCall.noteInboundPacketReceived.noted counter + totalNoted ending counter := by
    intro counter hCounter
    rw [← List.singleton_append, totalNoted_append, totalNoted_append,
      totalNoted_sent hSent hCounter, Nat.zero_add]
    simp [totalNoted]
  rw [hCalls]
  constructor
  · rw [hTotal .inboundDropped (fun _ _ => rfl), hTotal .parseErrors (fun _ _ => rfl),
      hTotal .commandRejections (fun _ _ => rfl)]
    simp only [endings, List.mem_cons, List.not_mem_nil, or_false] at hEnding
    rcases hEnding with rfl | rfl | rfl
    · rfl
    · rfl
    · rfl
  · rw [hTotal .inboundDropped (fun _ _ => rfl), hTotal .inboundReceived (fun _ _ => rfl)]
    simp only [endings, List.mem_cons, List.not_mem_nil, or_false] at hEnding
    rcases hEnding with rfl | rfl | rfl
    · exact Nat.zero_le 1
    · exact le_rfl
    · exact le_rfl

/-- No tick ends inside the handler. -/
theorem endTick_not_received (finishedAt : TimePoint) :
    .endTick finishedAt ∉ s.receiveCalls parse peerToken data now sizeOf := by
  obtain ⟨sent, ending, hSent, hEnding, hCalls⟩ :=
    s.receiveCalls_cases parse peerToken data now sizeOf
  rw [hCalls]
  intro hMem
  simp only [endings, List.mem_cons, List.not_mem_nil, or_false] at hEnding
  rcases List.mem_cons.mp hMem with hFirst | hLater
  · cases hFirst
  · rcases List.mem_append.mp hLater with hOut | hEnd
    · obtain ⟨type, size, hCall⟩ := hSent _ hOut
      cases hCall
    · rcases hEnding with rfl | rfl | rfl
      · cases hEnd
      · simp at hEnd
      · simp at hEnd

end MainLoop

variable {parse : Bytes → Option (Document F)} {calls : List TelemetryCall}

theorem Balanced.append {first later : List TelemetryCall} (hFirst : Balanced first)
    (hLater : Balanced later) : Balanced (first ++ later) := by
  obtain ⟨hFirstDropped, hFirstReceived⟩ := hFirst
  obtain ⟨hLaterDropped, hLaterReceived⟩ := hLater
  constructor
  · simp only [totalNoted_append]
    omega
  · simp only [totalNoted_append]
    omega

/-- What the server notes is balanced. -/
theorem Handled.balanced (h : Handled parse calls) : Balanced calls := by
  induction h with
  | nil => exact ⟨rfl, le_rfl⟩
  | @other call rest hOther later ih =>
      have hCall : Balanced [call] := by
        cases call with
        | noteInboundPacketReceived => cases hOther
        | noteInboundPacketDrop parseError => cases hOther
        | noteCommandRejected => cases hOther
        | _ => exact ⟨rfl, le_rfl⟩
      exact hCall.append ih
  | received s peerToken data now sizeOf later ih =>
      exact (s.receiveCalls_balanced parse peerToken data now sizeOf).append ih

/-- The end of a tick falls between two packets. -/
theorem Handled.split {before after : List TelemetryCall} {finishedAt : TimePoint}
    (h : Handled parse calls) (hCalls : calls = before ++ .endTick finishedAt :: after) :
    Handled parse (before ++ [.endTick finishedAt]) ∧ Handled parse after := by
  induction h generalizing before with
  | nil => exact absurd hCalls (by simp)
  | @other call rest hOther later ih =>
      cases before with
      | nil =>
          obtain ⟨rfl, rfl⟩ := List.cons.inj hCalls
          exact ⟨Handled.nil.other hOther, later⟩
      | cons first before =>
          obtain ⟨rfl, hRest⟩ := List.cons.inj hCalls
          obtain ⟨hBefore, hAfter⟩ := ih hRest
          exact ⟨hBefore.other hOther, hAfter⟩
  | @received s peerToken data now sizeOf rest later ih =>
      have hEnd := s.endTick_not_received parse peerToken data now sizeOf finishedAt
      obtain ⟨middle, rfl, hRest⟩ := split_after_append hCalls hEnd
      obtain ⟨hBefore, hAfter⟩ := ih hRest
      rw [List.append_assoc]
      exact ⟨hBefore.received s peerToken data now sizeOf, hAfter⟩

end DevyFps.Server
