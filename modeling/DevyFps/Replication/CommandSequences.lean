import DevyFps.Server.CommandNumbers
import DevyFps.Server.FreshIdentity

/-! The server and the clients that are connected to it, over a transport that loses and
reorders nothing. A client numbers its inputs, shots and pickups one after the other and
starts again at 1 whenever a join of it is accepted. -/

namespace DevyFps.Replication

open Foundations Server
open Server.MainLoop (LoopEvent LoopStep)

/-- The counters of a client, with the first numbers of a new one. That they do not wrap is
part of numbering consecutively. -/
structure SequenceCounters where
  nextInputSeq : Nat := 1
  nextShotSeq : Nat := 1
  nextPickupSeq : Nat := 1
  positive : 0 < nextInputSeq ∧ 0 < nextShotSeq ∧ 0 < nextPickupSeq := by decide

namespace SequenceCounters

def next (counters : SequenceCounters) : CommandKind → Nat
  | .input => counters.nextInputSeq
  | .fire => counters.nextShotSeq
  | .pickup => counters.nextPickupSeq

/-- The counters after a command was numbered. -/
def advance (counters : SequenceCounters) : CommandKind → SequenceCounters
  | .input =>
      { counters with
        nextInputSeq := counters.nextInputSeq + 1
        positive := ⟨Nat.succ_pos _, counters.positive.2⟩ }
  | .fire =>
      { counters with
        nextShotSeq := counters.nextShotSeq + 1
        positive := ⟨counters.positive.1, Nat.succ_pos _, counters.positive.2.2⟩ }
  | .pickup =>
      { counters with
        nextPickupSeq := counters.nextPickupSeq + 1
        positive := ⟨counters.positive.1, counters.positive.2.1, Nat.succ_pos _⟩ }

/-- No number is zero. -/
theorem next_pos (counters : SequenceCounters) (kind : CommandKind) : 0 < counters.next kind := by
  cases kind with
  | input => exact counters.positive.1
  | fire => exact counters.positive.2.1
  | pickup => exact counters.positive.2.2

/-- A number that is used is not used again, and the other kinds go on as before. -/
theorem next_advance (counters : SequenceCounters) (kind other : CommandKind) :
    (counters.advance kind).next other =
      if other = kind then counters.next kind + 1 else counters.next other := by
  cases kind <;> cases other <;> rfl

theorem next_default (kind : CommandKind) : ({} : SequenceCounters).next kind = 1 := by
  cases kind <;> rfl

end SequenceCounters

variable {F : Type} [SingleFloat F]

/-- The kind of numbered command that a message carries, readable or not. -/
def commandKind : Message F → Option CommandKind
  | .playerInput _ => some .input
  | .weaponFire _ => some .fire
  | .treasurePickup _ => some .pickup
  | _ => none

theorem number_of_commandKind {message : Message F} {kind : CommandKind}
    (h : commandKind message ≠ some kind) : message.number kind = none := by
  cases message with
  | playerInput command =>
      cases kind with
      | input => exact absurd rfl h
      | _ => rfl
  | weaponFire command =>
      cases kind with
      | fire => exact absurd rfl h
      | _ => rfl
  | treasurePickup command =>
      cases kind with
      | pickup => exact absurd rfl h
      | _ => rfl
  | _ => cases kind <;> rfl

/-- The number that a packet carries. -/
def packetNumber (kind : CommandKind) : Packet F → Option Nat
  | .joinRequest _ => none
  | .message message => message.number kind

/-- What a packet is answered that bears on the counters: a join is accepted or rejected. -/
def answersTo : PacketOutcome F → List JoinResult
  | .join result => [result]
  | _ => []

/-- A client with what is under way between it and the server. -/
structure Connection (F : Type) [SingleFloat F] where
  counters : SequenceCounters := {}
  toServer : List (Packet F) := []
  toClient : List JoinResult := []

namespace Connection

/-- The client puts a packet on its way. -/
def send (connection : Connection F) (packet : Packet F) : Connection F :=
  { connection with toServer := connection.toServer ++ [packet] }

/-- The client puts a message on its way, and counts it if it is numbered. -/
def sendMessage (connection : Connection F) (message : Message F) : Connection F :=
  { connection.send (.message message) with
    counters := ((commandKind message).map connection.counters.advance).getD connection.counters }

/-- What `join_accept` does to the counters. -/
def takeAnswer (connection : Connection F) (result : JoinResult) : Connection F :=
  { connection with
    counters := if result.accepted then {} else connection.counters
    toClient := connection.toClient.tail }

/-- The server takes the first packet. -/
def deliver (connection : Connection F) (outcome : PacketOutcome F) : Connection F :=
  { connection with
    toServer := connection.toServer.tail
    toClient := connection.toClient ++ answersTo outcome }

/-- The numbers of one kind that are under way. -/
def sent (connection : Connection F) (kind : CommandKind) : List Nat :=
  connection.toServer.filterMap (packetNumber kind)

/-- A sent packet adds its number to those of its kind. -/
theorem sent_send (connection : Connection F) (packet : Packet F) (kind : CommandKind) :
    (connection.send packet).sent kind =
      connection.sent kind ++ (packetNumber kind packet).toList := by
  unfold sent send
  rw [List.filterMap_append]
  cases hFound : packetNumber kind packet with
  | none => rw [List.filterMap_cons_none hFound]; rfl
  | some number => rw [List.filterMap_cons_some hFound]; rfl

/-- Every join request of the client has been answered. -/
def Answered (connection : Connection F) : Prop :=
  connection.toClient = [] ∧ ∀ playerName, .joinRequest playerName ∉ connection.toServer

end Connection

/-- The server, and the client of every peer that is connected. -/
structure Network (F : Type) [SingleFloat F] where
  server : MainLoop F
  connections : PeerToken → Option (Connection F)

inductive NetworkEvent (F : Type) [SingleFloat F] where
  | server (event : LoopEvent F)
  | sent (peerToken : PeerToken) (packet : Packet F)
  | answered (peerToken : PeerToken) (result : JoinResult)

/-- Events of the loop that no packet and no connection is behind. -/
def isInternal : LoopEvent F → Bool
  | .timedOut _ => true
  | .advanced => true
  | .ticked _ => true
  | .reordered => true
  | _ => false

namespace Network

def create (setup : ServerSetup F) : Network F where
  server := .create setup
  connections _ := none

/-- The network with the connection of one peer replaced. -/
def update (s : Network F) (peerToken : PeerToken) (connection : Option (Connection F)) :
    Network F :=
  { s with connections := Function.update s.connections peerToken connection }

@[simp]
theorem connections_update_self (s : Network F) (peerToken : PeerToken)
    (connection : Option (Connection F)) :
    (s.update peerToken connection).connections peerToken = connection :=
  Function.update_self _ _ _

theorem connections_update_of_ne (s : Network F) {peerToken peer : PeerToken}
    (h : peer ≠ peerToken) (connection : Option (Connection F)) :
    (s.update peerToken connection).connections peer = s.connections peer :=
  Function.update_of_ne h _ _

/-- The steps of the server, of the clients and of the transport. A client keeps its counters
when its connection ends. -/
inductive NetworkStep : Network F → NetworkEvent F → Network F → Prop where
  | connect (s : Network F) (peerToken : PeerToken) (counters : SequenceCounters)
      (server : MainLoop F) (hNew : s.connections peerToken = none)
      (hStep : LoopStep s.server (.connected peerToken) server) :
      NetworkStep s (.server (.connected peerToken))
        ({ s with server }.update peerToken (some { counters }))
  | requestJoin (s : Network F) (peerToken : PeerToken) (connection : Connection F)
      (playerName : PlayerName) (hOpen : s.connections peerToken = some connection) :
      NetworkStep s (.sent peerToken (.joinRequest playerName))
        (s.update peerToken (some (connection.send (.joinRequest playerName))))
  | sendMessage (s : Network F) (peerToken : PeerToken) (connection : Connection F)
      (message : Message F) (hOpen : s.connections peerToken = some connection)
      (hNumber : ∀ kind number, message.number kind = some number →
        number = connection.counters.next kind) :
      NetworkStep s (.sent peerToken (.message message))
        (s.update peerToken (some (connection.sendMessage message)))
  | receive (s : Network F) (peerToken : PeerToken) (connection : Connection F)
      (packet : Packet F) (outcome : PacketOutcome F) (server : MainLoop F)
      (hOpen : s.connections peerToken = some connection)
      (hFirst : connection.toServer.head? = some packet)
      (hStep : LoopStep s.server (.received peerToken packet outcome) server) :
      NetworkStep s (.server (.received peerToken packet outcome))
        ({ s with server }.update peerToken (some (connection.deliver outcome)))
  | takeAnswer (s : Network F) (peerToken : PeerToken) (connection : Connection F)
      (result : JoinResult) (hOpen : s.connections peerToken = some connection)
      (hFirst : connection.toClient.head? = some result) :
      NetworkStep s (.answered peerToken result)
        (s.update peerToken (some (connection.takeAnswer result)))
  | disconnect (s : Network F) (peerToken : PeerToken) (session : Option SessionView)
      (server : MainLoop F) (hStep : LoopStep s.server (.disconnected peerToken session) server) :
      NetworkStep s (.server (.disconnected peerToken session))
        ({ s with server }.update peerToken none)
  | run (s : Network F) (event : LoopEvent F) (server : MainLoop F)
      (hInternal : isInternal event = true) (hStep : LoopStep s.server event server) :
      NetworkStep s (.server event) { s with server }

/-- No client sends a numbered command while a join request of it waits for its answer. -/
def Patient (s : Network F) : NetworkEvent F → Prop
  | .sent peerToken (.message message) =>
      commandKind message ≠ none → ∀ connection, s.connections peerToken = some connection →
        connection.Answered
  | _ => True

/-- An accepted join finds no pickup number on record for its player id, and if the peer has
its session already, no input and no shot number either. -/
def Forgetful (s : Network F) : NetworkEvent F → Prop
  | .server (.received _ _ (.join result)) =>
      result.accepted = true →
        ∀ kind, kind = .pickup ∨ s.server.sessionManager.Seated result.session.playerId →
          ∀ number ∈ s.server.numbers kind result.session.playerId, number = 0
  | _ => True

end Network

/-- What holds of a connection between the steps. Behind a join request nothing numbered is
under way, and what is on record for the player has been passed by all that is to come. -/
structure InStep (server : MainLoop F) (peerToken : PeerToken) (connection : Connection F) :
    Prop where
  increasing : ∀ kind, (connection.sent kind).Pairwise (· < ·)
  counted : ∀ kind, ∀ number ∈ connection.sent kind, number < connection.counters.next kind
  quiet : connection.toClient ≠ [] → ∀ kind, connection.sent kind = []
  behindJoin : connection.toServer.Pairwise fun earlier later =>
    ∀ playerName, earlier = .joinRequest playerName → ∀ kind, packetNumber kind later = none
  passed : ∀ playerId, server.sessionManager.seat peerToken = some playerId →
    ∀ kind, ∀ earlier ∈ server.numbers kind playerId,
      earlier < connection.counters.next kind ∧ ∀ number ∈ connection.sent kind, earlier < number
  restarted : ∀ playerId, server.sessionManager.seat peerToken = some playerId →
    ∀ result ∈ connection.toClient, result.accepted = true →
      ∀ kind, ∀ number ∈ server.numbers kind playerId, number = 0

namespace InStep

variable {server server' : MainLoop F} {peerToken : PeerToken} {connection : Connection F}

/-- A new connection, and no session of its peer. -/
theorem opened (counters : SequenceCounters)
    (hNew : server.sessionManager.seat peerToken = none) :
    InStep server peerToken ({ counters } : Connection F) where
  increasing _ := List.Pairwise.nil
  counted _ _ hNumber := absurd hNumber List.not_mem_nil
  quiet _ _ := rfl
  behindJoin := List.Pairwise.nil
  passed _ hSeat := by
    rw [hNew] at hSeat
    cases hSeat
  restarted _ hSeat := by
    rw [hNew] at hSeat
    cases hSeat

/-- The server does something that is not about the peer. -/
theorem undisturbed (h : InStep server peerToken connection)
    (hOthers : ∀ playerId, server'.sessionManager.seat peerToken = some playerId →
      server.sessionManager.seat peerToken = some playerId ∧
        ∀ kind, server'.numbers kind playerId ⊆ server.numbers kind playerId) :
    InStep server' peerToken connection where
  increasing := h.increasing
  counted := h.counted
  quiet := h.quiet
  behindJoin := h.behindJoin
  passed playerId hSeat kind earlier hEarlier := by
    obtain ⟨hBefore, hSubset⟩ := hOthers playerId hSeat
    exact h.passed playerId hBefore kind earlier (hSubset kind hEarlier)
  restarted playerId hSeat result hResult hAccepted kind number hNumber := by
    obtain ⟨hBefore, hSubset⟩ := hOthers playerId hSeat
    exact h.restarted playerId hBefore result hResult hAccepted kind number
      (hSubset kind hNumber)

/-- The client sends something without a number. -/
theorem send (h : InStep server peerToken connection) {packet : Packet F}
    (hPlain : ∀ kind, packetNumber kind packet = none) :
    InStep server peerToken (connection.send packet) := by
  have hSent : ∀ kind, (connection.send packet).sent kind = connection.sent kind := by
    intro kind
    rw [connection.sent_send, hPlain, Option.toList_none, List.append_nil]
  constructor
  · intro kind
    rw [hSent]
    exact h.increasing kind
  · intro kind number hNumber
    rw [hSent] at hNumber
    exact h.counted kind number hNumber
  · intro hWaits kind
    rw [hSent]
    exact h.quiet hWaits kind
  · refine List.pairwise_append.mpr ⟨h.behindJoin, List.pairwise_singleton _ _, ?_⟩
    intro earlier _ later hLater _ _ kind
    rw [List.mem_singleton.mp hLater]
    exact hPlain kind
  · intro playerId hSeat kind earlier hEarlier
    rw [hSent]
    exact h.passed playerId hSeat kind earlier hEarlier
  · exact h.restarted

/-- The client numbers a command, with no join request of it unanswered. -/
theorem sendNumbered (h : InStep server peerToken connection) (hAnswered : connection.Answered)
    {message : Message F} {kind : CommandKind} (hKind : commandKind message = some kind)
    (hNumber : ∀ kind number, message.number kind = some number →
      number = connection.counters.next kind) :
    InStep server peerToken (connection.sendMessage message) := by
  have hSent : ∀ other, (connection.sendMessage message).sent other =
      connection.sent other ++ (message.number other).toList :=
    connection.sent_send (.message message)
  have hCounters : (connection.sendMessage message).counters = connection.counters.advance kind := by
    unfold Connection.sendMessage
    rw [hKind]
    rfl
  have hLater : ∀ other, connection.counters.next other ≤
      (connection.counters.advance kind).next other := by
    intro other
    rw [SequenceCounters.next_advance]
    split
    · rename_i hSame
      rw [hSame]
      exact Nat.le_succ _
    · exact Nat.le_refl _
  have hNew : ∀ other, ∀ number ∈ (message.number other).toList,
      number = connection.counters.next other ∧
        number < (connection.counters.advance kind).next other := by
    intro other number hMem
    have hFound := Option.mem_toList.mp hMem
    have hOther : other = kind := by
      by_contra hNe
      rw [number_of_commandKind (by rw [hKind]; exact fun hSame => hNe (Option.some.inj hSame).symm)]
        at hFound
      cases hFound
    refine ⟨hNumber other number hFound, ?_⟩
    rw [SequenceCounters.next_advance, if_pos hOther, ← hOther, hNumber other number hFound]
    exact Nat.lt_succ_self _
  have hNothing : (connection.sendMessage message).toClient = [] := hAnswered.1
  constructor
  · intro other
    rw [hSent]
    refine List.pairwise_append.mpr ⟨h.increasing other, ?_, fun earlier hEarlier number hMem => ?_⟩
    · cases message.number other with
      | none => exact List.Pairwise.nil
      | some number => exact List.pairwise_singleton _ _
    · rw [(hNew other number hMem).1]
      exact h.counted other earlier hEarlier
  · intro other number hMem
    rw [hSent] at hMem
    rw [hCounters]
    rcases List.mem_append.mp hMem with hOld | hMem
    · exact (h.counted other number hOld).trans_le (hLater other)
    · exact (hNew other number hMem).2
  · exact fun hWaits => absurd hNothing hWaits
  · refine List.pairwise_append.mpr ⟨h.behindJoin, List.pairwise_singleton _ _, ?_⟩
    intro earlier hEarlier later _ playerName hJoin
    exact absurd (hJoin ▸ hEarlier) (hAnswered.2 playerName)
  · intro playerId hSeat other earlier hEarlier
    obtain ⟨hNext, hPassed⟩ := h.passed playerId hSeat other earlier hEarlier
    rw [hSent, hCounters]
    refine ⟨hNext.trans_le (hLater other), fun number hMem => ?_⟩
    rcases List.mem_append.mp hMem with hOld | hMem
    · exact hPassed number hOld
    · rw [(hNew other number hMem).1]
      exact hNext
  · intro playerId _ result hResult
    rw [hNothing] at hResult
    cases hResult

/-- A message goes out in step. -/
theorem sendMessage (h : InStep server peerToken connection) {message : Message F}
    (hAnswered : commandKind message ≠ none → connection.Answered)
    (hNumber : ∀ kind number, message.number kind = some number →
      number = connection.counters.next kind) :
    InStep server peerToken (connection.sendMessage message) := by
  cases hKind : commandKind message with
  | none =>
      have hPlain : ∀ kind, packetNumber kind (.message message) = none := by
        intro kind
        refine number_of_commandKind ?_
        rw [hKind]
        exact (Option.some_ne_none kind).symm
      unfold Connection.sendMessage
      rw [hKind]
      exact h.send hPlain
  | some kind =>
      exact h.sendNumbered (hAnswered (hKind ▸ Option.some_ne_none kind)) hKind hNumber

/-- The client reads the answer to a join request. -/
theorem takeAnswer (h : InStep server peerToken connection) {result : JoinResult}
    (hFirst : connection.toClient.head? = some result) :
    InStep server peerToken (connection.takeAnswer result) := by
  have hMem : result ∈ connection.toClient := List.mem_of_head? hFirst
  have hQuiet : ∀ kind, (connection.takeAnswer result).sent kind = [] :=
    h.quiet (List.ne_nil_of_mem hMem)
  constructor
  · intro kind
    rw [hQuiet]
    exact List.Pairwise.nil
  · intro kind number hNumber
    rw [hQuiet] at hNumber
    cases hNumber
  · exact fun _ => hQuiet
  · exact h.behindJoin
  · intro playerId hSeat kind earlier hEarlier
    rw [hQuiet]
    refine ⟨?_, fun number hNumber => absurd hNumber List.not_mem_nil⟩
    unfold Connection.takeAnswer
    dsimp only
    split
    · rename_i hAccepted
      rw [h.restarted playerId hSeat result hMem hAccepted kind earlier hEarlier,
        SequenceCounters.next_default]
      exact Nat.one_pos
    · exact (h.passed playerId hSeat kind earlier hEarlier).1
  · intro playerId hSeat other hOther
    exact h.restarted playerId hSeat other (List.mem_of_mem_tail hOther)

/-- The server hears a message of the client; a command in it is not out of order. -/
theorem deliverMessage (h : InStep server peerToken connection) (hCast : server.Cast)
    {message : Message F} {outcome : PacketOutcome F}
    (hFirst : connection.toServer.head? = some (.message message))
    (hStep : LoopStep server (.received peerToken (.message message) outcome) server') :
    InStep server' peerToken (connection.deliver outcome) ∧ outcome.isOutOfOrder = false := by
  have hHeard := MainLoop.heard_message hStep
  obtain ⟨rest, hPackets⟩ := List.head?_eq_some_iff.mp hFirst
  have hSent : ∀ kind, connection.sent kind =
      (message.number kind).toList ++ (connection.deliver outcome).sent kind := by
    intro kind
    unfold Connection.sent Connection.deliver
    rw [hPackets]
    cases hFound : message.number kind with
    | none => exact List.filterMap_cons_none hFound
    | some number => exact List.filterMap_cons_some hFound
  have hLater : ∀ kind, (connection.deliver outcome).sent kind ⊆ connection.sent kind := by
    intro kind
    rw [hSent]
    exact List.subset_append_right _ _
  have hOwn : ∀ kind number, outcome.number kind = some number → number ∈ connection.sent kind := by
    intro kind number hNumber
    rw [hSent, hHeard.number kind number hNumber]
    exact List.mem_cons_self
  have hClient : (connection.deliver outcome).toClient = connection.toClient := by
    unfold Connection.deliver
    cases outcome with
    | join result => exact absurd rfl (hHeard.notJoin result)
    | _ => exact List.append_nil _
  refine ⟨?_, ?_⟩
  · constructor
    · intro kind
      have hIncreasing := h.increasing kind
      rw [hSent] at hIncreasing
      exact (List.pairwise_append.mp hIncreasing).2.1
    · exact fun kind number hNumber => h.counted kind number (hLater kind hNumber)
    · intro hWaits kind
      rw [hClient] at hWaits
      exact List.eq_nil_of_subset_nil (h.quiet hWaits kind ▸ hLater kind)
    · exact h.behindJoin.sublist (List.tail_sublist _)
    · intro playerId hSeat kind earlier hEarlier
      rw [hHeard.seat] at hSeat
      rcases List.mem_append.mp (hCast.numbers_received hStep kind playerId hEarlier) with
        hOld | hNew
      · obtain ⟨hNext, hPassed⟩ := h.passed playerId hSeat kind earlier hOld
        exact ⟨hNext, fun number hNumber => hPassed number (hLater kind hNumber)⟩
      · have hNumber := Option.mem_toList.mp hNew
        refine ⟨h.counted kind earlier (hOwn kind earlier hNumber), fun number hMem => ?_⟩
        have hIncreasing := h.increasing kind
        rw [hSent, hHeard.number kind earlier hNumber] at hIncreasing
        exact List.rel_of_pairwise_cons hIncreasing hMem
    · intro playerId hSeat result hResult hAccepted kind number hNumber
      rw [hHeard.seat] at hSeat
      rw [hClient] at hResult
      rcases List.mem_append.mp (hCast.numbers_received hStep kind playerId hNumber) with
        hOld | hNew
      · exact h.restarted playerId hSeat result hResult hAccepted kind number hOld
      · have hMem := hOwn kind number (Option.mem_toList.mp hNew)
        rw [h.quiet (List.ne_nil_of_mem hResult)] at hMem
        cases hMem
  · by_contra hOut
    obtain ⟨playerId, kind, number, hSeat, hNumber, earlier, hEarlier, hBehind⟩ :=
      hHeard.outOfOrder (Bool.not_eq_false _ ▸ hOut)
    have hPassed := (h.passed playerId hSeat kind earlier hEarlier).2 number (hOwn kind number hNumber)
    exact absurd hBehind (not_le.mpr hPassed)

/-- The server answers a join request of the client, and has no number on record for the
player that it seats. -/
theorem deliverJoin (h : InStep server peerToken connection) (hCast : server.Cast)
    {playerName : PlayerName} {outcome : PacketOutcome F}
    (hFirst : connection.toServer.head? = some (.joinRequest playerName))
    (hStep : LoopStep server (.received peerToken (.joinRequest playerName) outcome) server')
    (hForgetful : ∀ result, outcome = .join result → result.accepted = true →
      ∀ kind, kind = .pickup ∨ server.sessionManager.Seated result.session.playerId →
        ∀ number ∈ server.numbers kind result.session.playerId, number = 0) :
    InStep server' peerToken (connection.deliver outcome) ∧ outcome.isOutOfOrder = false := by
  obtain ⟨now, hOutcome, hState⟩ := MainLoop.received_step hStep
  obtain ⟨rest, hPackets⟩ := List.head?_eq_some_iff.mp hFirst
  obtain ⟨result, rfl⟩ : ∃ result, outcome = .join result := ⟨_, hOutcome⟩
  have hResult : result = (server.receiveJoin peerToken playerName now).1 := by
    injection hOutcome
  have hAfter : server' = (server.receiveJoin peerToken playerName now).2 := hState
  have hQuiet : ∀ kind, (connection.deliver (.join result)).sent kind = [] := by
    intro kind
    have hBehind := h.behindJoin
    rw [hPackets, List.pairwise_cons] at hBehind
    unfold Connection.sent Connection.deliver
    rw [hPackets]
    exact List.filterMap_eq_nil_iff.mpr fun later hLater => hBehind.1 later hLater playerName rfl kind
  have hNumbers : ∀ kind playerId, server'.numbers kind playerId ⊆ server.numbers kind playerId := by
    intro kind playerId number hNumber
    rcases List.mem_append.mp (hCast.numbers_received hStep kind playerId hNumber) with hOld | hNew
    · exact hOld
    · cases kind <;> cases hNew
  -- whoever is seated now was accepted with nothing on record, or had its seat before
  have hSeats : ∀ playerId, server'.sessionManager.seat peerToken = some playerId →
      (∀ kind, ∀ number ∈ server'.numbers kind playerId, number = 0) ∨
        result.accepted = false ∧ server.sessionManager.seat peerToken = some playerId := by
    intro playerId hSeat
    rw [hAfter] at hSeat
    rcases MainLoop.seat_receiveJoin hCast.tables playerName hSeat with
      ⟨hAccepted, hId⟩ | ⟨hRefused, hBefore⟩
    · left
      intro kind number hNumber
      rw [← hResult] at hAccepted hId
      have hOld := hNumbers kind playerId hNumber
      by_cases hKept : kind = .pickup ∨ server.sessionManager.Seated playerId
      · rw [← hId] at hOld hKept
        exact hForgetful result rfl hAccepted kind hKept number hOld
      · obtain ⟨hKind, hFree⟩ := not_or.mp hKept
        rw [hCast.numbers_eq_nil hFree hKind] at hOld
        cases hOld
    · exact Or.inr ⟨hResult ▸ hRefused, hBefore⟩
  refine ⟨?_, rfl⟩
  constructor
  · intro kind
    rw [hQuiet]
    exact List.Pairwise.nil
  · intro kind number hNumber
    rw [hQuiet] at hNumber
    cases hNumber
  · exact fun _ => hQuiet
  · exact h.behindJoin.sublist (List.tail_sublist _)
  · intro playerId hSeat kind earlier hEarlier
    rw [hQuiet]
    refine ⟨?_, fun number hNumber => absurd hNumber List.not_mem_nil⟩
    rcases hSeats playerId hSeat with hZero | ⟨-, hBefore⟩
    · rw [hZero kind earlier hEarlier]
      exact connection.counters.next_pos kind
    · exact (h.passed playerId hBefore kind earlier (hNumbers kind playerId hEarlier)).1
  · intro playerId hSeat answer hAnswer hAccepted kind number hNumber
    rcases hSeats playerId hSeat with hZero | ⟨hRefused, hBefore⟩
    · exact hZero kind number hNumber
    · rcases List.mem_append.mp hAnswer with hOld | hNew
      · exact h.restarted playerId hBefore answer hOld hAccepted kind number
          (hNumbers kind playerId hNumber)
      · rw [List.mem_singleton.mp hNew, hRefused] at hAccepted
        cases hAccepted

end InStep

namespace Network

/-- What holds of one peer: it has a session at most over its connection, which is in step. -/
structure OrderlyAt (s : Network F) (peer : PeerToken) : Prop where
  absent : s.connections peer = none → s.server.sessionManager.seat peer = none
  inStep : ∀ connection, s.connections peer = some connection → InStep s.server peer connection

/-- What holds between the steps. -/
structure Orderly (s : Network F) : Prop where
  cast : s.server.Cast
  peers : ∀ peer, s.OrderlyAt peer

/-- A new network is in order. -/
theorem orderly_create (setup : ServerSetup F) : (create setup).Orderly where
  cast := MainLoop.cast_create setup
  peers _ := ⟨fun _ => rfl, fun _ hOpen => by cases hOpen⟩

variable {s t : Network F}

/-- The server does something that is not about the peer. -/
theorem OrderlyAt.undisturbed {peer : PeerToken} (h : s.OrderlyAt peer)
    (hSame : t.connections peer = s.connections peer)
    (hOthers : ∀ playerId, t.server.sessionManager.seat peer = some playerId →
      s.server.sessionManager.seat peer = some playerId ∧
        ∀ kind, t.server.numbers kind playerId ⊆ s.server.numbers kind playerId) :
    t.OrderlyAt peer where
  absent hNone := by
    cases hSeat : t.server.sessionManager.seat peer with
    | none => rfl
    | some playerId =>
        have hBefore := (hOthers playerId hSeat).1
        rw [h.absent (hSame ▸ hNone)] at hBefore
        cases hBefore
  inStep connection hOpen := (h.inStep connection (hSame ▸ hOpen)).undisturbed hOthers

/-- A step of the loop is not about the peers that it receives no packet from. -/
theorem Orderly.bystander (h : s.Orderly) {event : LoopEvent F}
    (hStep : LoopStep s.server event t.server) {peer : PeerToken}
    (hSilent : ∀ packet outcome, event ≠ .received peer packet outcome)
    (hSame : t.connections peer = s.connections peer) : t.OrderlyAt peer := by
  have hRun := MainLoop.run_step h.cast.tables hStep
  refine (h.peers peer).undisturbed hSame fun playerId hSeat => ?_
  refine h.cast.undisturbed hRun (fun deed hDeed hSent => ?_) hSeat
  obtain ⟨packet, outcome, hEvent⟩ := MainLoop.sender_deedsOf hDeed hSent
  exact hSilent packet outcome hEvent

/-- A connection that is in step, in place of the one that was there. -/
theorem orderlyAt_update (s : Network F) (peerToken : PeerToken) {connection : Connection F}
    (hInStep : InStep s.server peerToken connection) :
    (s.update peerToken (some connection)).OrderlyAt peerToken := by
  refine ⟨fun hNone => ?_, fun other hOpen => ?_⟩
  · rw [connections_update_self] at hNone
    cases hNone
  · rw [connections_update_self] at hOpen
    exact Option.some.inj hOpen ▸ hInStep

/-- A step of the server that replaces the connection of one peer. -/
theorem Orderly.server (h : s.Orderly) {event : LoopEvent F} {server : MainLoop F}
    (hStep : LoopStep s.server event server) {peerToken : PeerToken}
    {connection : Option (Connection F)}
    (hSender : ∀ peer packet outcome, event = .received peer packet outcome → peer = peerToken)
    (hOwn : ({ s with server }.update peerToken connection).OrderlyAt peerToken) :
    ({ s with server }.update peerToken connection).Orderly := by
  refine ⟨h.cast.run (MainLoop.run_step h.cast.tables hStep), fun peer => ?_⟩
  by_cases hPeer : peer = peerToken
  · rw [hPeer]
    exact hOwn
  · exact h.bystander hStep (fun packet outcome hEvent => hPeer (hSender peer packet outcome hEvent))
      (connections_update_of_ne _ hPeer _)

/-- A step of the client of one peer. -/
theorem Orderly.client (h : s.Orderly) {peerToken : PeerToken} {connection : Connection F}
    (hInStep : InStep s.server peerToken connection) :
    (s.update peerToken (some connection)).Orderly := by
  refine ⟨h.cast, fun peer => ?_⟩
  by_cases hPeer : peer = peerToken
  · rw [hPeer]
    exact s.orderlyAt_update peerToken hInStep
  · exact (h.peers peer).undisturbed (connections_update_of_ne _ hPeer _)
      fun _ hSeat => ⟨hSeat, fun _ => List.Subset.refl _⟩

/-- A step that meets both conditions keeps everything in step, and rejects no command as out
of order. -/
theorem Orderly.step {event : NetworkEvent F} (h : s.Orderly) (hStep : NetworkStep s event t)
    (hPatient : s.Patient event) (hForgetful : s.Forgetful event) :
    t.Orderly ∧ ∀ peerToken packet outcome, event = .server (.received peerToken packet outcome) →
      outcome.isOutOfOrder = false := by
  cases hStep with
  | connect peerToken counters server hNew hLoop =>
      refine ⟨h.server hLoop (fun _ _ _ hEvent => by cases hEvent) ?_,
        fun _ _ _ hEvent => by cases hEvent⟩
      refine orderlyAt_update _ peerToken (.opened counters ?_)
      cases hLoop
      exact (h.peers peerToken).absent hNew
  | requestJoin peerToken connection playerName hOpen =>
      have hInStep := (h.peers peerToken).inStep connection hOpen
      exact ⟨h.client (hInStep.send fun _ => rfl), fun _ _ _ hEvent => by cases hEvent⟩
  | sendMessage peerToken connection message hOpen hNumber =>
      have hInStep := (h.peers peerToken).inStep connection hOpen
      refine ⟨h.client (hInStep.sendMessage (fun hKind => ?_) hNumber),
        fun _ _ _ hEvent => by cases hEvent⟩
      exact hPatient hKind connection hOpen
  | receive peerToken connection packet outcome server hOpen hFirst hLoop =>
      have hInStep := (h.peers peerToken).inStep connection hOpen
      have hDelivered : InStep server peerToken (connection.deliver outcome) ∧
          outcome.isOutOfOrder = false := by
        cases packet with
        | message message => exact hInStep.deliverMessage h.cast hFirst hLoop
        | joinRequest playerName =>
            refine hInStep.deliverJoin h.cast hFirst hLoop fun result hResult => ?_
            rw [hResult] at hForgetful
            exact hForgetful
      refine ⟨h.server hLoop (fun peer _ _ hEvent => ?_)
        (orderlyAt_update _ peerToken hDelivered.1), fun _ _ _ hEvent => ?_⟩
      · injection hEvent with hPeer
        exact hPeer.symm
      · injection hEvent with hEvent
        injection hEvent with _ _ hOutcome
        exact hOutcome ▸ hDelivered.2
  | takeAnswer peerToken connection result hOpen hFirst =>
      have hInStep := (h.peers peerToken).inStep connection hOpen
      exact ⟨h.client (hInStep.takeAnswer hFirst), fun _ _ _ hEvent => by cases hEvent⟩
  | disconnect peerToken session server hLoop =>
      refine ⟨h.server hLoop (fun _ _ _ hEvent => by cases hEvent) ⟨fun _ => ?_, fun _ hOpen => ?_⟩,
        fun _ _ _ hEvent => by cases hEvent⟩
      · cases hLoop
        exact s.server.seat_disconnect peerToken
      · rw [connections_update_self] at hOpen
        cases hOpen
  | run event server hInternal hLoop =>
      refine ⟨⟨h.cast.run (MainLoop.run_step h.cast.tables hLoop), fun peer => ?_⟩,
        fun _ _ _ hEvent => ?_⟩
      · refine h.bystander hLoop (fun packet outcome hEvent => ?_) rfl
        rw [hEvent] at hInternal
        cases hInternal
      · injection hEvent with hEvent
        rw [hEvent] at hInternal
        cases hInternal

def PatientStep (s : Network F) (event : NetworkEvent F) (t : Network F) : Prop :=
  NetworkStep s event t ∧ s.Patient event

/-- A step of patient clients and of a server that forgets the numbers of earlier sessions. -/
def OrderlyStep (s : Network F) (event : NetworkEvent F) (t : Network F) : Prop :=
  PatientStep s event t ∧ s.Forgetful event

/-- No numbered command is rejected as out of order. -/
def NeverOutOfOrder (trace : List (NetworkEvent F)) : Prop :=
  ∀ peerToken packet outcome, .server (.received peerToken packet outcome) ∈ trace →
    outcome.isOutOfOrder = false

/-- In every run of patient clients whose accepted joins find no numbers on record, no
numbered command is rejected as out of order. -/
theorem commands_in_order {setup : ServerSetup F} {trace : List (NetworkEvent F)}
    {s : Network F} (run : Run OrderlyStep (create setup) trace s) : NeverOutOfOrder trace := by
  have hHistory : s.Orderly ∧ NeverOutOfOrder trace := by
    refine run.history (I := fun trace s => s.Orderly ∧ NeverOutOfOrder trace) ?_
      ⟨orderly_create setup, fun _ _ _ hMem => absurd hMem List.not_mem_nil⟩
    rintro trace s event t ⟨hOrderly, hBefore⟩ ⟨⟨hStep, hPatient⟩, hForgetful⟩
    obtain ⟨hNext, hEvent⟩ := hOrderly.step hStep hPatient hForgetful
    refine ⟨hNext, fun peerToken packet outcome hMem => ?_⟩
    rcases List.mem_append.mp hMem with hOld | hNew
    · exact hBefore peerToken packet outcome hOld
    · exact hEvent peerToken packet outcome (List.mem_singleton.mp hNew).symm
  exact hHistory.2

open MainLoop (duel)
open SessionManager (alpha bravo)

/-- The server once a peer is connected. -/
def opened (server : MainLoop F) (peerToken : PeerToken) : MainLoop F :=
  { server with peersByToken := insert peerToken server.peersByToken }

/-- A step of patient clients, and where it is demanded of a server that forgets. -/
def DemandedStep (forgets : Prop) (s : Network F) (event : NetworkEvent F) (t : Network F) : Prop :=
  PatientStep s event t ∧ (forgets → s.Forgetful event)

variable {forgets : Prop}

/-- Only a join makes a client start again. -/
theorem forgetful_of_notJoin {peerToken : PeerToken} {packet : Packet F}
    {outcome : PacketOutcome F} (h : ∀ result, outcome ≠ .join result) :
    s.Forgetful (.server (.received peerToken packet outcome)) := by
  cases outcome with
  | join result => exact absurd rfl (h result)
  | _ => exact trivial

/-- A peer connects, asks to join, is accepted and reads the answer. -/
theorem run_join (peerToken : PeerToken) (playerName : PlayerName)
    (hNew : s.connections peerToken = none) (hIdle : s.server.tickFrames = [])
    (hToken : peerToken ≠ 0)
    (hForgets : forgets → ∀ kind, ∀ number ∈ (opened s.server peerToken).numbers kind
      ((opened s.server peerToken).receiveJoin peerToken playerName 0).1.session.playerId,
      number = 0) :
    ∃ trace t, Run (DemandedStep forgets) s trace t ∧
      t.server = ((opened s.server peerToken).receiveJoin peerToken playerName 0).2 ∧
      t.connections peerToken = some {} ∧
      ∀ peer, peer ≠ peerToken → t.connections peer = s.connections peer := by
  have hStart : Run (DemandedStep forgets) s [] s := .nil s
  have hOpened := hStart.snoc
    ⟨⟨.connect s peerToken {} (opened s.server peerToken) hNew (.connect s.server peerToken hIdle),
      trivial⟩, fun _ => trivial⟩
  have hAsked := hOpened.snoc
    ⟨⟨.requestJoin _ peerToken _ playerName (connections_update_self _ _ _), trivial⟩,
      fun _ => trivial⟩
  have hJoined := hAsked.snoc
    ⟨⟨.receive _ peerToken _ _ _ _ (connections_update_self _ _ _) rfl
      (.receive (opened s.server peerToken) peerToken (.joinRequest playerName) 0 hIdle hToken),
      trivial⟩, fun hDemanded _ kind _ number hNumber => hForgets hDemanded kind number hNumber⟩
  have hAnswered := hJoined.snoc
    ⟨⟨.takeAnswer _ peerToken _ _ (connections_update_self _ _ _) rfl, trivial⟩, fun _ => trivial⟩
  refine ⟨_, _, hAnswered, rfl, (connections_update_self _ _ _).trans ?_, fun peer hPeer => ?_⟩
  · unfold Connection.takeAnswer
    split
    · rfl
    · rfl
  · iterate 4 rw [connections_update_of_ne _ hPeer]

/-- The client sends its first message, and the server receives it. -/
theorem run_message {peerToken : PeerToken} {message : Message F}
    (hOpen : s.connections peerToken = some {}) (hIdle : s.server.tickFrames = [])
    (hToken : peerToken ≠ 0)
    (hFirst : ∀ kind number, message.number kind = some number → number = 1) :
    ∃ t, Run (DemandedStep forgets) s
        [.sent peerToken (.message message), .server (.received peerToken (.message message)
          (s.server.receive peerToken (.message message) 0).1)] t ∧
      t.server = (s.server.receive peerToken (.message message) 0).2 ∧
      ∀ peer, peer ≠ peerToken → t.connections peer = s.connections peer := by
  have hLoop := LoopStep.receive s.server peerToken (.message message) 0 hIdle hToken
  have hStart : Run (DemandedStep forgets) s [] s := .nil s
  have hSent := hStart.snoc
    ⟨⟨.sendMessage s peerToken _ message hOpen fun kind number hNumber => by
        rw [hFirst kind number hNumber]
        exact (SequenceCounters.next_default kind).symm,
      fun _ connection hConnection => ?_⟩, fun _ => trivial⟩
  · have hReceived := hSent.snoc
      ⟨⟨.receive _ peerToken _ _ _ _ (connections_update_self _ _ _) rfl hLoop, trivial⟩,
        fun _ => ?_⟩
    · refine ⟨_, hReceived, rfl, fun peer hPeer => ?_⟩
      iterate 2 rw [connections_update_of_ne _ hPeer]
    · exact forgetful_of_notJoin (MainLoop.heard_message hLoop).notJoin
  · rw [hOpen] at hConnection
    rw [← Option.some.inj hConnection]
    exact ⟨rfl, fun _ => List.not_mem_nil⟩

/-- A client sends its first message, leaves, and joins again. -/
theorem run_rejoin {peerToken : PeerToken} {message : Message F} (playerName : PlayerName)
    (left : MainLoop F) (hOpen : s.connections peerToken = some {})
    (hIdle : s.server.tickFrames = []) (hToken : peerToken ≠ 0)
    (hFirst : ∀ kind number, message.number kind = some number → number = 1)
    (hSentIdle : (s.server.receive peerToken (.message message) 0).2.tickFrames = [])
    (hLeft : ((s.server.receive peerToken (.message message) 0).2.disconnect peerToken).2 = left)
    (hLeftIdle : left.tickFrames = [])
    (hForgets : forgets → ∀ kind, ∀ number ∈ (opened left peerToken).numbers kind
      ((opened left peerToken).receiveJoin peerToken playerName 0).1.session.playerId,
      number = 0) :
    ∃ trace t, Run (DemandedStep forgets) s trace t ∧
      t.server = ((opened left peerToken).receiveJoin peerToken playerName 0).2 ∧
      t.connections peerToken = some {} := by
  obtain ⟨asked, hAsked, hTaken, -⟩ := run_message hOpen hIdle hToken hFirst
  have hAskedIdle : asked.server.tickFrames = [] := by rw [hTaken, hSentIdle]
  have hGone := hAsked.snoc
    ⟨⟨.disconnect asked peerToken _ _ (.disconnect asked.server peerToken hAskedIdle), trivial⟩,
      fun _ => trivial⟩
  generalize hState : ({ asked with server := (asked.server.disconnect peerToken).2 } :
    Network F).update peerToken none = gone at hGone
  have hServer : gone.server = left := by
    rw [← hState, ← hLeft, ← hTaken]
    rfl
  have hClosed : gone.connections peerToken = none := by
    rw [← hState, connections_update_self]
  rw [← hServer] at hForgets hLeftIdle ⊢
  obtain ⟨rejoin, t, hRejoin, hRejoined, hReopened, -⟩ :=
    run_join peerToken playerName hClosed hLeftIdle hToken hForgets
  exact ⟨_, t, hGone.trans hRejoin, hRejoined, hReopened⟩

/-- A duel with its first player. -/
def alphaJoined : MainLoop ℚ := ((opened (.create duel) 101).receiveJoin 101 alpha 0).2

/-- The first input of player 1. -/
def firstInput : Message ℚ := .playerInput (some { playerId := 1, inputSeq := 1 })

theorem firstInput_number (kind : CommandKind) (number : Nat)
    (h : firstInput.number kind = some number) : number = 1 := by
  cases kind with
  | input => exact (Option.some.inj h).symm
  | fire => cases h
  | pickup => cases h

/-- Player 1 has sent its first input and left. -/
def alphaGone : MainLoop ℚ := ((alphaJoined.receive 101 (.message firstInput) 0).2.disconnect 101).2

/-- It joins again under its name. -/
def alphaBack : MainLoop ℚ := ((opened alphaGone 101).receiveJoin 101 alpha 0).2

/-- After the rejoin, the first input is taken again. -/
theorem commands_in_order_rejoined :
    (alphaBack.receive 101 (.message firstInput) 0).1.isOutOfOrder = false := by
  have hNew : (create duel).connections 101 = none := rfl
  have hForgets : True → ∀ kind, ∀ number ∈ (opened (create duel).server 101).numbers kind
      ((opened (create duel).server 101).receiveJoin 101 alpha 0).1.session.playerId,
      number = 0 := by
    intro _ kind
    cases kind <;> decide +kernel
  have hForgetsAgain : True → ∀ kind, ∀ number ∈ (opened alphaGone 101).numbers kind
      ((opened alphaGone 101).receiveJoin 101 alpha 0).1.session.playerId, number = 0 := by
    intro _ kind
    cases kind <;> decide +kernel
  obtain ⟨joining, s, hJoined, hServer, hOpen, -⟩ :=
    run_join 101 alpha hNew rfl (by decide) hForgets
  have hIdle : s.server.tickFrames = [] := by
    rw [hServer]
    exact List.isEmpty_iff.mp (by decide +kernel)
  have hSentIdle : (s.server.receive 101 (.message firstInput) 0).2.tickFrames = [] := by
    rw [hServer]
    exact List.isEmpty_iff.mp (by decide +kernel)
  obtain ⟨leaving, back, hRejoined, hBack, hReopened⟩ := run_rejoin alpha alphaGone hOpen hIdle
    (by decide) firstInput_number hSentIdle (by rw [hServer]; rfl)
    (List.isEmpty_iff.mp (by decide +kernel)) hForgetsAgain
  have hBackIdle : back.server.tickFrames = [] := by
    rw [hBack]
    exact List.isEmpty_iff.mp (by decide +kernel)
  obtain ⟨t, hSent, -⟩ := run_message hReopened hBackIdle (by decide) firstInput_number
  have run : Run OrderlyStep (create duel) _ t := ((hJoined.trans hRejoined).trans hSent).mono
    fun s event t hStep => ⟨hStep.1, hStep.2 trivial⟩
  have hInOrder := commands_in_order run 101 (.message firstInput) _
    (List.mem_append_right _ (List.mem_cons_of_mem _ List.mem_cons_self))
  rw [hBack] at hInOrder
  exact hInOrder

/-- The first pickup of player 1. -/
def firstPickup : Message ℚ := .treasurePickup (some { playerId := 1, pickupSeq := 1 })

/-- A duel whose match has started. -/
def duelPlaying : MainLoop ℚ :=
  (((opened alphaJoined 102).receiveJoin 102 bravo 0).2.advance 33333333).tickNext

/-- The run up to the first input. -/
theorem run_duelPlaying :
    ∃ trace s, Run (DemandedStep False) (create duel) trace s ∧ s.server = duelPlaying ∧
      s.connections 101 = some {} := by
  have hNew : (create duel).connections 101 = none := rfl
  obtain ⟨first, joined, hFirstJoin, hServer, hOpen, hOthers⟩ :=
    run_join 101 alpha hNew rfl (by decide) False.elim
  have hJoined : joined.server = alphaJoined := hServer
  have hIdle : joined.server.tickFrames = [] := by
    rw [hJoined]
    exact List.isEmpty_iff.mp (by decide +kernel)
  obtain ⟨second, both, hSecondJoin, hBoth, -, hKept⟩ :=
    run_join 102 bravo (hOthers 102 (by decide)) hIdle (by decide) False.elim
  rw [hJoined] at hBoth
  have hBothIdle : both.server.tickFrames = [] := by
    rw [hBoth]
    exact List.isEmpty_iff.mp (by decide +kernel)
  have hAdvanced := hSecondJoin.snoc
    ⟨⟨.run both .advanced _ rfl (.advance both.server 33333333 hBothIdle), trivial⟩, False.elim⟩
  obtain ⟨record, hTick⟩ : ∃ record, LoopStep (both.server.advance 33333333) (.ticked record)
      (both.server.advance 33333333).tickNext := by
    rw [hBoth]
    exact MainLoop.step_tickNext (by decide +kernel)
  have hTicked := hAdvanced.snoc ⟨⟨.run _ (.ticked record) _ rfl hTick, trivial⟩, False.elim⟩
  refine ⟨_, _, hFirstJoin.trans hTicked, ?_, (hKept 101 (by decide)).trans hOpen⟩
  change (both.server.advance 33333333).tickNext = duelPlaying
  rw [hBoth]
  rfl

/-- Player 1 asks for a treasure and leaves. -/
def alphaLeft : MainLoop ℚ :=
  ((duelPlaying.receive 101 (.message firstPickup) 0).2.disconnect 101).2

/-- It joins again. -/
def alphaReturned : MainLoop ℚ := ((opened alphaLeft 101).receiveJoin 101 alpha 0).2

/-- Every client is patient, and the first pickup after a rejoin is out of order. -/
theorem rejoined_pickup_stale :
    ¬ ∀ (setup : ServerSetup ℚ) (trace : List (NetworkEvent ℚ)) (s : Network ℚ),
      Run PatientStep (create setup) trace s → NeverOutOfOrder trace := by
  intro hClaim
  have hFirst : ∀ kind number, firstPickup.number kind = some number → number = 1 := by
    intro kind number hNumber
    cases kind with
    | input => cases hNumber
    | fire => cases hNumber
    | pickup => exact (Option.some.inj hNumber).symm
  obtain ⟨before, playing, hBefore, hPlaying, hOpen⟩ := run_duelPlaying
  have hIdle : playing.server.tickFrames = [] := by
    rw [hPlaying]
    exact List.isEmpty_iff.mp (by decide +kernel)
  have hAskedIdle : (playing.server.receive 101 (.message firstPickup) 0).2.tickFrames = [] := by
    rw [hPlaying]
    exact List.isEmpty_iff.mp (by decide +kernel)
  obtain ⟨rejoin, returned, hRejoin, hReturned, hReopened⟩ := run_rejoin alpha alphaLeft hOpen hIdle
    (by decide) hFirst hAskedIdle (by rw [hPlaying]; rfl) (List.isEmpty_iff.mp (by decide +kernel))
    False.elim
  have hReturned : returned.server = alphaReturned := hReturned
  have hReturnedIdle : returned.server.tickFrames = [] := by
    rw [hReturned]
    exact List.isEmpty_iff.mp (by decide +kernel)
  obtain ⟨last, hLast, -⟩ := run_message hReopened hReturnedIdle (by decide) hFirst
  have run : Run PatientStep (create duel) _ last :=
    ((hBefore.trans hRejoin).trans hLast).mono fun s event t hStep => hStep.1
  have hInOrder := hClaim duel _ last run 101 (.message firstPickup) _
    (List.mem_append_right _ (List.mem_cons_of_mem _ List.mem_cons_self))
  rw [hReturned] at hInOrder
  exact absurd hInOrder (by decide +kernel)

end Network

end DevyFps.Replication
