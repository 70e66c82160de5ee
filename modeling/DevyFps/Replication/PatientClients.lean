import DevyFps.Replication.ClosedLoop

/-! The clients of the deployment are the patient clients of the network: none of them sends a
numbered command before its join request is answered, and what is printed and parsed on the way
comes out as what was meant. -/

namespace DevyFps.Replication

open Foundations FloatFormat Net Client Server
open Server.MainLoop (LoopEvent LoopStep)
open Server.ServerHost (HostStep)
open Voxel (KeepsFinite)
open Network (NetworkStep PatientStep)
open Deployment (DeploymentStep AllInTouch Unwrapped)

variable {F : Type} [SingleFloat F]

/-- The connection of the network that a client has: its counters, the messages that are read of
its packets, and the answers to its join request. -/
structure Conveys (settings : OutboundSettings F) (endpoint : Endpoint F)
    (connection : Connection F) : Prop where
  counters : ∀ kind, nextNumber endpoint.client kind = connection.counters.next kind
  toServer : List.Forall₂ Understood endpoint.toServer connection.toServer
  toClient : endpoint.toClient.filter (fun packet => packet.type = .joinAccept) =
    connection.toClient.map (answerTo settings)

/-- The network that a deployment realises. -/
structure Realises (settings : OutboundSettings F) (s : Deployment F) (n : Network F) : Prop where
  server : n.server = s.host.loop
  absent : ∀ peerToken, s.endpoints peerToken = none → n.connections peerToken = none
  clients : ∀ peerToken endpoint, s.endpoints peerToken = some endpoint →
    ∃ connection, n.connections peerToken = some connection ∧ Conveys settings endpoint connection

/-- The events of the server in a run of the network. -/
def serverEvents (trace : List (NetworkEvent F)) : List (LoopEvent F) :=
  trace.filterMap fun
    | .server event => some event
    | _ => none

theorem exists_of_mem_forall₂ {α β : Type} {R : α → β → Prop} {first : List α} {second : List β}
    (h : List.Forall₂ R first second) {b : β} (hMem : b ∈ second) : ∃ a ∈ first, R a b := by
  induction h with
  | nil => cases hMem
  | cons hHead hRest ih =>
      rcases List.mem_cons.mp hMem with rfl | hLater
      · exact ⟨_, List.mem_cons_self, hHead⟩
      · obtain ⟨a, hFound, hRelated⟩ := ih hLater
        exact ⟨a, List.mem_cons_of_mem _ hFound, hRelated⟩

/-- What is read of a join request is one. -/
theorem Understood.type_eq_joinRequest {packet : Net.Packet (SingleFloat.Double F)}
    {playerName : PlayerName} (h : Understood packet (.joinRequest playerName)) :
    packet.type = .joinRequest := by
  have hRead := h.read
  unfold MainLoop.readPacket at hRead
  dsimp only at hRead
  cases hType : packet.type with
  | joinRequest => rfl
  | _ =>
      rw [hType] at hRead
      cases hRead

theorem accepted_of_answerTo_eq {settings : OutboundSettings F} {result other : JoinResult}
    (h : answerTo settings result = answerTo settings other) :
    result.accepted = other.accepted := by
  cases hResult : result.accepted with
  | true =>
      by_contra hOther
      refine answerTo_ne_joinRejected hResult (h.trans (if_neg ?_))
      exact fun hYes => hOther hYes.symm
  | false =>
      by_contra hOther
      have hYes : other.accepted = true := by
        cases hAccepted : other.accepted with
        | true => rfl
        | false => exact absurd hAccepted.symm hOther
      refine answerTo_ne_joinRejected hYes (h.symm.trans (if_neg ?_))
      rw [hResult]
      exact Bool.false_ne_true

namespace Conveys

variable {settings : OutboundSettings F} {endpoint : Endpoint F} {connection : Connection F}

theorem opened (settings : OutboundSettings F) (clientSettings : ClientSettings)
    (config : PredictionConfig F) (profile : Voxel.WorldGenerationProfile F) :
    Conveys settings { settings := clientSettings, client := .create config profile } {} where
  counters kind := by cases kind <;> rfl
  toServer := .nil
  toClient := rfl

/-- Nothing but the answer to a join request shows in the network. -/
theorem told (h : Conveys settings endpoint connection) {sent : Outgoing F}
    (hSent : ∀ packet ∈ sent, packet.type ≠ .joinAccept) :
    Conveys settings { endpoint with toClient := endpoint.toClient ++ sent } connection where
  counters := h.counters
  toServer := h.toServer
  toClient := by
    have hNone : sent.filter (fun packet => packet.type = .joinAccept) = [] :=
      List.filter_eq_nil_iff.mpr fun packet hPacket => by simpa using hSent packet hPacket
    dsimp only
    rw [List.filter_append, hNone, List.append_nil]
    exact h.toClient

theorem connect (h : Conveys settings endpoint connection) :
    Conveys settings
      { endpoint with
        client := endpoint.client.connect.2
        toServer := endpoint.toServer ++ endpoint.client.connect.1 }
      (connection.send (.joinRequest (Bytes.ofString "player_local"))) where
  counters kind := (nextNumber_connect endpoint.client kind).trans (h.counters kind)
  toServer := List.rel_append h.toServer (.cons understood_joinRequestPacket .nil)
  toClient := h.toClient

/-- A client that plays waits for nothing. -/
theorem answered (h : Conveys settings endpoint connection) {server : MainLoop F}
    {peerToken : PeerToken} (hInTouch : InTouch settings server peerToken endpoint)
    (hJoined : endpoint.client.joined = true) : connection.Answered := by
  have hTurn := hInTouch.turn
  have hReady := Bool.toNat_le endpoint.client.connectionReady
  unfold Endpoint.turns at hTurn
  rw [hJoined, Bool.toNat_true] at hTurn
  refine ⟨?_, fun playerName hRequest => ?_⟩
  · have hNone : endpoint.toClient.filter (fun packet => packet.type = .joinAccept) = [] := by
      rw [← List.length_eq_zero_iff, ← List.countP_eq_length_filter]
      omega
    have hMap := h.toClient
    rw [hNone] at hMap
    exact List.map_eq_nil_iff.mp hMap.symm
  · obtain ⟨packet, hPacket, hRead⟩ := exists_of_mem_forall₂ h.toServer hRequest
    have hNone : endpoint.toServer.countP (fun packet => packet.type = .joinRequest) = 0 := by
      omega
    exact List.countP_eq_zero.mp hNone packet hPacket (by simpa using hRead.type_eq_joinRequest)

/-- A command of the client is one of the network. -/
theorem sendMessage (h : Conveys settings endpoint connection)
    {packet : Net.Packet (SingleFloat.Double F)} {message : Message F} {client : ClientLoop F}
    (hRead : Understood packet (.message message))
    (hNext : ∀ kind, nextNumber client kind =
      if commandKind message = some kind then (nextNumber endpoint.client kind + 1) % 2 ^ 32
      else nextNumber endpoint.client kind)
    (hUnwrapped : ∀ kind, nextNumber endpoint.client kind + 1 < 2 ^ 32) :
    Conveys settings { endpoint with client, toServer := endpoint.toServer ++ [packet] }
      (connection.sendMessage message) where
  counters kind := by
    dsimp only
    rw [hNext, Nat.mod_eq_of_lt (hUnwrapped kind), h.counters]
    unfold Connection.sendMessage
    cases hKind : commandKind message with
    | none => rfl
    | some sent =>
        change _ = (connection.counters.advance sent).next kind
        rw [SequenceCounters.next_advance]
        by_cases hSame : kind = sent
        · rw [if_pos hSame, if_pos (congrArg some hSame.symm), hSame]
        · rw [if_neg hSame, if_neg fun hOther => hSame (Option.some.inj hOther).symm]
  toServer := List.rel_append h.toServer (.cons hRead .nil)
  toClient := h.toClient

/-- The client reads something else. -/
theorem read (h : Conveys settings endpoint connection)
    {packet : Net.Packet (SingleFloat.Double F)} {rest : Outgoing F} {client : ClientLoop F}
    (hFirst : endpoint.toClient = packet :: rest) (hType : packet.type ≠ .joinAccept)
    (hSame : SameCounters endpoint.client client) :
    Conveys settings { endpoint with client, toClient := rest } connection where
  counters kind := (hSame.next kind).trans (h.counters kind)
  toServer := h.toServer
  toClient := by
    have hAnswers := h.toClient
    rw [hFirst, List.filter_cons_of_neg (by simpa using hType)] at hAnswers
    exact hAnswers

/-- The client reads the answer to its join request. -/
theorem takeAnswer (h : Conveys settings endpoint connection) {server : MainLoop F}
    {peerToken : PeerToken} (hInTouch : InTouch settings server peerToken endpoint)
    {packet : Net.Packet (SingleFloat.Double F)} {rest : Outgoing F} {now : Nat}
    {client : ClientLoop F} (hFirst : endpoint.toClient = packet :: rest)
    (hType : packet.type = .joinAccept)
    (hRead : endpoint.client.receive endpoint.settings now packet = .ok client) :
    ∃ result, connection.toClient.head? = some result ∧
      Conveys settings { endpoint with client, toClient := rest } (connection.takeAnswer result) := by
  have hAnswers := h.toClient
  rw [hFirst, List.filter_cons_of_pos (by simpa using hType)] at hAnswers
  obtain ⟨result, later, hWaiting, hResult, hLater⟩ := List.map_eq_cons_iff.mp hAnswers.symm
  obtain ⟨told, hTold, hAccepted⟩ := hInTouch.answers packet (hFirst ▸ List.mem_cons_self) hType
  have hSame := accepted_of_answerTo_eq (hResult.trans hTold)
  refine ⟨result, by rw [hWaiting]; rfl, fun kind => ?_, h.toServer, ?_⟩
  · unfold Connection.takeAnswer
    dsimp only
    rw [hTold] at hRead
    unfold answerTo at hRead
    cases hYes : told.accepted with
    | true =>
        rw [if_pos hYes, receive_joinAccepted _ _ _ (hAccepted hYes).1] at hRead
        cases hRead
        rw [hSame, if_pos hYes, SequenceCounters.next_default]
        cases kind <;> rfl
    | false =>
        rw [if_neg (by rw [hYes]; exact Bool.false_ne_true), receive_joinRejected] at hRead
        cases hRead
        rw [hSame, if_neg (by rw [hYes]; exact Bool.false_ne_true), ← h.counters]
        cases kind <;> rfl
  · unfold Connection.takeAnswer
    dsimp only
    rw [hWaiting]
    exact hLater.symm

/-- The server takes the first packet of the client, and answers it if it is a join request. -/
theorem deliver (h : Conveys settings endpoint connection)
    {packet : Net.Packet (SingleFloat.Double F)} {rest : Outgoing F}
    (hFirst : endpoint.toServer = packet :: rest) {outcome : PacketOutcome F} {sent : Outgoing F}
    (hSent : sent.filter (fun packet => packet.type = .joinAccept) =
      (answersTo outcome).map (answerTo settings)) :
    Conveys settings { endpoint with toServer := rest, toClient := endpoint.toClient ++ sent }
      (connection.deliver outcome) where
  counters := h.counters
  toServer := by
    have hReads := h.toServer
    rw [hFirst] at hReads
    obtain ⟨read, later, -, hRest, hPackets⟩ := List.forall₂_cons_left_iff.mp hReads
    unfold Connection.deliver
    rw [hPackets]
    exact hRest
  toClient := by
    unfold Connection.deliver
    dsimp only
    rw [List.filter_append, hSent, List.map_append, h.toClient]

end Conveys

namespace Realises

variable {settings : OutboundSettings F} {setup : ServerSetup F} {s t : Deployment F}
  {n : Network F}

theorem create (settings : OutboundSettings F) (setup : ServerSetup F) :
    Realises settings (.create setup) (.create setup) where
  server := rfl
  absent _ _ := rfl
  clients _ _ hOpen := by cases hOpen

/-- One client and its connection, in place of those that were there. -/
theorem client (h : Realises settings s n) (peerToken : PeerToken) {endpoint : Endpoint F}
    {connection : Connection F} (hConveys : Conveys settings endpoint connection) :
    Realises settings (s.update peerToken (some endpoint)) (n.update peerToken (some connection)) := by
  refine ⟨h.server, fun peer hClosed => ?_, fun peer other hOpen => ?_⟩
  · by_cases hPeer : peer = peerToken
    · rw [hPeer, Deployment.endpoints_update_self] at hClosed
      cases hClosed
    · rw [Deployment.endpoints_update_of_ne _ hPeer] at hClosed
      rw [Network.connections_update_of_ne _ hPeer]
      exact h.absent peer hClosed
  · by_cases hPeer : peer = peerToken
    · rw [hPeer, Deployment.endpoints_update_self] at hOpen
      obtain rfl := Option.some.inj hOpen
      rw [hPeer, Network.connections_update_self]
      exact ⟨connection, rfl, hConveys⟩
    · rw [Deployment.endpoints_update_of_ne _ hPeer] at hOpen
      rw [Network.connections_update_of_ne _ hPeer]
      exact h.clients peer other hOpen

/-- A step of a client that does not show in the network. -/
theorem stutter (h : Realises settings s n) {peerToken : PeerToken} {endpoint : Endpoint F}
    {connection : Connection F} (hConnection : n.connections peerToken = some connection)
    (hConveys : Conveys settings endpoint connection) :
    Realises settings (s.update peerToken (some endpoint)) n := by
  have hUpdated := h.client peerToken hConveys
  have hSame : n.update peerToken (some connection) = n := by
    unfold Network.update
    rw [← hConnection, Function.update_eq_self]
  rw [hSame] at hUpdated
  exact hUpdated

/-- The server takes a step, and what it sends answers no join request. -/
theorem distribute (h : Realises settings s n) {host : ServerHost F}
    {sent : List (SentPacket F)}
    (hSent : ∀ peer, s.endpoints peer ≠ none → ∀ packet ∈ sentTo peer sent,
      packet.type ≠ .joinAccept) :
    Realises settings (({ s with host }).distribute sent) { n with server := host.loop } where
  server := rfl
  absent peer hClosed := h.absent peer (Option.map_eq_none_iff.mp hClosed)
  clients peer other hOpen := by
    obtain ⟨before, hBefore, rfl⟩ := Option.map_eq_some_iff.mp hOpen
    obtain ⟨connection, hConnection, hConveys⟩ := h.clients peer before hBefore
    refine ⟨connection, hConnection, hConveys.told (hSent peer ?_)⟩
    rw [hBefore]
    exact Option.some_ne_none before

/-- The answers among what the server sends to a peer when it takes a packet of it. -/
theorem filter_sentTo {host host' : ServerHost F} (hTables : host.loop.sessionManager.TablesAgree)
    {peerToken : PeerToken} {read : Server.Packet F} {outcome : PacketOutcome F}
    {sent : List (SentPacket F)}
    (hStep : HostStep settings host ⟨.received peerToken read outcome, sent⟩ host') :
    (sentTo peerToken sent).filter (fun packet => packet.type = .joinAccept) =
      (answersTo outcome).map (answerTo settings) := by
  by_cases hJoin : ∃ result, outcome = .join result
  · obtain ⟨result, rfl⟩ := hJoin
    have hSent : sentTo peerToken sent = settings.joinAnswer result host'.loop := by
      cases hStep with
      | mk event loop hLoop => exact (sentTo_answer peerToken peerToken _).trans (if_pos rfl)
    obtain ⟨hHead, hTail⟩ := Deployment.joinAnswer_eq settings result host'.loop
    obtain ⟨later, hAnswer⟩ := List.head?_eq_some_iff.mp hHead
    rw [hAnswer] at hTail
    rw [hSent, hAnswer, List.filter_cons_of_pos (by simpa using type_answerTo settings result),
      List.filter_eq_nil_iff.mpr fun packet hPacket => by simpa using hTail packet hPacket]
    rfl
  · have hNone : answersTo outcome = [] := by
      cases outcome with
      | join result => exact absurd ⟨result, rfl⟩ hJoin
      | _ => rfl
    rw [hNone]
    refine List.filter_eq_nil_iff.mpr fun packet hPacket => ?_
    have hType := type_ne_joinAccept hTables hStep (fun asked result hEvent => hJoin ?_) packet hPacket
    · simpa using hType
    · injection hEvent with _ _ hOutcome
      exact ⟨result, hOutcome⟩

/-- One step of the deployment is one of the network, with the same event of the server, or does
not show there. -/
theorem step [KeepsFinite F] (h : Realises settings s n) (hAll : AllInTouch settings s)
    (hTables : s.host.loop.sessionManager.TablesAgree) {event : DeploymentEvent F}
    (hStep : DeploymentStep settings s event t) (hUnwrapped : Unwrapped s event) :
    ∃ (label : Option (NetworkEvent F)) (n' : Network F), Run PatientStep n label.toList n' ∧
      Realises settings t n' ∧
        serverEvents label.toList = (Deployment.hostEvents event).map HostEvent.event := by
  cases hStep with
  | connect peerToken clientSettings config profile sent host hNew hHost =>
      have hLoop := hHost.loopStep
      rw [← h.server] at hLoop
      refine ⟨some _, _, .single ⟨.connect n peerToken {} host.loop (h.absent peerToken hNew) hLoop,
        trivial⟩, ?_, rfl⟩
      have hMoved : Realises settings { s with host } { n with server := host.loop } :=
        ⟨rfl, h.absent, h.clients⟩
      exact hMoved.client peerToken (.opened settings clientSettings config profile)
  | act peerToken endpoint deed hOpen hNew hFinite =>
      obtain ⟨connection, hConnection, hConveys⟩ := h.clients peerToken endpoint hOpen
      have hInTouch := hAll.clients peerToken endpoint hOpen
      by_cases hConnect : deed = .connect
      · subst hConnect
        exact ⟨some _, _, .single ⟨.requestJoin n peerToken connection _ hConnection, trivial⟩,
          h.client peerToken hConveys.connect, rfl⟩
      · have hSends := sends_act hInTouch.sized endpoint.settings hFinite hConnect
        generalize endpoint.client.act endpoint.settings deed = acted at hSends
        obtain ⟨sent, client⟩ := acted
        cases hSends with
        | nothing hNext =>
            refine ⟨none, n, .nil n, h.stutter hConnection ?_, rfl⟩
            dsimp only
            rw [List.append_nil]
            exact ⟨fun kind => (hNext kind).trans (hConveys.counters kind), hConveys.toServer,
              hConveys.toClient⟩
        | command packet message hPlaying hRead hNamed hNumber hNext =>
            have hJoined : endpoint.client.joined = true := by
              unfold ClientLoop.isPlaying at hPlaying
              exact (Bool.and_eq_true_iff.mp hPlaying).1
            refine ⟨some _, _, .single ⟨.sendMessage n peerToken connection message hConnection
              fun kind number hFound => ?_, fun _ other hOther => ?_⟩,
              h.client peerToken (hConveys.sendMessage hRead hNext (hUnwrapped endpoint hOpen)), rfl⟩
            · rw [hNumber kind number hFound]
              exact hConveys.counters kind
            · obtain rfl := Option.some.inj (hConnection.symm.trans hOther)
              exact hConveys.answered hInTouch hJoined
  | read peerToken endpoint packet rest now client hOpen hFirst hRead =>
      obtain ⟨connection, hConnection, hConveys⟩ := h.clients peerToken endpoint hOpen
      by_cases hType : packet.type = .joinAccept
      · obtain ⟨result, hHead, hTaken⟩ :=
          hConveys.takeAnswer (hAll.clients peerToken endpoint hOpen) hFirst hType hRead
        exact ⟨some _, _, .single ⟨.takeAnswer n peerToken connection result hConnection hHead, trivial⟩,
          h.client peerToken hTaken, rfl⟩
      · exact ⟨none, n, .nil n, h.stutter hConnection
          (hConveys.read hFirst hType (sameCounters_receive hType hRead)), rfl⟩
  | drop peerToken endpoint packet rest error hOpen hFirst hCarried =>
      have hArrives := Deployment.Sendable.carried
        ((hAll.clients peerToken endpoint hOpen).sending packet (hFirst ▸ List.mem_cons_self))
      rw [hCarried] at hArrives
      cases hArrives
  | deliver peerToken endpoint packet received rest outcome sent host hOpen hFirst hCarried hHost =>
      obtain ⟨connection, hConnection, hConveys⟩ := h.clients peerToken endpoint hOpen
      have hReads := hConveys.toServer
      rw [hFirst] at hReads
      obtain ⟨read, later, hRead, -, hPackets⟩ := List.forall₂_cons_left_iff.mp hReads
      rw [hRead.read_of_carried hCarried] at hHost ⊢
      have hLoop := hHost.loopStep
      rw [← h.server] at hLoop
      refine ⟨some _, _, .single ⟨.receive n peerToken connection read outcome host.loop hConnection
        (by rw [hPackets]; rfl) hLoop, trivial⟩, ⟨rfl, fun peer hClosed => ?_,
          fun peer other hOther => ?_⟩, rfl⟩
      · have hBefore := Option.map_eq_none_iff.mp hClosed
        by_cases hPeer : peer = peerToken
        · rw [hPeer, Deployment.endpoints_update_self] at hBefore
          cases hBefore
        · rw [Deployment.endpoints_update_of_ne _ hPeer] at hBefore
          rw [Network.connections_update_of_ne _ hPeer]
          exact h.absent peer hBefore
      · obtain ⟨before, hBefore, rfl⟩ := Option.map_eq_some_iff.mp hOther
        by_cases hPeer : peer = peerToken
        · subst hPeer
          rw [Deployment.endpoints_update_self] at hBefore
          obtain rfl := Option.some.inj hBefore
          rw [Network.connections_update_self]
          exact ⟨_, rfl, hConveys.deliver hFirst (filter_sentTo hTables hHost)⟩
        · rw [Deployment.endpoints_update_of_ne _ hPeer] at hBefore
          rw [Network.connections_update_of_ne _ hPeer]
          obtain ⟨theirs, hTheirs, hTold⟩ := h.clients peer before hBefore
          refine ⟨theirs, hTheirs, hTold.told (type_ne_joinAccept hTables hHost ?_)⟩
          intro asked result hEvent
          injection hEvent with hAsker
          exact hPeer hAsker.symm
  | disconnect peerToken session sent host hHost =>
      have hLoop := hHost.loopStep
      rw [← h.server] at hLoop
      refine ⟨some _, _, .single ⟨.disconnect n peerToken session host.loop hLoop, trivial⟩,
        ⟨rfl, fun peer hClosed => ?_, fun peer other hOpen => ?_⟩, rfl⟩
      · by_cases hPeer : peer = peerToken
        · rw [hPeer]
          exact Network.connections_update_self _ _ _
        · rw [Deployment.endpoints_update_of_ne _ hPeer] at hClosed
          rw [Network.connections_update_of_ne _ hPeer]
          exact h.absent peer hClosed
      · by_cases hPeer : peer = peerToken
        · rw [hPeer, Deployment.endpoints_update_self] at hOpen
          cases hOpen
        · rw [Deployment.endpoints_update_of_ne _ hPeer] at hOpen
          rw [Network.connections_update_of_ne _ hPeer]
          exact h.clients peer other hOpen
  | run event sent host hInternal hHost =>
      have hLoop := hHost.loopStep
      rw [← h.server] at hLoop
      refine ⟨some _, _, .single ⟨.run n event host.loop hInternal hLoop, trivial⟩,
        h.distribute fun peer _ => type_ne_joinAccept hTables hHost fun asked result hEvent => ?_, rfl⟩
      dsimp only at hEvent
      rw [hEvent] at hInternal
      cases hInternal

end Realises

namespace Deployment

variable {settings : OutboundSettings F} {setup : ServerSetup F} {s t : Deployment F}

end Deployment

end DevyFps.Replication
