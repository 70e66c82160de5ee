import DevyFps.Replication.CommandDelivery
import DevyFps.Replication.HudMirror

/-! The server and the clients that are connected to it, with the code of both ends: every packet
is printed where it is sent and parsed where it arrives, and none is lost or overtakes another. -/

namespace DevyFps.Replication

open Foundations Net Client Server
open Server.MainLoop (LoopEvent LoopStep)
open Server.ServerHost (HostStep)
open Voxel (KeepsFinite)

variable {F : Type} [SingleFloat F]

/-- A client with the packets that are under way between it and the server. -/
structure Endpoint (F : Type) [SingleFloat F] where
  settings : ClientSettings
  client : ClientLoop F
  toServer : Outgoing F := []
  toClient : Outgoing F := []

/-- The server, and the client of every peer that is connected. -/
structure Deployment (F : Type) [SingleFloat F] where
  host : ServerHost F
  endpoints : PeerToken → Option (Endpoint F)

inductive DeploymentEvent (F : Type) [SingleFloat F] where
  | host (event : HostEvent F)
  | acted (peerToken : PeerToken) (deed : ClientDeed F)
  | read (peerToken : PeerToken) (packet : Net.Packet (SingleFloat.Double F))
  /-- The server does not accept a packet. -/
  | dropped (peerToken : PeerToken) (packet : Net.Packet (SingleFloat.Double F))

namespace Deployment

def create (setup : ServerSetup F) : Deployment F where
  host := .create setup
  endpoints _ := none

/-- The deployment with the endpoint of one peer replaced. -/
def update (s : Deployment F) (peerToken : PeerToken) (endpoint : Option (Endpoint F)) :
    Deployment F :=
  { s with endpoints := Function.update s.endpoints peerToken endpoint }

/-- What the server sends is put on its way to the clients. -/
def distribute (s : Deployment F) (sent : List (SentPacket F)) : Deployment F :=
  { s with
    endpoints := fun peerToken => (s.endpoints peerToken).map fun endpoint =>
      { endpoint with toClient := endpoint.toClient ++ sentTo peerToken sent } }

@[simp]
theorem endpoints_update_self (s : Deployment F) (peerToken : PeerToken)
    (endpoint : Option (Endpoint F)) : (s.update peerToken endpoint).endpoints peerToken = endpoint :=
  Function.update_self _ _ _

theorem endpoints_update_of_ne (s : Deployment F) {peerToken peer : PeerToken} (h : peer ≠ peerToken)
    (endpoint : Option (Endpoint F)) :
    (s.update peerToken endpoint).endpoints peer = s.endpoints peer :=
  Function.update_of_ne h _ _

/-- The steps of the server, of the clients and of the transport. -/
inductive DeploymentStep (settings : OutboundSettings F) :
    Deployment F → DeploymentEvent F → Deployment F → Prop where
  | connect (s : Deployment F) (peerToken : PeerToken) (clientSettings : ClientSettings)
      (config : PredictionConfig F) (profile : Voxel.WorldGenerationProfile F)
      (sent : List (SentPacket F)) (host : ServerHost F) (hNew : s.endpoints peerToken = none)
      (hStep : HostStep settings s.host ⟨.connected peerToken, sent⟩ host) :
      DeploymentStep settings s (.host ⟨.connected peerToken, sent⟩)
        ({ s with host }.update peerToken
          (some { settings := clientSettings, client := .create config profile }))
  | act (s : Deployment F) (peerToken : PeerToken) (endpoint : Endpoint F) (deed : ClientDeed F)
      (hOpen : s.endpoints peerToken = some endpoint)
      (hNew : deed = .connect → endpoint.client.connectionReady = false)
      (hFinite : FiniteDeed deed) :
      DeploymentStep settings s (.acted peerToken deed)
        (s.update peerToken (some
          { endpoint with
            client := (endpoint.client.act endpoint.settings deed).2
            toServer := endpoint.toServer ++ (endpoint.client.act endpoint.settings deed).1 }))
  | read (s : Deployment F) (peerToken : PeerToken) (endpoint : Endpoint F)
      (packet : Net.Packet (SingleFloat.Double F)) (rest : Outgoing F) (now : Nat)
      (client : ClientLoop F) (hOpen : s.endpoints peerToken = some endpoint)
      (hFirst : endpoint.toClient = packet :: rest)
      (hRead : endpoint.client.receive endpoint.settings now packet = .ok client) :
      DeploymentStep settings s (.read peerToken packet)
        (s.update peerToken (some { endpoint with client, toClient := rest }))
  | deliver (s : Deployment F) (peerToken : PeerToken) (endpoint : Endpoint F)
      (packet received : Net.Packet (SingleFloat.Double F)) (rest : Outgoing F)
      (outcome : PacketOutcome F) (sent : List (SentPacket F)) (host : ServerHost F)
      (hOpen : s.endpoints peerToken = some endpoint) (hFirst : endpoint.toServer = packet :: rest)
      (hCarried : carried packet = .ok received)
      (hStep : HostStep settings s.host
        ⟨.received peerToken (MainLoop.readPacket received) outcome, sent⟩ host) :
      DeploymentStep settings s
        (.host ⟨.received peerToken (MainLoop.readPacket received) outcome, sent⟩)
        (({ s with host }.update peerToken
          (some { endpoint with toServer := rest })).distribute sent)
  | drop (s : Deployment F) (peerToken : PeerToken) (endpoint : Endpoint F)
      (packet : Net.Packet (SingleFloat.Double F)) (rest : Outgoing F) (error : ParseFailure)
      (hOpen : s.endpoints peerToken = some endpoint) (hFirst : endpoint.toServer = packet :: rest)
      (hCarried : carried packet = .error error) :
      DeploymentStep settings s (.dropped peerToken packet)
        (s.update peerToken (some { endpoint with toServer := rest }))
  | disconnect (s : Deployment F) (peerToken : PeerToken) (session : Option SessionView)
      (sent : List (SentPacket F)) (host : ServerHost F)
      (hStep : HostStep settings s.host ⟨.disconnected peerToken session, sent⟩ host) :
      DeploymentStep settings s (.host ⟨.disconnected peerToken session, sent⟩)
        ({ s with host }.update peerToken none)
  | run (s : Deployment F) (event : LoopEvent F) (sent : List (SentPacket F))
      (host : ServerHost F) (hInternal : isInternal event = true)
      (hStep : HostStep settings s.host ⟨event, sent⟩ host) :
      DeploymentStep settings s (.host ⟨event, sent⟩) ({ s with host }.distribute sent)

/-- No counter of a client wraps around. -/
def Unwrapped (s : Deployment F) : DeploymentEvent F → Prop
  | .acted peerToken _ => ∀ endpoint, s.endpoints peerToken = some endpoint →
      ∀ kind, nextNumber endpoint.client kind + 1 < 2 ^ 32
  | _ => True

/-- What the server sees of an event. -/
def hostEvents : DeploymentEvent F → List (HostEvent F)
  | .host event => [event]
  | _ => []

end Deployment

/-! What holds of a client between the steps. -/

namespace Endpoint

/-- The join requests that are under way, their answers, and the one that was taken. -/
def turns (endpoint : Endpoint F) : Nat :=
  endpoint.toServer.countP (fun packet => packet.type = .joinRequest) +
    endpoint.toClient.countP (fun packet => packet.type = .joinAccept) +
    endpoint.client.joined.toNat

end Endpoint

/-- What the server answers a join request first. -/
def answerTo (settings : OutboundSettings F) (result : JoinResult) :
    Net.Packet (SingleFloat.Double F) :=
  if result.accepted then settings.joinAccepted result else settings.joinRejected result

/-- A command of a player, or the join request of somebody who is none yet. -/
inductive Sendable (client : ClientLoop F) (packet : Net.Packet (SingleFloat.Double F)) : Prop where
  | joinRequest (hPacket : packet = joinRequestPacket)
  | command (message : Message F) (hJoined : client.joined = true)
      (hRead : Understood packet (.message message))
      (hNamed : namedPlayer message = some client.localPlayerId)

/-- The session of the peer, if it has one, is that of the player. -/
def SeatedAs (server : MainLoop F) (peerToken : PeerToken) (playerId : Nat) : Prop :=
  ∀ id, server.sessionManager.seat peerToken = some id → id = playerId

/-- What holds of a client that is connected. It asks to join once, and what it says is said
under the id of its session. -/
structure InTouch (settings : OutboundSettings F) (server : MainLoop F) (peerToken : PeerToken)
    (endpoint : Endpoint F) : Prop where
  sized : Sized endpoint.client
  turn : endpoint.turns ≤ endpoint.client.connectionReady.toNat
  sending : ∀ packet ∈ endpoint.toServer, Sendable endpoint.client packet
  answers : ∀ packet ∈ endpoint.toClient, packet.type = .joinAccept →
    ∃ result, packet = answerTo settings result ∧ (result.accepted = true →
      result.session.playerId < 2 ^ 32 ∧ SeatedAs server peerToken result.session.playerId)
  seated : endpoint.client.joined = true →
    SeatedAs server peerToken endpoint.client.localPlayerId
  free : endpoint.client.joined = false →
    (∀ result, result.accepted = true → answerTo settings result ∉ endpoint.toClient) →
      server.sessionManager.seat peerToken = none

/-- What the server reads of a packet that it understands. -/
theorem Understood.read_of_carried {packet received : Net.Packet (SingleFloat.Double F)}
    {read : Server.Packet F} (h : Understood packet read)
    (hCarried : Net.carried packet = .ok received) :
    MainLoop.readPacket received = read := by
  rw [h.carried] at hCarried
  rw [← Except.ok.inj hCarried]
  exact h.read

/-- A command is no join request. -/
theorem Understood.type_ne_joinRequest {packet : Net.Packet (SingleFloat.Double F)}
    {message : Message F} (h : Understood packet (.message message)) :
    packet.type ≠ .joinRequest := by
  intro hType
  have hRead := h.read
  unfold MainLoop.readPacket at hRead
  dsimp only at hRead
  rw [hType] at hRead
  cases hRead

theorem type_answerTo (settings : OutboundSettings F) (result : JoinResult) :
    (answerTo settings result).type = .joinAccept := by
  unfold answerTo
  split
  · rfl
  · rfl

/-- An acceptance is no rejection. -/
theorem answerTo_ne_joinRejected {settings : OutboundSettings F} {result other : JoinResult}
    (h : result.accepted = true) : answerTo settings result ≠ settings.joinRejected other := by
  intro hSame
  unfold answerTo at hSame
  rw [if_pos h] at hSame
  have hFlag := congrArg (fun packet => packet.payload.member "accepted") hSame
  cases Option.some.inj hFlag

namespace InTouch

variable {settings : OutboundSettings F} {server server' : MainLoop F} {peerToken : PeerToken}
  {endpoint : Endpoint F}

/-- A new connection, and no session of its peer. -/
theorem opened (settings : OutboundSettings F)
    (hNew : server.sessionManager.seat peerToken = none)
    (clientSettings : ClientSettings) (config : PredictionConfig F)
    (profile : Voxel.WorldGenerationProfile F) :
    InTouch settings server peerToken
      { settings := clientSettings, client := .create config profile } where
  sized := by
    refine ⟨show 0 < 2 ^ 32 by decide, fun kind => ?_, fun _ hSpawn => by cases hSpawn⟩
    cases kind with
    | input => exact show 1 < 2 ^ 32 by decide
    | fire => exact show 1 < 2 ^ 32 by decide
    | pickup => exact show 1 < 2 ^ 32 by decide
  turn := Nat.le_refl _
  sending _ hPacket := by cases hPacket
  answers _ hPacket := by cases hPacket
  seated hJoined := by cases hJoined
  free _ _ := hNew

/-- The server does something else: no session of the peer begins, and it is sent no answer. -/
theorem told (h : InTouch settings server peerToken endpoint)
    (hSeat : ∀ id, server'.sessionManager.seat peerToken = some id →
      server.sessionManager.seat peerToken = some id)
    {sent : Outgoing F} (hSent : ∀ packet ∈ sent, packet.type ≠ .joinAccept) :
    InTouch settings server' peerToken { endpoint with toClient := endpoint.toClient ++ sent } where
  sized := h.sized
  turn := by
    have hNone : sent.countP (fun packet => packet.type = .joinAccept) = 0 :=
      List.countP_eq_zero.mpr fun packet hPacket => by simpa using hSent packet hPacket
    have hTurn := h.turn
    unfold Endpoint.turns at hTurn ⊢
    dsimp only
    rw [List.countP_append, hNone, Nat.add_zero]
    exact hTurn
  sending := h.sending
  answers packet hPacket hType := by
    rcases List.mem_append.mp hPacket with hOld | hNew
    · obtain ⟨result, hAnswer, hAccepted⟩ := h.answers packet hOld hType
      exact ⟨result, hAnswer, fun hYes => ⟨(hAccepted hYes).1, fun id hId =>
        (hAccepted hYes).2 id (hSeat id hId)⟩⟩
    · exact absurd hType (hSent packet hNew)
  seated hJoined id hId := h.seated hJoined id (hSeat id hId)
  free hJoined hNone := by
    have hBefore := h.free hJoined fun result hAccepted hAnswer =>
      hNone result hAccepted (List.mem_append_left _ hAnswer)
    cases hNow : server'.sessionManager.seat peerToken with
    | none => rfl
    | some id =>
        rw [hSeat id hNow] at hBefore
        cases hBefore

/-- The client connects and asks to join. -/
theorem connect (h : InTouch settings server peerToken endpoint)
    (hNew : endpoint.client.connectionReady = false) :
    InTouch settings server peerToken
      { endpoint with
        client := endpoint.client.connect.2
        toServer := endpoint.toServer ++ endpoint.client.connect.1 } where
  sized := sized_connect h.sized
  turn := by
    have hTurn := h.turn
    rw [hNew] at hTurn
    unfold Endpoint.turns at hTurn ⊢
    change List.countP _ (endpoint.toServer ++ [joinRequestPacket]) +
      List.countP _ endpoint.toClient + endpoint.client.joined.toNat ≤ 1
    rw [List.countP_append]
    change List.countP _ endpoint.toServer + 1 + _ + _ ≤ 1
    rw [Bool.toNat_false] at hTurn
    omega
  sending packet hPacket := by
    rcases List.mem_append.mp hPacket with hOld | hRequest
    · cases h.sending packet hOld with
      | joinRequest hSame => exact .joinRequest hSame
      | command message hJoined hRead hNamed => exact .command message hJoined hRead hNamed
    · exact .joinRequest (List.mem_singleton.mp hRequest)
  answers := h.answers
  seated := h.seated
  free := h.free

/-- The client does anything else. -/
theorem act [KeepsFinite F] (h : InTouch settings server peerToken endpoint)
    {deed : ClientDeed F} (hFinite : FiniteDeed deed) (hOld : deed ≠ .connect) :
    InTouch settings server peerToken
      { endpoint with
        client := (endpoint.client.act endpoint.settings deed).2
        toServer := endpoint.toServer ++ (endpoint.client.act endpoint.settings deed).1 } := by
  have hSame := endpoint.client.sameDisplay_act endpoint.settings deed
  have hReady := endpoint.client.connectionReady_act endpoint.settings hOld
  have hSends := sends_act h.sized endpoint.settings hFinite hOld
  have hNew : ∀ packet ∈ (endpoint.client.act endpoint.settings deed).1,
      packet.type ≠ .joinRequest ∧
        Sendable (endpoint.client.act endpoint.settings deed).2 packet := by
    intro packet hPacket
    generalize hSent : (endpoint.client.act endpoint.settings deed).1 = sent at hSends hPacket
    cases hSends with
    | nothing hNext => cases hPacket
    | command sent message hPlaying hRead hNamed hNumber hNext =>
        obtain rfl := List.mem_singleton.mp hPacket
        have hJoined : endpoint.client.joined = true := by
          unfold ClientLoop.isPlaying at hPlaying
          exact (Bool.and_eq_true_iff.mp hPlaying).1
        exact ⟨hRead.type_ne_joinRequest,
          .command message (hSame.joined.trans hJoined) hRead (hSame.localPlayerId ▸ hNamed)⟩
  refine ⟨sized_act h.sized endpoint.settings hFinite hOld, ?_, fun packet hPacket => ?_,
    h.answers, fun hJoined => ?_, fun hJoined => h.free (hSame.joined.symm.trans hJoined)⟩
  · have hNone : (endpoint.client.act endpoint.settings deed).1.countP
        (fun packet => packet.type = .joinRequest) = 0 :=
      List.countP_eq_zero.mpr fun packet hPacket => by simpa using (hNew packet hPacket).1
    have hTurn := h.turn
    unfold Endpoint.turns at hTurn ⊢
    dsimp only
    rw [List.countP_append, hNone, Nat.add_zero, hSame.joined, hReady]
    exact hTurn
  · rcases List.mem_append.mp hPacket with hOldPacket | hSent
    · cases h.sending packet hOldPacket with
      | joinRequest hPacket => exact .joinRequest hPacket
      | command message hJoined hRead hNamed =>
          exact .command message (hSame.joined.trans hJoined) hRead (hSame.localPlayerId ▸ hNamed)
    · exact (hNew packet hSent).2
  · dsimp only at hJoined ⊢
    rw [hSame.localPlayerId]
    exact h.seated (hSame.joined ▸ hJoined)

end InTouch

/-! The answers to a join request. -/

section Answers

variable {settings : OutboundSettings F} {result : JoinResult}

/-- An accepted client starts to play under the id that it was given. -/
theorem receive_joinAccepted (s : ClientLoop F) (clientSettings : ClientSettings) (now : Nat)
    (hId : result.session.playerId < 2 ^ 32) :
    s.receive clientSettings now (settings.joinAccepted result) =
      .ok (s.startPlaying result.session.playerId now
        (arrived (settings.joinAccepted result).payload)) := by
  have hAccepted : (arrived (settings.joinAccepted result).payload).valueAs Json.getBool "accepted"
      false = .ok true := rfl
  have hPlayer : (arrived (settings.joinAccepted result).payload).valueJson "player_id" =
      .ok (arrived (ofUnsigned result.session.playerId)) := rfl
  unfold ClientLoop.receive
  rw [(taken_joinAccepted result).carried]
  change s.receiveJoinAccept now (arrived (settings.joinAccepted result).payload) = _
  unfold ClientLoop.receiveJoinAccept
  rw [hAccepted, ok_bind, hPlayer]
  simp only [ok_bind, jsonToU32_eq, readU32_arrived, readU32_ofUnsigned hId]
  rfl

/-- A rejected one gives up. -/
theorem receive_joinRejected (s : ClientLoop F) (clientSettings : ClientSettings) (now : Nat) :
    s.receive clientSettings now (settings.joinRejected result) =
      .ok { s with quitting := true } := by
  unfold ClientLoop.receive
  rw [(taken_joinRejected result).carried]
  rfl

theorem sized_startPlaying (s : ClientLoop F) {playerId : Nat} (hId : playerId < 2 ^ 32)
    (now : Nat) (payload : Document F) : Sized (s.startPlaying playerId now payload) := by
  refine ⟨hId, fun kind => ?_, fun _ hSpawn => by cases hSpawn⟩
  cases kind with
  | input => exact show 1 < 2 ^ 32 by decide
  | fire => exact show 1 < 2 ^ 32 by decide
  | pickup => exact show 1 < 2 ^ 32 by decide

end Answers

namespace InTouch

variable {settings : OutboundSettings F} {server server' : MainLoop F} {peerToken : PeerToken}
  {endpoint : Endpoint F}

/-- While an answer is under way the client plays not yet, and nothing else is under way. -/
theorem waiting (h : InTouch settings server peerToken endpoint)
    {packet : Net.Packet (SingleFloat.Double F)} {rest : Outgoing F}
    (hFirst : endpoint.toClient = packet :: rest) (hType : packet.type = .joinAccept) :
    endpoint.client.joined = false ∧ endpoint.toServer = [] ∧
      rest.countP (fun packet => packet.type = .joinAccept) = 0 ∧
      endpoint.client.connectionReady = true := by
  have hTurn := h.turn
  unfold Endpoint.turns at hTurn
  rw [hFirst, List.countP_cons_of_pos (by simpa using hType)] at hTurn
  have hReady := Bool.toNat_le endpoint.client.connectionReady
  have hJoined : endpoint.client.joined = false := Bool.toNat_eq_zero.mp (by omega)
  refine ⟨hJoined, List.eq_nil_iff_forall_not_mem.mpr fun sent hSent => ?_, by omega,
    Bool.toNat_eq_one.mp (by omega)⟩
  have hNone : endpoint.toServer.countP (fun packet => packet.type = .joinRequest) = 0 := by omega
  cases h.sending sent hSent with
  | joinRequest hPacket =>
      refine List.countP_eq_zero.mp hNone sent hSent ?_
      rw [hPacket]
      rfl
  | command message hPlays hRead hNamed =>
      rw [hJoined] at hPlays
      cases hPlays

/-- The client reads the first packet. -/
theorem read (h : InTouch settings server peerToken endpoint)
    {packet : Net.Packet (SingleFloat.Double F)} {rest : Outgoing F} {now : Nat}
    {client : ClientLoop F} (hFirst : endpoint.toClient = packet :: rest)
    (hRead : endpoint.client.receive endpoint.settings now packet = .ok client) :
    InTouch settings server peerToken { endpoint with client, toClient := rest } := by
  have hRest : ∀ other ∈ rest, other ∈ endpoint.toClient := fun other hOther => by
    rw [hFirst]
    exact List.mem_cons_of_mem _ hOther
  by_cases hType : packet.type = .joinAccept
  · obtain ⟨hJoined, hNothing, hOnly, hReady⟩ := h.waiting hFirst hType
    obtain ⟨result, rfl, hAccepted⟩ := h.answers packet (hFirst ▸ List.mem_cons_self) hType
    unfold answerTo at hRead
    split at hRead
    · rename_i hYes
      obtain ⟨hId, hSeated⟩ := hAccepted hYes
      rw [receive_joinAccepted _ _ _ hId] at hRead
      cases hRead
      refine ⟨sized_startPlaying _ hId _ _, ?_, fun sent hSent => ?_,
        fun other hOther => h.answers other (hRest other hOther), fun _ => hSeated,
        fun hNotYet => by cases hNotYet⟩
      · unfold Endpoint.turns
        dsimp only
        rw [hNothing, hOnly]
        exact hReady.symm ▸ Nat.le_refl 1
      · rw [hNothing] at hSent
        cases hSent
    · rename_i hNo
      rw [receive_joinRejected] at hRead
      cases hRead
      refine ⟨⟨h.sized.playerId, fun kind => ?_, h.sized.spawns⟩, ?_, fun sent hSent => ?_,
        fun other hOther => h.answers other (hRest other hOther), h.seated, fun _ hNone => ?_⟩
      · have hNext := h.sized.next kind
        cases kind <;> exact hNext
      · unfold Endpoint.turns
        dsimp only
        rw [hNothing, hOnly, hJoined]
        exact Nat.zero_le _
      · rw [hNothing] at hSent
        cases hSent
      · refine h.free hJoined fun other hYes hAnswer => ?_
        rw [hFirst] at hAnswer
        rcases List.mem_cons.mp hAnswer with hSame | hLater
        · exact answerTo_ne_joinRejected hYes (hSame.trans (if_neg hNo))
        · exact hNone other hYes hLater
  · have hSame := sameCounters_receive hType hRead
    refine ⟨hSame.sized h.sized, ?_, fun sent hSent => ?_,
      fun other hOther => h.answers other (hRest other hOther), fun hJoined => ?_,
      fun hJoined hNone => ?_⟩
    · have hTurn := h.turn
      unfold Endpoint.turns at hTurn ⊢
      rw [hFirst, List.countP_cons_of_neg (by simpa using hType)] at hTurn
      dsimp only
      rw [hSame.joined, hSame.connectionReady]
      exact hTurn
    · cases h.sending sent hSent with
      | joinRequest hPacket => exact .joinRequest hPacket
      | command message hJoined hUnderstood hNamed =>
          exact .command message (hSame.joined.trans hJoined) hUnderstood
            (hSame.localPlayerId ▸ hNamed)
    · dsimp only at hJoined ⊢
      rw [hSame.localPlayerId]
      exact h.seated (hSame.joined ▸ hJoined)
    · refine h.free (hSame.joined.symm.trans hJoined) fun result hYes hAnswer => ?_
      rw [hFirst] at hAnswer
      rcases List.mem_cons.mp hAnswer with hHead | hLater
      · exact hType (hHead ▸ type_answerTo settings result)
      · exact hNone result hYes hLater

/-- The server takes a command. -/
theorem taken (h : InTouch settings server peerToken endpoint)
    {packet : Net.Packet (SingleFloat.Double F)} {rest : Outgoing F}
    (hFirst : endpoint.toServer = packet :: rest) :
    InTouch settings server peerToken { endpoint with toServer := rest } where
  sized := h.sized
  turn := by
    have hTurn := h.turn
    unfold Endpoint.turns at hTurn ⊢
    rw [hFirst, List.countP_cons] at hTurn
    dsimp only
    omega
  sending sent hSent := h.sending sent (hFirst ▸ List.mem_cons_of_mem _ hSent)
  answers := h.answers
  seated := h.seated
  free := h.free

/-- Before its join request is answered, the peer has no session. -/
theorem unseated (h : InTouch settings server peerToken endpoint) {rest : Outgoing F}
    (hFirst : endpoint.toServer = joinRequestPacket :: rest) :
    endpoint.client.joined = false ∧
      endpoint.toClient.countP (fun packet => packet.type = .joinAccept) = 0 ∧
      server.sessionManager.seat peerToken = none := by
  have hTurn := h.turn
  have hReady := Bool.toNat_le endpoint.client.connectionReady
  unfold Endpoint.turns at hTurn
  rw [hFirst, List.countP_cons_of_pos rfl] at hTurn
  have hJoined : endpoint.client.joined = false := Bool.toNat_eq_zero.mp (by omega)
  have hNone : endpoint.toClient.countP (fun packet => packet.type = .joinAccept) = 0 := by omega
  refine ⟨hJoined, hNone, h.free hJoined fun result _ hAnswer => ?_⟩
  exact List.countP_eq_zero.mp hNone _ hAnswer (by simpa using type_answerTo settings result)

/-- The server takes the join request and answers it. -/
theorem answered (h : InTouch settings server peerToken endpoint) {rest : Outgoing F}
    (hFirst : endpoint.toServer = joinRequestPacket :: rest) {result : JoinResult}
    {sent : Outgoing F} (hSent : sent.head? = some (answerTo settings result))
    (hTail : ∀ packet ∈ sent.tail, packet.type ≠ .joinAccept)
    (hAccepted : result.accepted = true → result.session.playerId < 2 ^ 32 ∧
      SeatedAs server' peerToken result.session.playerId)
    (hRefused : result.accepted = false → server'.sessionManager.seat peerToken = none) :
    InTouch settings server' peerToken
      { endpoint with toServer := rest, toClient := endpoint.toClient ++ sent } := by
  have hTurn := h.turn
  unfold Endpoint.turns at hTurn
  rw [hFirst, List.countP_cons_of_pos rfl] at hTurn
  obtain ⟨hJoined, hNone, -⟩ := h.unseated hFirst
  obtain ⟨later, rfl⟩ := List.head?_eq_some_iff.mp hSent
  have hOne : (answerTo settings result :: later).countP
      (fun packet => packet.type = .joinAccept) = 1 := by
    rw [List.countP_cons_of_pos (by simpa using type_answerTo settings result),
      List.countP_eq_zero.mpr fun packet hPacket => by simpa using hTail packet hPacket]
  refine ⟨h.sized, ?_, fun packet hPacket => h.sending packet (hFirst ▸ List.mem_cons_of_mem _ hPacket),
    fun packet hPacket hType => ?_, fun hPlays => ?_, fun _ hSilent => ?_⟩
  · unfold Endpoint.turns
    dsimp only
    rw [List.countP_append, hNone, hOne]
    omega
  · rcases List.mem_append.mp hPacket with hOld | hNew
    · exact absurd hType (by simpa using List.countP_eq_zero.mp hNone packet hOld)
    · rcases List.mem_cons.mp hNew with rfl | hLater
      · exact ⟨result, rfl, hAccepted⟩
      · exact absurd hType (hTail packet hLater)
  · rw [show endpoint.client.joined = true from hPlays] at hJoined
    cases hJoined
  · refine hRefused (Bool.eq_false_iff.mpr fun hYes => ?_)
    exact hSilent result hYes (List.mem_append_right _ List.mem_cons_self)

/-- The server does something that is not about the peer. -/
theorem undisturbed (h : InTouch settings server peerToken endpoint)
    (hSeat : ∀ id, server'.sessionManager.seat peerToken = some id →
      server.sessionManager.seat peerToken = some id) :
    InTouch settings server' peerToken endpoint := by
  have hTold : InTouch settings server' peerToken
      { endpoint with toClient := endpoint.toClient ++ [] } :=
    h.told hSeat fun _ hPacket => by cases hPacket
  rw [List.append_nil] at hTold
  exact hTold

end InTouch

namespace Deployment

variable {settings : OutboundSettings F} {setup : ServerSetup F} {s t : Deployment F}

/-- An event that accepts no join of a peer gives it no seat. -/
theorem seat_of_noJoin {server server' : MainLoop F} {event : LoopEvent F}
    (hTables : server.sessionManager.TablesAgree) (hStep : LoopStep server event server')
    {peerToken : PeerToken}
    (hNoJoin : ∀ packet result, event ≠ .received peerToken packet (.join result)) {id : Nat}
    (hSeat : server'.sessionManager.seat peerToken = some id) :
    server.sessionManager.seat peerToken = some id := by
  rw [(MainLoop.peer_step hTables hStep peerToken).1] at hSeat
  cases event with
  | received asker packet outcome =>
      cases outcome with
      | join result =>
          refine (if_neg fun hMine => ?_).symm.trans hSeat
          exact hNoJoin packet result (by rw [hMine.1])
      | _ => exact hSeat
  | disconnected other session =>
      unfold MainLoop.seatAfter at hSeat
      dsimp only at hSeat
      split at hSeat
      · cases hSeat
      · exact hSeat
  | timedOut sessions =>
      unfold MainLoop.seatAfter at hSeat
      dsimp only at hSeat
      split at hSeat
      · cases hSeat
      · exact hSeat
  | _ => exact hSeat

/-- Every client that is connected is in touch with the server, and nobody else has a session. -/
structure AllInTouch (settings : OutboundSettings F) (s : Deployment F) : Prop where
  clients : ∀ peerToken endpoint, s.endpoints peerToken = some endpoint →
    InTouch settings s.host.loop peerToken endpoint
  absent : ∀ peerToken, s.endpoints peerToken = none →
    s.host.loop.sessionManager.seat peerToken = none

/-- A client that takes a step of its own. -/
theorem AllInTouch.client (h : AllInTouch settings s) {peerToken : PeerToken}
    {endpoint : Endpoint F} (hOwn : InTouch settings s.host.loop peerToken endpoint) :
    AllInTouch settings (s.update peerToken (some endpoint)) := by
  refine ⟨fun peer other hOpen => ?_, fun peer hClosed => ?_⟩
  · by_cases hPeer : peer = peerToken
    · rw [hPeer, endpoints_update_self] at hOpen
      obtain rfl := Option.some.inj hOpen
      rw [hPeer]
      exact hOwn
    · rw [endpoints_update_of_ne _ hPeer] at hOpen
      exact h.clients peer other hOpen
  · by_cases hPeer : peer = peerToken
    · rw [hPeer, endpoints_update_self] at hClosed
      cases hClosed
    · rw [endpoints_update_of_ne _ hPeer] at hClosed
      exact h.absent peer hClosed

/-- Nobody is seated without a join. -/
theorem AllInTouch.stillAbsent (h : AllInTouch settings s) {event : LoopEvent F}
    {loop : MainLoop F} (hTables : s.host.loop.sessionManager.TablesAgree)
    (hStep : LoopStep s.host.loop event loop) {peer : PeerToken}
    (hClosed : s.endpoints peer = none)
    (hNoJoin : ∀ packet result, event ≠ .received peer packet (.join result)) :
    loop.sessionManager.seat peer = none := by
  cases hNow : loop.sessionManager.seat peer with
  | none => rfl
  | some id =>
      have hBefore := seat_of_noJoin hTables hStep hNoJoin hNow
      rw [h.absent peer hClosed] at hBefore
      cases hBefore

/-- The clients that a step of the server does not concern but for what it tells them. -/
theorem AllInTouch.bystander (h : AllInTouch settings s) {event : HostEvent F}
    {host : ServerHost F} (hTables : s.host.loop.sessionManager.TablesAgree)
    (hStep : HostStep settings s.host event host) {peer : PeerToken} {endpoint : Endpoint F}
    (hOpen : s.endpoints peer = some endpoint)
    (hNoJoin : ∀ packet result, event.event ≠ .received peer packet (.join result)) :
    InTouch settings host.loop peer
      { endpoint with toClient := endpoint.toClient ++ sentTo peer event.sent } :=
  (h.clients peer endpoint hOpen).told (fun _ hSeat => seat_of_noJoin hTables hStep.loopStep hNoJoin hSeat)
    (type_ne_joinAccept hTables hStep hNoJoin)

/-- The answers to an accepted join. -/
theorem joinAnswer_eq (settings : OutboundSettings F) (result : JoinResult) (loop : MainLoop F) :
    (settings.joinAnswer result loop).head? = some (answerTo settings result) ∧
      ∀ packet ∈ (settings.joinAnswer result loop).tail, packet.type ≠ .joinAccept := by
  unfold OutboundSettings.joinAnswer answerTo
  split
  · refine ⟨rfl, fun packet hPacket => ?_⟩
    rw [List.mem_singleton.mp hPacket]
    exact MessageType.noConfusion
  · exact ⟨rfl, fun packet hPacket => by cases hPacket⟩

/-- A packet of a client arrives at the server. -/
theorem AllInTouch.deliver (h : AllInTouch settings s) (hMeant : MainLoop.Meant settings setup)
    {trace : List (HostEvent F)} (run : Run (HostStep settings) (.create setup) trace s.host)
    {peerToken : PeerToken} {endpoint : Endpoint F}
    {packet received : Net.Packet (SingleFloat.Double F)} {rest : Outgoing F}
    {outcome : PacketOutcome F} {sent : List (SentPacket F)} {host : ServerHost F}
    (hOpen : s.endpoints peerToken = some endpoint) (hFirst : endpoint.toServer = packet :: rest)
    (hCarried : carried packet = .ok received)
    (hStep : HostStep settings s.host
      ⟨.received peerToken (MainLoop.readPacket received) outcome, sent⟩ host) :
    InTouch settings host.loop peerToken
      { endpoint with toServer := rest, toClient := endpoint.toClient ++ sentTo peerToken sent } := by
  have hTables := ServerHost.tables_run run
  have hOwn := h.clients peerToken endpoint hOpen
  cases hOwn.sending packet (hFirst ▸ List.mem_cons_self) with
  | command message hJoined hRead hNamed =>
      rw [hRead.read_of_carried hCarried] at hStep
      have hHeard := MainLoop.heard_message hStep.loopStep
      refine (hOwn.told (fun id hSeat => ?_) (type_ne_joinAccept hTables hStep ?_)).taken hFirst
      · rw [hHeard.seat] at hSeat
        exact hSeat
      · intro other result hEvent
        injection hEvent with _ _ hOutcome
        exact hHeard.notJoin result hOutcome
  | joinRequest hPacket =>
      subst hPacket
      rw [understood_joinRequestPacket.read_of_carried hCarried] at hStep
      obtain ⟨now, hOutcome, -⟩ := MainLoop.received_step hStep.loopStep
      obtain ⟨result, rfl⟩ : ∃ result, outcome = .join result := ⟨_, hOutcome⟩
      have hRun := ServerHost.run_loop (run.snoc hStep)
      have hSeats := (MainLoop.peer_step hTables hStep.loopStep peerToken).1
      have hSent : sentTo peerToken sent = settings.joinAnswer result host.loop := by
        cases hStep with
        | mk event loop hLoop => exact (sentTo_answer peerToken peerToken _).trans (if_pos rfl)
      rw [hSent]
      obtain ⟨hHead, hTail⟩ := joinAnswer_eq settings result host.loop
      refine hOwn.answered hFirst hHead hTail (fun hAccepted => ?_) fun hRefused => ?_
      swap
      · rw [hSeats]
        exact (if_neg (by simp [hRefused])).trans (hOwn.unseated hFirst).2.2
      have hSeat : host.loop.sessionManager.seat peerToken = some result.session.playerId :=
        hSeats.trans (if_pos ⟨rfl, hAccepted⟩)
      refine ⟨?_, fun id hId => Option.some.inj (hId.symm.trans hSeat)⟩
      obtain ⟨session, hSession, -, hPlayer⟩ := SessionManager.exists_activeSession hSeat
      have hRange := ((MainLoop.distinct_sources hMeant hRun).range session hSession).2
      have hLimit := hMeant.limit
      change session.playerId ≤ settings.maxPlayers at hRange
      omega

/-- One step of the deployment. -/
theorem AllInTouch.step [KeepsFinite F] (h : AllInTouch settings s)
    (hMeant : MainLoop.Meant settings setup) {trace : List (HostEvent F)}
    (run : Run (HostStep settings) (.create setup) trace s.host) {event : DeploymentEvent F}
    (hStep : DeploymentStep settings s event t) : AllInTouch settings t := by
  have hTables := ServerHost.tables_run run
  cases hStep with
  | connect peerToken clientSettings config profile sent host hNew hStep =>
      have hQuiet : ∀ peer packet result,
          LoopEvent.connected (F := F) peerToken ≠ .received peer packet (.join result) :=
        fun _ _ _ hEvent => by cases hEvent
      refine ⟨fun peer endpoint hOpen => ?_, fun peer hClosed => ?_⟩
      · by_cases hPeer : peer = peerToken
        · rw [hPeer, endpoints_update_self] at hOpen
          obtain rfl := Option.some.inj hOpen
          rw [hPeer]
          exact .opened settings
            (h.stillAbsent hTables hStep.loopStep hNew (hQuiet peerToken)) clientSettings config profile
        · rw [endpoints_update_of_ne _ hPeer] at hOpen
          exact (h.clients peer endpoint hOpen).undisturbed fun _ hSeat =>
            seat_of_noJoin hTables hStep.loopStep (hQuiet peer) hSeat
      · by_cases hPeer : peer = peerToken
        · rw [hPeer, endpoints_update_self] at hClosed
          cases hClosed
        · rw [endpoints_update_of_ne _ hPeer] at hClosed
          exact h.stillAbsent hTables hStep.loopStep hClosed (hQuiet peer)
  | act peerToken endpoint deed hOpen hNew hFinite =>
      refine h.client ?_
      by_cases hConnect : deed = .connect
      · subst hConnect
        exact (h.clients peerToken endpoint hOpen).connect (hNew rfl)
      · exact (h.clients peerToken endpoint hOpen).act hFinite hConnect
  | read peerToken endpoint packet rest now client hOpen hFirst hRead =>
      exact h.client ((h.clients peerToken endpoint hOpen).read hFirst hRead)
  | drop peerToken endpoint packet rest error hOpen hFirst hCarried =>
      exact h.client ((h.clients peerToken endpoint hOpen).taken hFirst)
  | deliver peerToken endpoint packet received rest outcome sent host hOpen hFirst hCarried hStep =>
      have hOthers : ∀ peer, peer ≠ peerToken → ∀ asked result,
          LoopEvent.received peerToken (MainLoop.readPacket received) outcome ≠
            .received peer asked (.join result) := by
        intro peer hPeer asked result hEvent
        injection hEvent with hAsker
        exact hPeer hAsker.symm
      refine ⟨fun peer other hOther => ?_, fun peer hClosed => ?_⟩
      · obtain ⟨before, hBefore, rfl⟩ := Option.map_eq_some_iff.mp hOther
        by_cases hPeer : peer = peerToken
        · subst hPeer
          rw [endpoints_update_self] at hBefore
          obtain rfl := Option.some.inj hBefore
          have hDelivered := h.deliver hMeant run hOpen hFirst hCarried hStep
          exact hDelivered
        · rw [endpoints_update_of_ne _ hPeer] at hBefore
          exact h.bystander hTables hStep hBefore (hOthers peer hPeer)
      · have hBefore := Option.map_eq_none_iff.mp hClosed
        by_cases hPeer : peer = peerToken
        · rw [hPeer, endpoints_update_self] at hBefore
          cases hBefore
        · rw [endpoints_update_of_ne _ hPeer] at hBefore
          exact h.stillAbsent hTables hStep.loopStep hBefore (hOthers peer hPeer)
  | disconnect peerToken session sent host hStep =>
      have hQuiet : ∀ peer packet result,
          LoopEvent.disconnected (F := F) peerToken session ≠
            .received peer packet (.join result) :=
        fun _ _ _ hEvent => by cases hEvent
      refine ⟨fun peer endpoint hOpen => ?_, fun peer hClosed => ?_⟩
      · by_cases hPeer : peer = peerToken
        · rw [hPeer, endpoints_update_self] at hOpen
          cases hOpen
        · rw [endpoints_update_of_ne _ hPeer] at hOpen
          exact (h.clients peer endpoint hOpen).undisturbed fun _ hSeat =>
            seat_of_noJoin hTables hStep.loopStep (hQuiet peer) hSeat
      · by_cases hPeer : peer = peerToken
        · rw [hPeer]
          exact (MainLoop.peer_step hTables hStep.loopStep peerToken).1.trans (if_pos rfl)
        · rw [endpoints_update_of_ne _ hPeer] at hClosed
          exact h.stillAbsent hTables hStep.loopStep hClosed (hQuiet peer)
  | run event sent host hInternal hStep =>
      have hQuiet : ∀ peer packet result, event ≠ .received peer packet (.join result) := by
        intro peer packet result hEvent
        rw [hEvent] at hInternal
        cases hInternal
      refine ⟨fun peer other hOther => ?_, fun peer hClosed => ?_⟩
      · obtain ⟨before, hBefore, rfl⟩ := Option.map_eq_some_iff.mp hOther
        exact h.bystander hTables hStep hBefore (hQuiet peer)
      · exact h.stillAbsent hTables hStep.loopStep (Option.map_eq_none_iff.mp hClosed) (hQuiet peer)

end Deployment

end DevyFps.Replication
