import DevyFps.Client.ClientLoop
import DevyFps.Foundations.Run

/-! Runs of the client: the packets that it reads and what it does on its own, in any order, and
what they make of its head-up display. -/

namespace DevyFps.Client

open Foundations Net

variable {F : Type} [SingleFloat F]

/-- What the client does on its own. -/
inductive ClientDeed (F : Type) [SingleFloat F] where
  | connect
  | heartbeat (now : Nat)
  | accumulate (dt : F)
  | input (controls : Controls F)
  | fire (controls : Controls F) (now : Nat)
  | pickup (controls : Controls F)

def ClientLoop.act (s : ClientLoop F) (settings : ClientSettings) :
    ClientDeed F → Outgoing F × ClientLoop F
  | .connect => s.connect
  | .heartbeat now => s.sendHeartbeat settings now
  | .accumulate dt => ([], s.accumulate dt)
  | .input controls => s.sendInput controls
  | .fire controls now => s.sendFire settings controls now
  | .pickup controls => s.sendPickup controls

/-- What happens to the client, with the packets that it sends. -/
inductive ClientEvent (F : Type) [SingleFloat F] where
  | read (packet : Packet (SingleFloat.Double F))
  | acted (deed : ClientDeed F) (packets : Outgoing F)
  | disconnected

/-- The client connects once. -/
inductive ClientStep (settings : ClientSettings) :
    ClientLoop F → ClientEvent F → ClientLoop F → Prop where
  | read (s t : ClientLoop F) (now : Nat) (packet : Packet (SingleFloat.Double F))
      (h : s.receive settings now packet = .ok t) : ClientStep settings s (.read packet) t
  | act (s : ClientLoop F) (deed : ClientDeed F)
      (hNew : deed = .connect → s.connectionReady = false) :
      ClientStep settings s (.acted deed (s.act settings deed).1) (s.act settings deed).2
  | disconnect (s : ClientLoop F) : ClientStep settings s .disconnected s.disconnect

namespace ClientEvent

/-- The packet that was read, if any. -/
def packetRead : ClientEvent F → Option (Packet (SingleFloat.Double F))
  | read packet => some packet
  | _ => none

end ClientEvent

/-- The packets that were read, in their order. -/
def packetsRead (trace : List (ClientEvent F)) : List (Packet (SingleFloat.Double F)) :=
  trace.filterMap ClientEvent.packetRead

namespace ClientLoop

variable {s t : ClientLoop F} {settings : ClientSettings}

/-- Banners change nothing else. -/
theorem exists_banner (now : Nat) (messages : List String) (s : ClientLoop F) :
    ∃ banner expires, messages.foldl (fun t message => t.pushEventBanner now message) s =
      { s with eventBanner := banner, eventBannerExpiresAtMs := expires } := by
  induction messages generalizing s with
  | nil => exact ⟨s.eventBanner, s.eventBannerExpiresAtMs, rfl⟩
  | cons message rest ih =>
      obtain ⟨banner, expires, hRest⟩ := ih (s.pushEventBanner now message)
      refine ⟨banner, expires, hRest.trans ?_⟩
      unfold pushEventBanner
      split
      · rfl
      · rfl

/-- A message changes the banner only. -/
theorem exists_banner_showMessage (now : Nat) (message : Option String) (s : ClientLoop F) :
    ∃ banner expires, s.showMessage now message =
      { s with eventBanner := banner, eventBannerExpiresAtMs := expires } := by
  cases message with
  | none => exact ⟨s.eventBanner, s.eventBannerExpiresAtMs, rfl⟩
  | some message => exact exists_banner now [message] s

/-- Under which id the client plays, what it shows of its player and which spawns it knows. -/
structure SameDisplay (s t : ClientLoop F) : Prop where
  joined : t.joined = s.joined
  localPlayerId : t.localPlayerId = s.localPlayerId
  authoritativeHud : t.authoritativeHud = s.authoritativeHud
  knownSpawns : t.knownSpawns = s.knownSpawns

namespace SameDisplay

theorem refl (s : ClientLoop F) : SameDisplay s s := ⟨rfl, rfl, rfl, rfl⟩

theorem showMessage (s : ClientLoop F) (now : Nat) (message : Option String) :
    SameDisplay s (s.showMessage now message) := by
  obtain ⟨banner, expires, hShown⟩ := exists_banner_showMessage now message s
  rw [hShown]
  exact ⟨rfl, rfl, rfl, rfl⟩

/-- Nor do several messages change what is displayed of the player. -/
theorem pushEventBanners (now : Nat) (messages : List String) (s : ClientLoop F) :
    SameDisplay s (messages.foldl (fun t message => t.pushEventBanner now message) s) := by
  obtain ⟨banner, expires, hShown⟩ := exists_banner now messages s
  rw [hShown]
  exact ⟨rfl, rfl, rfl, rfl⟩

/-- Chunks do not show on the head-up display. -/
theorem applyChunks (s : ClientLoop F) (settings : ClientSettings)
    (chunkSync : Option ChunkSyncDelta) : SameDisplay s (s.applyChunks settings chunkSync) := by
  cases chunkSync with
  | none => exact refl s
  | some delta => exact ⟨rfl, rfl, rfl, rfl⟩

end SameDisplay

/-- What the client does on its own does not show on the display. -/
theorem sameDisplay_act (s : ClientLoop F) (settings : ClientSettings) (deed : ClientDeed F) :
    SameDisplay s (s.act settings deed).2 := by
  cases deed with
  | connect => exact ⟨rfl, rfl, rfl, rfl⟩
  | heartbeat now =>
      unfold act sendHeartbeat
      dsimp only
      split
      · exact ⟨rfl, rfl, rfl, rfl⟩
      · exact .refl s
  | accumulate dt =>
      unfold act accumulate
      dsimp only
      split
      · exact ⟨rfl, rfl, rfl, rfl⟩
      · exact .refl s
  | input controls =>
      unfold act sendInput
      dsimp only
      split
      · exact ⟨rfl, rfl, rfl, rfl⟩
      · exact .refl s
  | fire controls now =>
      unfold act sendFire
      dsimp only
      split
      · exact ⟨rfl, rfl, rfl, rfl⟩
      · exact ⟨rfl, rfl, rfl, rfl⟩
  | pickup controls =>
      unfold act sendPickup
      dsimp only
      split
      · split
        · exact ⟨rfl, rfl, rfl, rfl⟩
        · exact ⟨rfl, rfl, rfl, rfl⟩
      · exact ⟨rfl, rfl, rfl, rfl⟩

/-- Only the connection makes it ready. -/
theorem connectionReady_act (s : ClientLoop F) (settings : ClientSettings) {deed : ClientDeed F}
    (hOld : deed ≠ .connect) : (s.act settings deed).2.connectionReady = s.connectionReady := by
  cases deed with
  | connect => exact absurd rfl hOld
  | heartbeat now =>
      unfold act sendHeartbeat
      dsimp only
      split
      · rfl
      · rfl
  | accumulate dt =>
      unfold act accumulate
      dsimp only
      split
      · rfl
      · rfl
  | input controls =>
      unfold act sendInput
      dsimp only
      split
      · rfl
      · rfl
  | fire controls now =>
      unfold act sendFire
      dsimp only
      split
      · rfl
      · rfl
  | pickup controls =>
      unfold act sendPickup
      dsimp only
      split
      · split
        · rfl
        · rfl
      · rfl

end ClientLoop

namespace AuthoritativeHudModel

/-- What the display makes of a packet that was sent to the player. -/
def read (playerId : Nat) (hud : AuthoritativeHudModel) (sent : Packet (SingleFloat.Double F)) :
    AuthoritativeHudModel :=
  match carried sent with
  | .error _ => hud
  | .ok packet =>
      match packet.type with
      | .stateSnapshot => (hud.applySnapshot packet.payload playerId).2
      | .inventoryUpdate => (hud.applyInventoryUpdate packet.payload playerId).2
      | .damageEvent => (hud.applyDamageEvent packet.payload playerId).2
      | .matchState => (hud.applyMatchState packet.payload).2
      | _ => hud

end AuthoritativeHudModel

namespace ClientLoop

variable {s t : ClientLoop F} {settings : ClientSettings} {now : Nat}

/-- What a message makes of the display of a client that plays. -/
structure Reads (s t : ClientLoop F) (hud : AuthoritativeHudModel) : Prop where
  joined : t.joined = s.joined
  localPlayerId : t.localPlayerId = s.localPlayerId
  authoritativeHud : t.authoritativeHud = hud

theorem SameDisplay.reads {u : ClientLoop F} (h : SameDisplay t u)
    (hJoined : t.joined = s.joined) (hId : t.localPlayerId = s.localPlayerId) :
    Reads s u t.authoritativeHud where
  joined := h.joined.trans hJoined
  localPlayerId := h.localPlayerId.trans hId
  authoritativeHud := h.authoritativeHud

/-- A snapshot is read by the model of the head-up display. -/
theorem reads_receiveSnapshot {payload : Document F} (hPlaying : s.isPlaying = true)
    (h : s.receiveSnapshot settings now payload = .ok t) :
    Reads s t (s.authoritativeHud.applySnapshot payload s.localPlayerId).2 := by
  unfold receiveSnapshot at h
  rw [hPlaying] at h
  obtain ⟨reconciled, -, h⟩ := ok_of_bind h
  obtain ⟨chunkSync, -, h⟩ := ok_of_bind h
  obtain ⟨told, -, h⟩ := ok_of_bind h
  cases h
  refine (SameDisplay.pushEventBanners now told.1 _).reads ?_ ?_
  · exact (SameDisplay.applyChunks _ settings chunkSync).joined
  · exact (SameDisplay.applyChunks _ settings chunkSync).localPlayerId

/-- So is an inventory. -/
theorem reads_receiveInventoryUpdate {payload : Document F}
    (h : s.receiveInventoryUpdate payload = .ok t) :
    Reads s t (s.authoritativeHud.applyInventoryUpdate payload s.localPlayerId).2 := by
  have hObject : payload.isObject = true := by
    obtain ⟨value, hValue, -⟩ := ok_of_bind h
    exact Json.isObject_of_valueJson hValue
  unfold receiveInventoryUpdate at h
  rw [Json.valueJson_of_isObject hObject, ok_bind, jsonToU32_eq, ok_bind] at h
  split at h
  · rename_i hOther
    cases h
    refine ⟨rfl, rfl, ?_⟩
    unfold AuthoritativeHudModel.applyInventoryUpdate
    rw [hObject, if_pos hOther]
    rfl
  · obtain ⟨coins, -, h⟩ := ok_of_bind h
    obtain ⟨items, -, h⟩ := ok_of_bind h
    cases h
    exact ⟨rfl, rfl, rfl⟩

/-- So is a hit. -/
theorem reads_receiveDamageEvent {payload : Document F}
    (h : s.receiveDamageEvent now payload = .ok t) :
    Reads s t (s.authoritativeHud.applyDamageEvent payload s.localPlayerId).2 := by
  obtain ⟨told, -, h⟩ := ok_of_bind h
  cases h
  exact (SameDisplay.showMessage _ now told.1).reads rfl rfl

/-- So is a state of the match. -/
theorem reads_receiveMatchState {payload : Document F}
    (h : s.receiveMatchState now payload = .ok t) :
    Reads s t (s.authoritativeHud.applyMatchState payload).2 := by
  obtain ⟨told, -, h⟩ := ok_of_bind h
  cases h
  exact (SameDisplay.showMessage _ now told.1).reads rfl rfl

/-- A packet that is not the answer to a join request. -/
theorem reads_receive {packet : Packet (SingleFloat.Double F)} (hPlaying : s.isPlaying = true)
    (hType : packet.type ≠ .joinAccept) (h : s.receive settings now packet = .ok t) :
    Reads s t (s.authoritativeHud.read s.localPlayerId packet) := by
  unfold receive at h
  unfold AuthoritativeHudModel.read
  cases hCarried : carried packet with
  | error error =>
      rw [hCarried] at h
      cases h
      exact ⟨rfl, rfl, rfl⟩
  | ok received =>
      rw [hCarried] at h
      obtain ⟨-, hReceived, -⟩ := carried_eq_ok_iff.mp hCarried
      have hOther : received.type ≠ .joinAccept := by
        rw [hReceived]
        exact hType
      dsimp only at h ⊢
      unfold receivePacket at h
      cases hKind : received.type <;> rw [hKind] at h <;> dsimp only at h ⊢
      case joinAccept => exact absurd hKind hOther
      case stateSnapshot => exact reads_receiveSnapshot hPlaying h
      case inventoryUpdate => exact reads_receiveInventoryUpdate h
      case damageEvent => exact reads_receiveDamageEvent h
      case matchState => exact reads_receiveMatchState h
      all_goals
        cases h
        exact ⟨rfl, rfl, rfl⟩

/-- Whatever a client that plays does while it reads: its display is what the packets make of it,
one after the other. -/
theorem reads_run {trace : List (ClientEvent F)} (run : Run (ClientStep settings) s trace t)
    (hPlaying : s.isPlaying = true) (hConnected : .disconnected ∉ trace)
    (hTypes : ∀ packet ∈ packetsRead trace, packet.type ≠ .joinAccept) :
    Reads s t ((packetsRead trace).foldl (AuthoritativeHudModel.read s.localPlayerId)
      s.authoritativeHud) := by
  induction run with
  | nil => exact ⟨rfl, rfl, rfl⟩
  | @snoc m t trace label prior last ih =>
      have hLabels : packetsRead (trace ++ [label]) =
          packetsRead trace ++ label.packetRead.toList := by
        unfold packetsRead
        rw [List.filterMap_append]
        cases label <;> rfl
      rw [List.mem_append, not_or] at hConnected
      rw [hLabels] at hTypes ⊢
      have hBefore := ih hConnected.1 fun packet hPacket =>
        hTypes packet (List.mem_append_left _ hPacket)
      have hStill : m.isPlaying = true := by
        unfold isPlaying at hPlaying ⊢
        rw [hBefore.joined, hBefore.localPlayerId]
        exact hPlaying
      rw [List.foldl_append, ← hBefore.authoritativeHud]
      cases label with
      | disconnected => exact absurd (List.mem_singleton_self _) hConnected.2
      | acted deed packets =>
          have hSame : SameDisplay m t := by
            cases last with
            | act _ hNew => exact m.sameDisplay_act settings deed
          exact ⟨hSame.joined.trans hBefore.joined, hSame.localPlayerId.trans hBefore.localPlayerId,
            hSame.authoritativeHud⟩
      | read packet =>
          cases last with
          | read _ now _ hReceive =>
              have hRead := reads_receive hStill (hTypes packet (by simp [ClientEvent.packetRead]))
                hReceive
              rw [hBefore.localPlayerId] at hRead
              exact ⟨hRead.joined.trans hBefore.joined,
                hRead.localPlayerId.trans hBefore.localPlayerId, hRead.authoritativeHud⟩

end ClientLoop

end DevyFps.Client
