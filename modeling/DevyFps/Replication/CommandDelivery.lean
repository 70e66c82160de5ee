import DevyFps.Client.ClientRuns
import DevyFps.Replication.CommandSequences
import DevyFps.Server.PacketHandling
import DevyFps.Shared.Voxel.ProfileJson

/-! What a client sends can be read by the server: each of its packets passes the parser, and the
message that the server makes of it is the command that the client meant. -/

namespace DevyFps.Replication

open Foundations FloatFormat Net Client Server
open Voxel (KeepsFinite)

variable {F : Type} [SingleFloat F]

/-- The server accepts the packet, and this is what it reads. -/
structure Understood (packet : Net.Packet (SingleFloat.Double F)) (read : Server.Packet F) :
    Prop where
  carried : carried packet = .ok { packet with payload := arrived packet.payload }
  read : MainLoop.readPacket { packet with payload := arrived packet.payload } = read

/-! Numbers on the way. -/

/-- A finite number is printed. -/
theorem isPrinted_ofFloat [KeepsFinite F] {x : F} (h : isFinite x = true) :
    isPrinted (ofFloat x) = true := KeepsFinite.finite x h

/-- A finite number arrives as it was sent. -/
theorem arrived_ofFloat [KeepsFinite F] {x : F} (h : isFinite x = true) :
    arrived (ofFloat x) = ofFloat x := if_pos (isPrinted_ofFloat h)

/-- A finite number is read back. -/
theorem readFloat_ofFloat [KeepsFinite F] {x : F} (h : isFinite x = true) :
    Net.readFloat (ofFloat x) = some x := by
  have hRange : (lt (SingleFloat.widen x) (lowestFloat (F := F)) ||
      lt (maxFloat (F := F)) (SingleFloat.widen x)) = false := by
    rw [KeepsFinite.not_below x h, KeepsFinite.not_above x h]
    rfl
  change (Except.ok (if _ then none else some (SingleFloat.narrow (SingleFloat.widen x))) :
    Except JsonError (Option F)).toOption.join = some x
  rw [hRange, if_neg Bool.false_ne_true, KeepsFinite.narrow_widen x h]
  rfl

/-- What is read as 64 bits fits them. -/
theorem readU64_lt {value : Document F} {n : Nat} (h : readU64 value = some n) : n < 2 ^ 64 := by
  cases value with
  | numberInteger number =>
      have hRange := number.toInt_lt
      change (if number.toInt < 0 then none else some number.toInt.toNat) = some n at h
      split at h
      · cases h
      · cases h
        omega
  | numberUnsigned number =>
      cases h
      exact number.toNat_lt
  | _ => cases h

/-! The packets of a client. -/

/-- Each packet that a client builds is understood by the server. -/
theorem understood_joinRequestPacket :
    Understood (joinRequestPacket (F := F)) (.joinRequest (Bytes.ofString "player_local")) where
  carried := carried_of_valid rfl rfl (numbersPrinted_of_schema rfl (by decide))
  read := rfl

theorem understood_heartbeatPacket {playerId : Nat} (hPlayer : playerId < 2 ^ 32) (now : Nat) :
    Understood (heartbeatPacket (F := F) playerId now) (.message (.heartbeat (some playerId))) where
  carried := carried_of_valid rfl rfl (numbersPrinted_of_schema rfl (by decide))
  read := by
    have hId := readU32_ofUnsigned (F := F) hPlayer
    unfold MainLoop.readPacket
    exact congrArg (fun id => Server.Packet.message (.heartbeat id)) hId

theorem understood_playerInputPacket [KeepsFinite F] {playerId inputSeq : Nat}
    {controls : Controls F} (hPlayer : playerId < 2 ^ 32) (hSeq : inputSeq < 2 ^ 32)
    (hX : isFinite controls.moveX = true) (hY : isFinite controls.moveY = true) :
    Understood (playerInputPacket playerId inputSeq controls)
      (.message (.playerInput (some
        { playerId, inputSeq, moveX := controls.moveX, moveY := controls.moveY,
          jump := controls.jump, sprint := controls.sprint, crouch := controls.crouch,
          fire := false }))) where
  carried := by
    refine carried_of_valid rfl rfl fun schema hSchema field hField hType value hValue => ?_
    obtain rfl := Option.some.inj hSchema
    have hName : field.name = "move_x" ∨ field.name = "move_y" := by
      revert hType
      simp only [kPlayerInputFields, List.mem_cons, List.not_mem_nil, or_false] at hField
      rcases hField with rfl | rfl | rfl | rfl | rfl | rfl | rfl | rfl <;> simp
    rcases hName with hName | hName
    · rw [hName] at hValue
      obtain rfl := Option.some.inj hValue
      exact isPrinted_ofFloat hX
    · rw [hName] at hValue
      obtain rfl := Option.some.inj hValue
      exact isPrinted_ofFloat hY
  read := by
    have hRead : MainLoop.readInput (arrived (playerInputPacket playerId inputSeq controls).payload) =
        (do
          let playerId ← readU32 (ofUnsigned playerId : Document F)
          let inputSeq ← readU32 (ofUnsigned inputSeq : Document F)
          let moveX ← readFloat (arrived (ofFloat controls.moveX))
          let moveY ← readFloat (arrived (ofFloat controls.moveY))
          return {
            playerId, inputSeq, moveX, moveY
            jump := controls.jump, sprint := controls.sprint, crouch := controls.crouch
            fire := false }) := rfl
    rw [arrived_ofFloat hX, arrived_ofFloat hY, readU32_ofUnsigned hPlayer, readU32_ofUnsigned hSeq,
      readFloat_ofFloat hX, readFloat_ofFloat hY] at hRead
    exact congrArg (fun command => Server.Packet.message (.playerInput command)) hRead

theorem understood_treasurePickupPacket {playerId pickupSeq spawnId : Nat}
    (hPlayer : playerId < 2 ^ 32) (hSeq : pickupSeq < 2 ^ 32) (hSpawn : spawnId < 2 ^ 64) :
    Understood (treasurePickupPacket (F := F) playerId pickupSeq spawnId)
      (.message (.treasurePickup (some { playerId, pickupSeq, spawnId }))) where
  carried := carried_of_valid rfl rfl (numbersPrinted_of_schema rfl (by decide))
  read := by
    have hRead : MainLoop.readPickup
        (arrived (treasurePickupPacket (F := F) playerId pickupSeq spawnId).payload) =
        (do
          let playerId ← readU32 (ofUnsigned playerId : Document F)
          let pickupSeq ← readU32 (ofUnsigned pickupSeq : Document F)
          let spawnId ← readU64 (ofUnsigned spawnId : Document F)
          return { playerId, pickupSeq, spawnId }) := rfl
    rw [readU32_ofUnsigned hPlayer, readU32_ofUnsigned hSeq, readU64_ofUnsigned hSpawn] at hRead
    exact congrArg (fun command => Server.Packet.message (.treasurePickup command)) hRead

/-- A direction whose parts are finite once it has been brought to length one. -/
def FiniteDirection (request : FireRequest F) : Prop :=
  isFinite (request.directionX / sqrt request.directionLengthSq) = true ∧
    isFinite (request.directionY / sqrt request.directionLengthSq) = true

/-- A shot is understood once the emitter has accepted its direction. -/
theorem understood_firePacket [KeepsFinite F] {request : FireRequest F} {shotSeq : Nat}
    (hCheck : request.check = .accepted) (hPlayer : request.playerId < 2 ^ 32)
    (hSeq : shotSeq < 2 ^ 32) (hDirection : FiniteDirection request) :
    Understood { type := .weaponFire, payload := request.payload shotSeq }
      (.message (.weaponFire (some
        { attackerId := request.playerId, shotSeq, weaponId := Bytes.ofString request.weaponId,
          originX := request.originX, originY := request.originY,
          directionX := request.directionX / sqrt request.directionLengthSq,
          directionY := request.directionY / sqrt request.directionLengthSq }))) where
  carried := by
    refine carried_of_valid rfl ?_ (numbersPrinted_of_schema rfl (by decide))
    unfold FireRequest.payload
    cases request.clientFireTimeMs <;> rfl
  read := by
    have hOrigin : isFinite request.originX = true ∧ isFinite request.originY = true := by
      unfold FireRequest.check at hCheck
      split_ifs at hCheck with hNobody hUnarmed hOrigin
      · simpa using hOrigin
    have hRead : MainLoop.readFire (arrived (request.payload shotSeq)) =
        (do
          let attackerId ← readU32 (ofUnsigned request.playerId : Document F)
          let shotSeq ← readU32 (ofUnsigned shotSeq : Document F)
          let originX ← readFloat (arrived (ofFloat request.originX))
          let originY ← readFloat (arrived (ofFloat request.originY))
          let directionX ← readFloat (arrived (ofFloat
            (request.directionX / sqrt request.directionLengthSq)))
          let directionY ← readFloat (arrived (ofFloat
            (request.directionY / sqrt request.directionLengthSq)))
          return {
            attackerId, shotSeq, originX, originY, directionX, directionY
            weaponId := Bytes.ofString request.weaponId }) := by
      unfold FireRequest.payload
      cases request.clientFireTimeMs <;> rfl
    rw [arrived_ofFloat hOrigin.1, arrived_ofFloat hOrigin.2, arrived_ofFloat hDirection.1,
      arrived_ofFloat hDirection.2, readU32_ofUnsigned hPlayer, readU32_ofUnsigned hSeq,
      readFloat_ofFloat hOrigin.1, readFloat_ofFloat hOrigin.2, readFloat_ofFloat hDirection.1,
      readFloat_ofFloat hDirection.2] at hRead
    exact congrArg (fun command => Server.Packet.message (.weaponFire command)) hRead

/-! What a client that plays sends. -/

/-- The player id that a message names. -/
def namedPlayer : Message F → Option Nat
  | .heartbeat playerId => playerId
  | .playerInput command => command.map PlayerInputCommand.playerId
  | .weaponFire command => command.map FireCommand.attackerId
  | .treasurePickup command => command.map TreasurePickupCommand.playerId
  | _ => none

/-- The number that the next command of a kind will have. -/
def nextNumber (client : ClientLoop F) : CommandKind → Nat
  | .input => client.reconciler.nextInputSeq
  | .fire => client.weaponFireEmitter.nextShotSeq
  | .pickup => client.nextPickupSeq

/-- The numbers of the client fit the fields in which they are sent. -/
structure Sized (client : ClientLoop F) : Prop where
  playerId : client.localPlayerId < 2 ^ 32
  next : ∀ kind, nextNumber client kind < 2 ^ 32
  spawns : ∀ spawn ∈ client.knownSpawns, spawn.spawnId < 2 ^ 64

/-- The movement axes of the player are finite, and its view has a direction. -/
def FiniteDeed : ClientDeed F → Prop
  | .input controls => isFinite controls.moveX = true ∧ isFinite controls.moveY = true
  | .fire controls _ =>
      isFinite (controls.viewX /
          sqrt (controls.viewX * controls.viewX + controls.viewZ * controls.viewZ)) = true ∧
        isFinite (controls.viewZ /
          sqrt (controls.viewX * controls.viewX + controls.viewZ * controls.viewZ)) = true
  | _ => True

/-- What comes of a deed: nothing is sent, or one message that names the player and is numbered
by the counter of its kind, which moves on. -/
inductive Sends (s t : ClientLoop F) : Outgoing F → Prop where
  | nothing (hNext : ∀ kind, nextNumber t kind = nextNumber s kind) : Sends s t []
  | command (packet : Net.Packet (SingleFloat.Double F)) (message : Message F)
      (hPlaying : s.isPlaying = true) (hRead : Understood packet (.message message))
      (hNamed : namedPlayer message = some s.localPlayerId)
      (hNumber : ∀ kind number, message.number kind = some number → number = nextNumber s kind)
      (hNext : ∀ kind, nextNumber t kind =
        if commandKind message = some kind then (nextNumber s kind + 1) % 2 ^ 32
        else nextNumber s kind) : Sends s t [packet]

/-- The spawn that is chosen is one of those that are known. -/
theorem mem_of_closestSpawn {x y bestDistanceSq : F} {best found : Option Nat}
    {spawns : List (TreasureSpawnView F)}
    (h : closestSpawn x y best bestDistanceSq spawns = found) :
    found = best ∨ ∃ spawn ∈ spawns, found = some spawn.spawnId := by
  induction spawns generalizing best bestDistanceSq with
  | nil => exact Or.inl h.symm
  | cons spawn rest ih =>
      unfold closestSpawn at h
      dsimp only at h
      split at h
      · rcases ih h with hHere | ⟨later, hLater, hFound⟩
        · exact Or.inr ⟨spawn, List.mem_cons_self, hHere⟩
        · exact Or.inr ⟨later, List.mem_cons_of_mem _ hLater, hFound⟩
      · rcases ih h with hBest | ⟨later, hLater, hFound⟩
        · exact Or.inl hBest
        · exact Or.inr ⟨later, List.mem_cons_of_mem _ hLater, hFound⟩

/-- A deed of a client sends packets of its own kind, with the next number. -/
theorem sends_act [KeepsFinite F] {s : ClientLoop F} (hSized : Sized s) (settings : ClientSettings)
    {deed : ClientDeed F} (hFinite : FiniteDeed deed) (hOld : deed ≠ .connect) :
    Sends s (s.act settings deed).2 (s.act settings deed).1 := by
  cases deed with
  | connect => exact absurd rfl hOld
  | heartbeat now =>
      unfold ClientLoop.act ClientLoop.sendHeartbeat
      dsimp only
      split
      · rename_i hDue
        have hPlaying : s.isPlaying = true := by
          simp only [Bool.and_eq_true] at hDue
          exact hDue.1.2
        exact .command _ _ hPlaying (understood_heartbeatPacket hSized.playerId now) rfl
          (fun kind number hNumber => by cases kind <;> cases hNumber) fun kind => rfl
      · exact .nothing fun _ => rfl
  | accumulate dt =>
      unfold ClientLoop.act ClientLoop.accumulate
      dsimp only
      split
      · exact .nothing fun kind => by cases kind <;> rfl
      · exact .nothing fun _ => rfl
  | input controls =>
      unfold ClientLoop.act ClientLoop.sendInput
      dsimp only
      split
      · rename_i hDue
        have hPlaying : s.isPlaying = true := by
          simp only [Bool.and_eq_true] at hDue
          exact hDue.1
        refine .command _ _ hPlaying (understood_playerInputPacket hSized.playerId
          (hSized.next .input) hFinite.1 hFinite.2) rfl (fun kind number hNumber => ?_) fun kind => ?_
        · cases kind with
          | input => exact (Option.some.inj hNumber).symm
          | _ => cases hNumber
        · cases kind <;> rfl
      · exact .nothing fun _ => rfl
  | fire controls now =>
      unfold ClientLoop.act ClientLoop.sendFire
      dsimp only
      split
      · rename_i hDue
        have hPlaying : s.isPlaying = true := by
          simp only [Bool.and_eq_true] at hDue
          exact hDue.2
        unfold WeaponFireEmitter.emit
        split
        · rename_i hAccepted
          refine .command _ _ hPlaying (understood_firePacket hAccepted hSized.playerId
            (hSized.next .fire) hFinite) rfl (fun kind number hNumber => ?_) fun kind => ?_
          · cases kind with
            | fire => exact (Option.some.inj hNumber).symm
            | _ => cases hNumber
          · cases kind <;> rfl
        · rename_i hRefused
          split
          · rename_i hAccepted
            exact absurd (of_decide_eq_true hAccepted) hRefused
          · exact .nothing fun kind => by cases kind <;> rfl
      · exact .nothing fun kind => by cases kind <;> rfl
  | pickup controls =>
      unfold ClientLoop.act ClientLoop.sendPickup
      dsimp only
      split
      · rename_i hDue
        have hPlaying : s.isPlaying = true := by
          simp only [Bool.and_eq_true] at hDue
          exact hDue.2
        split
        · rename_i spawnId hClosest
          have hSpawn : spawnId < 2 ^ 64 := by
            rcases mem_of_closestSpawn hClosest with hNone | ⟨spawn, hMem, hFound⟩
            · cases hNone
            · obtain rfl := Option.some.inj hFound
              exact hSized.spawns spawn hMem
          refine .command _ _ hPlaying (understood_treasurePickupPacket hSized.playerId
            (hSized.next .pickup) hSpawn) rfl (fun kind number hNumber => ?_) fun kind => ?_
          · cases kind with
            | pickup => exact (Option.some.inj hNumber).symm
            | _ => cases hNumber
          · cases kind <;> rfl
        · exact .nothing fun kind => by cases kind <;> rfl
      · exact .nothing fun kind => by cases kind <;> rfl

/-- A new connection goes on with the numbers of the old one. -/
theorem nextNumber_connect (s : ClientLoop F) (kind : CommandKind) :
    nextNumber s.connect.2 kind = nextNumber s kind := by
  cases kind <;> rfl

theorem sized_connect {s : ClientLoop F} (h : Sized s) : Sized s.connect.2 where
  playerId := h.playerId
  next kind := (nextNumber_connect s kind).trans_lt (h.next kind)
  spawns := h.spawns

/-- A deed leaves the numbers of the client in their fields. -/
theorem sized_act [KeepsFinite F] {s : ClientLoop F} (h : Sized s) (settings : ClientSettings)
    {deed : ClientDeed F} (hFinite : FiniteDeed deed) (hOld : deed ≠ .connect) :
    Sized (s.act settings deed).2 := by
  have hSame := s.sameDisplay_act settings deed
  refine ⟨hSame.localPlayerId ▸ h.playerId, fun kind => ?_, hSame.knownSpawns ▸ h.spawns⟩
  have hSends := sends_act h settings hFinite hOld
  generalize (s.act settings deed).1 = sent at hSends
  cases hSends with
  | nothing hNext =>
      rw [hNext]
      exact h.next kind
  | command packet message hPlaying hRead hNamed hNumber hNext =>
      rw [hNext]
      split
      · exact Nat.mod_lt _ (by decide)
      · exact h.next kind

/-! What a client that reads keeps of what it goes by when it sends. -/

/-- The next numbers stay, the player id too, and the spawns that are known stay readable. -/
structure SameCounters (s t : ClientLoop F) : Prop where
  joined : t.joined = s.joined
  localPlayerId : t.localPlayerId = s.localPlayerId
  connectionReady : t.connectionReady = s.connectionReady
  next : ∀ kind, nextNumber t kind = nextNumber s kind
  spawns : (∀ spawn ∈ s.knownSpawns, spawn.spawnId < 2 ^ 64) →
    ∀ spawn ∈ t.knownSpawns, spawn.spawnId < 2 ^ 64

namespace SameCounters

variable {s t : ClientLoop F} {settings : ClientSettings} {now : Nat} {payload : Document F}

theorem refl (s : ClientLoop F) : SameCounters s s := ⟨rfl, rfl, rfl, fun _ => rfl, id⟩

theorem sized (h : SameCounters s t) (hSized : Sized s) : Sized t where
  playerId := h.localPlayerId ▸ hSized.playerId
  next kind := h.next kind ▸ hSized.next kind
  spawns := h.spawns hSized.spawns

end SameCounters

theorem nextInputSeq_consumeSnapshot {s : PredictionReconciler F} {payload : Document F}
    {localPlayerId : Nat} {consumed : Option (ReconciliationResult F) × PredictionReconciler F}
    (h : s.consumeSnapshot payload localPlayerId = .ok consumed) :
    consumed.2.nextInputSeq = s.nextInputSeq := by
  obtain ⟨found, -, h⟩ := ok_of_bind h
  cases found with
  | none =>
      cases h
      rfl
  | some playerState =>
      cases h
      rfl

/-- The ids of the spawns in a snapshot are read as 64-bit numbers. -/
theorem spawnId_parseTreasureSpawns {payload : Document F} {spawn : TreasureSpawnView F}
    (h : spawn ∈ parseTreasureSpawns payload) : spawn.spawnId < 2 ^ 64 := by
  obtain ⟨element, -, hParsed⟩ := List.mem_filterMap.mp h
  unfold parseTreasureSpawn at hParsed
  obtain ⟨position, -, hParsed⟩ := Option.bind_eq_some_iff.mp hParsed
  split at hParsed
  · cases hParsed
  · obtain ⟨value, -, hParsed⟩ := Option.bind_eq_some_iff.mp hParsed
    obtain ⟨spawnId, hSpawnId, hParsed⟩ := Option.bind_eq_some_iff.mp hParsed
    obtain ⟨x, -, hParsed⟩ := Option.bind_eq_some_iff.mp hParsed
    obtain ⟨y, -, hParsed⟩ := Option.bind_eq_some_iff.mp hParsed
    cases hParsed
    exact readU64_lt hSpawnId

/-- A snapshot does not touch the counters of a client. -/
theorem sameCounters_receiveSnapshot {s t : ClientLoop F} {settings : ClientSettings} {now : Nat}
    {payload : Document F} (h : s.receiveSnapshot settings now payload = .ok t) :
    SameCounters s t := by
  unfold ClientLoop.receiveSnapshot at h
  split at h
  · cases h
    exact .refl s
  · obtain ⟨reconciled, hReconciled, h⟩ := ok_of_bind h
    obtain ⟨chunkSync, -, h⟩ := ok_of_bind h
    obtain ⟨told, -, h⟩ := ok_of_bind h
    cases h
    obtain ⟨banner, expires, hShown⟩ := ClientLoop.exists_banner now told.1
      { ({ s with reconciler := reconciled.2 }.applyChunks settings chunkSync) with
        authoritativeHud := (s.authoritativeHud.applySnapshot payload s.localPlayerId).2
        knownSpawns := parseTreasureSpawns payload
        eventFeed := told.2 }
    rw [hShown]
    have hInput : reconciled.2.nextInputSeq = s.reconciler.nextInputSeq :=
      nextInputSeq_consumeSnapshot hReconciled
    cases chunkSync with
    | none =>
        refine ⟨rfl, rfl, rfl, fun kind => ?_, fun _ spawn hSpawn => spawnId_parseTreasureSpawns hSpawn⟩
        cases kind with
        | input => exact hInput
        | _ => rfl
    | some delta =>
        refine ⟨rfl, rfl, rfl, fun kind => ?_, fun _ spawn hSpawn => spawnId_parseTreasureSpawns hSpawn⟩
        cases kind with
        | input => exact hInput
        | _ => rfl

/-- A message and its banner. -/
theorem SameCounters.showMessage {s t : ClientLoop F} (h : SameCounters s t) (now : Nat)
    (message : Option String) : SameCounters s (t.showMessage now message) := by
  obtain ⟨banner, expires, hShown⟩ := ClientLoop.exists_banner_showMessage now message t
  rw [hShown]
  exact ⟨h.joined, h.localPlayerId, h.connectionReady, fun kind => h.next kind, h.spawns⟩

/-- Whatever is read but the answer to a join request. -/
theorem sameCounters_receive {s t : ClientLoop F} {settings : ClientSettings} {now : Nat}
    {packet : Net.Packet (SingleFloat.Double F)} (hType : packet.type ≠ .joinAccept)
    (h : s.receive settings now packet = .ok t) : SameCounters s t := by
  unfold ClientLoop.receive at h
  cases hCarried : carried packet with
  | error error =>
      rw [hCarried] at h
      cases h
      exact .refl s
  | ok received =>
      rw [hCarried] at h
      obtain ⟨-, hReceived, -⟩ := carried_eq_ok_iff.mp hCarried
      have hOther : received.type ≠ .joinAccept := by
        rw [hReceived]
        exact hType
      dsimp only at h
      unfold ClientLoop.receivePacket at h
      cases hKind : received.type <;> rw [hKind] at h <;> dsimp only at h
      case joinAccept => exact absurd hKind hOther
      case stateSnapshot => exact sameCounters_receiveSnapshot h
      case inventoryUpdate =>
        obtain ⟨value, -, h⟩ := ok_of_bind h
        obtain ⟨playerId, -, h⟩ := ok_of_bind h
        split at h
        · cases h
          exact .refl s
        · obtain ⟨coins, -, h⟩ := ok_of_bind h
          obtain ⟨items, -, h⟩ := ok_of_bind h
          cases h
          exact ⟨rfl, rfl, rfl, fun kind => by cases kind <;> rfl, id⟩
      case damageEvent =>
        obtain ⟨told, -, h⟩ := ok_of_bind h
        cases h
        refine SameCounters.showMessage ?_ now told.1
        exact ⟨rfl, rfl, rfl, fun kind => by cases kind <;> rfl, id⟩
      case matchState =>
        obtain ⟨told, -, h⟩ := ok_of_bind h
        cases h
        refine SameCounters.showMessage ?_ now told.1
        exact ⟨rfl, rfl, rfl, fun kind => by cases kind <;> rfl, id⟩
      all_goals
        cases h
        exact .refl s

end DevyFps.Replication
