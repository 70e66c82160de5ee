import DevyFps.Foundations.Interleaving
import DevyFps.Foundations.OrderedQueues
import DevyFps.Server.InventoryLootSimulation

/-! Inputs, shots and pickups that arrive in between two ticks: in which order the
commands of different players arrive does not matter. -/

namespace DevyFps.Server

open Foundations

/-- What one sender has waiting, and the last sequence number it used. -/
structure Inbox (α : Type) where
  queue : Option (List α)
  last : Option Nat

namespace Inbox

variable {α : Type} (seq : α → Nat)

/-- The number does not pass what was last used and what waits. -/
def behind (inbox : Inbox α) (number : Nat) : Bool :=
  inbox.last.any (number ≤ ·) || (inbox.queue.bind List.getLast?).any (number ≤ seq ·)

def put (inbox : Inbox α) (command : α) : Inbox α where
  queue := some (inbox.queue.getD [] ++ [command])
  last := some (seq command)

/-- What every queue does with a command while there is room. -/
def offer {β : Type} (accepted rejected : β) (inbox : Inbox α) (command : α) : β × Inbox α :=
  if inbox.behind seq (seq command) then (rejected, inbox) else (accepted, inbox.put seq command)

end Inbox

/-- For states that agree up to the order of iteration, and two interleavings of the same
commands of each sender with no answer `full`: every command gets the same answer, and the
same sequence is drained. -/
def OrderFree {σ α β γ : Type} (enqueue : σ → α → β × σ) (sender : α → Nat) (full : β → Prop)
    (same : σ → σ → Prop) (drained : σ → List γ) : Prop :=
  ∀ s s', same s s' → ∀ commands commands' : List α,
    (∀ id, commands.filter (fun command => sender command = id) =
      commands'.filter fun command => sender command = id) →
    (∀ entry ∈ (answers enqueue s commands).1, ¬ full entry.2) →
    (∀ entry ∈ (answers enqueue s' commands').1, ¬ full entry.2) →
    (∀ id, (answers enqueue s commands).1.filter (fun entry => sender entry.1 = id) =
      (answers enqueue s' commands').1.filter fun entry => sender entry.1 = id) ∧
    drained (answers enqueue s commands).2 = drained (answers enqueue s' commands').2

/-- A queue acts locally, what it holds for the senders is the same in the states that
agree, and it decides what is drained. -/
theorem OrderFree.of_local {σ α β γ τ : Type} {enqueue : σ → α → β × σ} {sender : α → Nat}
    {full : β → Prop} {same : σ → σ → Prop} {drained : σ → List γ} {view : σ → Nat → τ}
    {localStep : τ → α → β × τ} (hLocal : ActsLocally enqueue sender view localStep full)
    (hSame : ∀ s s', same s s' → ∀ id, view s id = view s' id)
    (hDrained : ∀ s s', (∀ id, view s id = view s' id) → drained s = drained s') :
    OrderFree enqueue sender full same drained := by
  intro s s' hStart commands commands' hCommands hNone hNone'
  have hAgree := hLocal.interleavings_agree (hSame s s' hStart) hCommands hNone hNone'
  exact ⟨fun id => (hAgree id).1, hDrained _ _ fun id => (hAgree id).2⟩

variable {F : Type} [SingleFloat F]

namespace AuthoritativeLoop

def inbox (s : AuthoritativeLoop F) (playerId : Nat) : Inbox (PlayerInputCommand F) where
  queue := s.inputQueuesByPlayer.find playerId
  last := s.lastInputSeqByPlayer.find playerId

/-- Equal up to the order in which the tables are iterated. -/
def SameInputs (s s' : AuthoritativeLoop F) : Prop :=
  s.inputQueuesByPlayer.SameContents s'.inputQueuesByPlayer ∧
    s.lastInputSeqByPlayer.SameContents s'.lastInputSeqByPlayer

/-- An input is behind if its number does not pass the last one that was accepted or those that
wait. -/
theorem behind_inbox (s : AuthoritativeLoop F) (input : PlayerInputCommand F) :
    (s.inbox input.playerId).behind PlayerInputCommand.inputSeq input.inputSeq =
      ((s.lastInputSeqByPlayer.find input.playerId).any (input.inputSeq ≤ ·) ||
        behindQueue (s.inputQueuesByPlayer.find input.playerId) input.inputSeq) := by
  unfold Inbox.behind behindQueue inbox
  congr 1
  cases (s.inputQueuesByPlayer.find input.playerId).bind List.getLast? <;> rfl

/-- An input reads and writes the inbox of its own player only. -/
theorem enqueueInput_local : ActsLocally (enqueueInput (F := F)) PlayerInputCommand.playerId inbox
    (Inbox.offer PlayerInputCommand.inputSeq .accepted .outOfOrder) (· = .queueFull) where
  own s input hRoom := by
    have hBehind := behind_inbox s input
    unfold enqueueInput at hRoom ⊢
    unfold Inbox.offer
    rw [hBehind]
    by_cases hLast : (s.lastInputSeqByPlayer.find input.playerId).any (input.inputSeq ≤ ·) = true
    · simp [hLast]
    · by_cases hQueue : behindQueue (s.inputQueuesByPlayer.find input.playerId) input.inputSeq = true
      · simp [hQueue]
      · by_cases hFull : s.config.inputQueueCapacity ≤ s.pendingInputCount
        · simp [hLast, hQueue, hFull] at hRoom
        · simp [hLast, hQueue, hFull, inbox, Inbox.put, CommandQueues.find_push]
  others s input id hOther := by
    unfold enqueueInput
    split_ifs
    · rfl
    · rfl
    · rfl
    · simp [inbox, CommandQueues.find_push, UnorderedMap.find_set, hOther]

end AuthoritativeLoop

namespace CombatSimulation

/-- A player's waiting shots, and which weapons are known. -/
def inbox (s : CombatSimulation F) (playerId : Nat) :
    (Bytes → Option (WeaponRuntime F)) × Inbox (FireCommand F) :=
  (s.weaponsById.find,
    { queue := s.fireQueueByPlayer.find playerId, last := s.lastShotSeqByPlayer.find playerId })

def SameShots (s s' : CombatSimulation F) : Prop :=
  s.weaponsById.SameContents s'.weaponsById ∧
    s.fireQueueByPlayer.SameContents s'.fireQueueByPlayer ∧
    s.lastShotSeqByPlayer.SameContents s'.lastShotSeqByPlayer

/-- What the queue of one player does with a shot. -/
def offerFire (known : (Bytes → Option (WeaponRuntime F)) × Inbox (FireCommand F))
    (fire : FireCommand F) :
    FireEnqueueStatus × (Bytes → Option (WeaponRuntime F)) × Inbox (FireCommand F) :=
  if (known.1 (Bytes.lowercase fire.weaponId)).isNone then (.unknownWeapon, known)
  else
    let offered := known.2.offer FireCommand.shotSeq .accepted .outOfOrder
      { fire with weaponId := Bytes.lowercase fire.weaponId }
    (offered.1, known.1, offered.2)

/-- A shot reads and writes the inbox of its own player only. -/
theorem enqueueFire_local : ActsLocally (enqueueFire (F := F)) FireCommand.attackerId inbox
    offerFire fun _ => False where
  own s fire _ := by
    have hBehind : (s.inbox fire.attackerId).2.behind FireCommand.shotSeq fire.shotSeq =
        ((s.lastShotSeqByPlayer.find fire.attackerId).any (fire.shotSeq ≤ ·) ||
          behindQueue (s.fireQueueByPlayer.find fire.attackerId) fire.shotSeq) := by
      unfold Inbox.behind behindQueue inbox
      congr 1
      cases (s.fireQueueByPlayer.find fire.attackerId).bind List.getLast? <;> rfl
    unfold enqueueFire offerFire Inbox.offer
    dsimp only
    rw [hBehind]
    by_cases hWeapon : (s.weaponsById.find (Bytes.lowercase fire.weaponId)).isNone = true
    · simp [inbox, hWeapon]
    · by_cases hLast : (s.lastShotSeqByPlayer.find fire.attackerId).any (fire.shotSeq ≤ ·) = true
      · simp [inbox, hWeapon, hLast]
      · by_cases hQueue : behindQueue (s.fireQueueByPlayer.find fire.attackerId) fire.shotSeq = true
        · simp [inbox, hWeapon, hQueue]
        · simp [inbox, hWeapon, hLast, hQueue, ensurePlayer, Inbox.put, CommandQueues.find_push]
  others s fire id hOther := by
    unfold enqueueFire
    dsimp only
    split_ifs
    · rfl
    · rfl
    · rfl
    · simp [inbox, ensurePlayer, CommandQueues.find_push, UnorderedMap.find_set, hOther]

end CombatSimulation

namespace InventoryLootSimulation

/-- The last pickup that a player enqueued, zero for a new player. -/
def lastEnqueued (s : InventoryLootSimulation F) (playerId : Nat) : Nat :=
  ((s.playersById.find playerId).map PlayerInventoryState.lastEnqueuedPickupSeq).getD 0

def inbox (s : InventoryLootSimulation F) (playerId : Nat) : Inbox TreasurePickupCommand where
  queue := s.pickupQueueByPlayer.find playerId
  last := some (s.lastEnqueued playerId)

def SamePickups (s s' : InventoryLootSimulation F) : Prop :=
  s.playersById.SameContents s'.playersById ∧
    s.pickupQueueByPlayer.SameContents s'.pickupQueueByPlayer

theorem behind_inbox (s : InventoryLootSimulation F) (command : TreasurePickupCommand) :
    (s.inbox command.playerId).behind TreasurePickupCommand.pickupSeq command.pickupSeq =
      (decide (command.pickupSeq ≤ s.lastEnqueued command.playerId) ||
        behindQueue (s.pickupQueueByPlayer.find command.playerId) command.pickupSeq) := by
  unfold Inbox.behind behindQueue inbox
  congr 1
  cases (s.pickupQueueByPlayer.find command.playerId).bind List.getLast? <;> rfl

/-- A player whom `ensurePlayer` creates has enqueued nothing. -/
theorem find_ensurePlayer_self (s : InventoryLootSimulation F) (playerId : Nat) :
    ∃ state, (s.ensurePlayer playerId).playersById.find playerId = some state ∧
      state.lastEnqueuedPickupSeq = s.lastEnqueued playerId := by
  unfold ensurePlayer lastEnqueued
  cases hFind : s.playersById.find playerId with
  | none =>
      refine ⟨{ playerId := playerId }, ?_, rfl⟩
      rw [UnorderedMap.find_tryEmplace, if_pos rfl, hFind]
      rfl
  | some state =>
      refine ⟨state, ?_, rfl⟩
      rw [UnorderedMap.find_tryEmplace, if_pos rfl, hFind]
      rfl

theorem lastEnqueued_ensurePlayer (s : InventoryLootSimulation F) (playerId id : Nat) :
    (s.ensurePlayer playerId).lastEnqueued id = s.lastEnqueued id := by
  obtain ⟨state, hFind, hState⟩ := s.find_ensurePlayer_self playerId
  by_cases hSame : id = playerId
  · rw [hSame, ← hState, lastEnqueued, hFind]
    rfl
  · unfold lastEnqueued ensurePlayer
    rw [UnorderedMap.find_tryEmplace, if_neg hSame]

/-- The outcomes of a pickup command; only an accepted one waits. -/
theorem enqueuePickup_cases (s : InventoryLootSimulation F) (command : TreasurePickupCommand) :
    (((s.inbox command.playerId).behind TreasurePickupCommand.pickupSeq command.pickupSeq = true ∧
          (s.enqueuePickup command).1 = .outOfOrder) ∨
        (s.enqueuePickup command).1 = .queueFull ∧
          s.config.pickupQueueCapacity ≤ s.queuedPickupCount) ∧
        (s.enqueuePickup command).2 = s.ensurePlayer command.playerId ∨
      (s.inbox command.playerId).behind TreasurePickupCommand.pickupSeq command.pickupSeq = false ∧
        (s.enqueuePickup command).1 = .accepted ∧
        s.queuedPickupCount < s.config.pickupQueueCapacity ∧
        ∃ state, (s.ensurePlayer command.playerId).playersById.find command.playerId = some state ∧
          (s.enqueuePickup command).2 =
            { s.ensurePlayer command.playerId with
              pickupQueueByPlayer := s.pickupQueueByPlayer.push command.playerId command
              playersById := (s.ensurePlayer command.playerId).playersById.set command.playerId
                ({ state with lastEnqueuedPickupSeq := command.pickupSeq })
              queuedPickupCount := s.queuedPickupCount + 1 } := by
  obtain ⟨state, hFind, hState⟩ := s.find_ensurePlayer_self command.playerId
  have hBehind := s.behind_inbox command
  have hQueues : (s.ensurePlayer command.playerId).pickupQueueByPlayer = s.pickupQueueByPlayer := rfl
  unfold enqueuePickup
  simp only [hFind, hState, hQueues]
  by_cases hLast : command.pickupSeq ≤ s.lastEnqueued command.playerId
  · left
    simp [hBehind, hLast]
  · by_cases hFull : s.config.pickupQueueCapacity ≤ s.queuedPickupCount
    · left
      simp [ensurePlayer, hLast, hFull]
    · by_cases hQueue : behindQueue (s.pickupQueueByPlayer.find command.playerId)
        command.pickupSeq = true
      · left
        simp [ensurePlayer, hBehind, hLast, hFull, hQueue]
      · right
        refine ⟨by simp [hBehind, hLast, hQueue], ?_, not_le.mp hFull, state, rfl, ?_⟩
        · simp [ensurePlayer, hLast, hFull, hQueue]
        · simp [ensurePlayer, hLast, hFull, hQueue]

/-- To make a player known leaves its inbox as it was. -/
theorem inbox_ensurePlayer (s : InventoryLootSimulation F) (playerId id : Nat) :
    (s.ensurePlayer playerId).inbox id = s.inbox id := by
  change Inbox.mk _ _ = Inbox.mk _ _
  rw [lastEnqueued_ensurePlayer]
  rfl

/-- A pickup reads and writes the inbox of its own player only. -/
theorem enqueuePickup_local : ActsLocally (enqueuePickup (F := F)) TreasurePickupCommand.playerId
    inbox (Inbox.offer TreasurePickupCommand.pickupSeq .accepted .outOfOrder)
    (· = .queueFull) where
  own s command hRoom := by
    unfold Inbox.offer
    rcases s.enqueuePickup_cases command with ⟨hStatus, hState⟩ | ⟨hBehind, hStatus, -, state, -, hState⟩
    · rcases hStatus with ⟨hBehind, hStatus⟩ | hFull
      · rw [if_pos hBehind, hStatus, hState, inbox_ensurePlayer]
        exact ⟨rfl, rfl⟩
      · exact absurd hFull.1 hRoom
    · rw [if_neg (by simp [hBehind]), hStatus, hState]
      simp [inbox, lastEnqueued, Inbox.put, CommandQueues.find_push]
  others s command id hOther := by
    rcases s.enqueuePickup_cases command with ⟨-, hState⟩ | ⟨-, -, -, state, -, hState⟩
    · rw [hState, inbox_ensurePlayer]
    · rw [hState, ← s.inbox_ensurePlayer command.playerId id]
      simp [inbox, lastEnqueued, ensurePlayer, CommandQueues.find_push, UnorderedMap.find_set,
        hOther]

end InventoryLootSimulation

/-- In between two ticks the order in which the inputs, shots and pickups of different
players arrive decides neither an answer nor what the next tick drains. -/
theorem arrival_order_irrelevant :
    OrderFree (AuthoritativeLoop.enqueueInput (F := F)) PlayerInputCommand.playerId
        (· = .queueFull) AuthoritativeLoop.SameInputs (fun s => s.drainInputs.1) ∧
      OrderFree (CombatSimulation.enqueueFire (F := F)) FireCommand.attackerId
        (fun _ => False) CombatSimulation.SameShots (fun s => s.drainFireCommands.1) ∧
      OrderFree (InventoryLootSimulation.enqueuePickup (F := F)) TreasurePickupCommand.playerId
        (· = .queueFull) InventoryLootSimulation.SamePickups (fun s => s.drainPickups.1) := by
  refine ⟨?_, ?_, ?_⟩
  · refine OrderFree.of_local AuthoritativeLoop.enqueueInput_local ?_ ?_
    · intro s s' hSame id
      change Inbox.mk _ _ = Inbox.mk _ _
      rw [hSame.1 id, hSame.2 id]
    · intro s s' hView
      exact CommandQueues.drain_congr fun id => congrArg Inbox.queue (hView id)
  · refine OrderFree.of_local CombatSimulation.enqueueFire_local ?_ ?_
    · intro s s' hSame id
      change (_, Inbox.mk _ _) = (_, Inbox.mk _ _)
      rw [hSame.2.1 id, hSame.2.2 id, funext hSame.1]
    · intro s s' hView
      have hWeapons : s.weaponsById.find = s'.weaponsById.find := congrArg Prod.fst (hView 0)
      have hQueues : s.fireQueueByPlayer.drain.1 = s'.fireQueueByPlayer.drain.1 :=
        CommandQueues.drain_congr fun id => congrArg (fun known => known.2.queue) (hView id)
      change List.map _ s.fireQueueByPlayer.drain.1 = List.map _ s'.fireQueueByPlayer.drain.1
      rw [hWeapons, hQueues]
  · refine OrderFree.of_local InventoryLootSimulation.enqueuePickup_local ?_ ?_
    · intro s s' hSame id
      change Inbox.mk _ (some _) = Inbox.mk _ (some _)
      unfold InventoryLootSimulation.lastEnqueued
      rw [hSame.1 id, hSame.2 id]
    · intro s s' hView
      exact CommandQueues.drain_congr fun id => congrArg Inbox.queue (hView id)

/-- Two inputs of player 1 and one of player 2, one player after the other. -/
def oneByOne : List (PlayerInputCommand ℚ) :=
  [{ playerId := 1, inputSeq := 1 }, { playerId := 1, inputSeq := 2 },
    { playerId := 2, inputSeq := 1 }]

/-- The input of player 2 in between. -/
def inBetween : List (PlayerInputCommand ℚ) :=
  [{ playerId := 1, inputSeq := 1 }, { playerId := 2, inputSeq := 1 },
    { playerId := 1, inputSeq := 2 }]

/-- Two shots of two players with a known weapon, and the state that knows it. -/
def twoShots : CombatSimulation ℚ × List (FireCommand ℚ) :=
  (.create [{ id := Bytes.ofString "rifle", type := Bytes.ofString "hitscan" }] {},
    [{ attackerId := 1, shotSeq := 1, weaponId := Bytes.ofString "rifle" },
      { attackerId := 2, shotSeq := 1, weaponId := Bytes.ofString "rifle" }])

def twoPickups : List TreasurePickupCommand :=
  [{ playerId := 1, pickupSeq := 1, spawnId := 1 }, { playerId := 2, pickupSeq := 1, spawnId := 1 }]

/-- Commands of two senders agree sender by sender if they do for those two. -/
theorem filter_of_two_ids {α : Type} {sender : α → Nat} {commands commands' : List α} {a b : Nat}
    (h : ∀ command ∈ commands, sender command = a ∨ sender command = b)
    (h' : ∀ command ∈ commands', sender command = a ∨ sender command = b)
    (hFirst : commands.filter (fun command => sender command = a) =
      commands'.filter fun command => sender command = a)
    (hSecond : commands.filter (fun command => sender command = b) =
      commands'.filter fun command => sender command = b) (id : Nat) :
    commands.filter (fun command => sender command = id) =
      commands'.filter fun command => sender command = id := by
  by_cases hA : id = a
  · rw [hA]
    exact hFirst
  · by_cases hB : id = b
    · rw [hB]
      exact hSecond
    · have hNone : ∀ l : List α, (∀ command ∈ l, sender command = a ∨ sender command = b) →
          l.filter (fun command => sender command = id) = [] := by
        intro l hAll
        rw [List.filter_eq_nil_iff]
        intro command hCommand hSame
        rcases hAll command hCommand with hId | hId
        · exact hA ((of_decide_eq_true hSame).symm.trans hId)
        · exact hB ((of_decide_eq_true hSame).symm.trans hId)
      rw [hNone commands h, hNone commands' h']

/-- Two players, whose commands arrive one player after the other or in turns. -/
theorem arrival_order_irrelevant_swapped :
    (answers AuthoritativeLoop.enqueueInput (AuthoritativeLoop.create {} 0) oneByOne).2.drainInputs.1 =
        (answers AuthoritativeLoop.enqueueInput (AuthoritativeLoop.create {} 0)
          inBetween).2.drainInputs.1 ∧
      (answers CombatSimulation.enqueueFire twoShots.1 twoShots.2).2.drainFireCommands.1 =
        (answers CombatSimulation.enqueueFire twoShots.1 twoShots.2.reverse).2.drainFireCommands.1 ∧
      (answers InventoryLootSimulation.enqueuePickup (.create (F := ℚ) [] {})
          twoPickups).2.drainPickups.1 =
        (answers InventoryLootSimulation.enqueuePickup (.create (F := ℚ) [] {})
          twoPickups.reverse).2.drainPickups.1 := by
  obtain ⟨hInputs, hShots, hPickups⟩ := arrival_order_irrelevant (F := ℚ)
  refine ⟨?_, ?_, ?_⟩
  · exact (hInputs _ _ ⟨.refl _, .refl _⟩ oneByOne inBetween
      (filter_of_two_ids (a := 1) (b := 2) (by decide) (by decide) rfl rfl)
      (by decide +kernel) (by decide +kernel)).2
  · exact (hShots _ _ ⟨.refl _, .refl _, .refl _⟩ twoShots.2 twoShots.2.reverse
      (filter_of_two_ids (a := 1) (b := 2) (by decide +kernel) (by decide +kernel) rfl rfl)
      (fun _ _ => not_false) (fun _ _ => not_false)).2
  · exact (hPickups _ _ ⟨.refl _, .refl _⟩ twoPickups twoPickups.reverse
      (filter_of_two_ids (a := 1) (b := 2) (by decide) (by decide) (by decide) (by decide))
      (by decide +kernel) (by decide +kernel)).2

end DevyFps.Server
