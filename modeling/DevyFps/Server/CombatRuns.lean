import DevyFps.Foundations.Run
import DevyFps.Server.CombatShots

/-! Runs of the combat simulation: its calls in any order. -/

namespace DevyFps.Server

open Foundations

/-- A tick of the combat: what it reports, the hits in flight that it let land, each with the
damage that it did, the shots that took effect, and the hits that it set going. -/
structure CombatTick where
  tick : Nat
  tickInterval : Int
  result : CombatTickResult
  landings : List (PendingProjectileHit × Option DamageResolution)
  shots : List Shot
  launched : List PendingProjectileHit

/-- What a call did, as far as the lives of the players go. -/
inductive CombatEvent where
  | reset
  | ensured (playerId : Nat) (inserted : Bool)
  | removed (playerId : Nat)
  | respawned (playerId : Nat)
  | refused
  | ticked (record : CombatTick)

namespace CombatSimulation

variable {F : Type} [SingleFloat F]

/-- The record of a tick. -/
def record (s : CombatSimulation F) (tick : Nat) (tickInterval : Int) : CombatTick where
  tick := tick
  tickInterval := tickInterval
  result := (s.resolveTick tick tickInterval).1
  landings := s.landings tick
  shots := s.shotsOfTick tick tickInterval
  launched := (s.resolveTick tick tickInterval).2.pendingProjectiles.drop (s.remaining tick).length

/-- The calls that change the simulation. A position or a shot creates its player too. -/
inductive CombatCall : CombatSimulation F → CombatEvent → CombatSimulation F → Prop where
  | reset (s) : CombatCall s .reset s.reset
  | ensurePlayer (s) (playerId : Nat) :
      CombatCall s (.ensured playerId (!s.knows playerId)) (s.ensurePlayer playerId)
  | removePlayer (s) (playerId : Nat) : CombatCall s (.removed playerId) (s.removePlayer playerId)
  | respawnPlayer (s) (playerId : Nat) :
      CombatCall s (.respawned playerId) (s.respawnPlayer playerId)
  | setPlayerPosition (s) (playerId : Nat) (x y : F) :
      CombatCall s (.ensured playerId (!s.knows playerId)) (s.setPlayerPosition playerId x y)
  | enqueueFire (s) (fire : FireCommand F) (h : (s.enqueueFire fire).1 = .accepted) :
      CombatCall s (.ensured fire.attackerId (!s.knows fire.attackerId)) (s.enqueueFire fire).2
  | refuseFire (s) (fire : FireCommand F) (h : (s.enqueueFire fire).1 ≠ .accepted) :
      CombatCall s .refused (s.enqueueFire fire).2
  | resolveTick (s) (tick : Nat) (tickInterval : Int) :
      CombatCall s (.ticked (s.record tick tickInterval))
        (s.resolveTick tick tickInterval).2

/-- A tick of a run is recorded as it happened. -/
theorem record_of_tick {s t : CombatSimulation F} {record : CombatTick}
    (hStep : CombatCall s (.ticked record) t) :
    record = s.record record.tick record.tickInterval ∧
      t = (s.resolveTick record.tick record.tickInterval).2 := by
  cases hStep with
  | resolveTick tick tickInterval => exact ⟨rfl, rfl⟩

/-- The hits that a tick sets going are those of its shots. -/
theorem launched_record (s : CombatSimulation F) (tick : Nat) (tickInterval : Int) :
    (s.record tick tickInterval).launched =
      (s.shotsOfTick tick tickInterval).filterMap fun shot => shot.launched.map Prod.fst := by
  unfold record
  dsimp only
  rw [(s.tickAccount tick tickInterval).pending]
  exact List.drop_left

/-- Setting all positions is setting one after the other. -/
theorem run_setPlayerPositions (s : CombatSimulation F) (states : List (PlayerMotionState F)) :
    ∃ trace, Run CombatCall s trace (s.setPlayerPositions states) := by
  induction states generalizing s with
  | nil => exact ⟨[], .nil s⟩
  | cons state rest ih =>
      obtain ⟨trace, hRest⟩ := ih (s.setPlayerPosition state.playerId state.positionX state.positionY)
      exact ⟨_, (Run.single (.setPlayerPosition s state.playerId state.positionX
        state.positionY)).trans hRest⟩

end CombatSimulation

end DevyFps.Server
