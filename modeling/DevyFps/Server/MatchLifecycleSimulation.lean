import DevyFps.Server.InventoryLootSimulation
import Mathlib.Algebra.Order.Floor.Defs
import Mathlib.Data.Rat.Floor

/-! The match: a countdown, the match proper with its deaths, respawns and
eliminations, and its end when one contender or no time is left. -/

namespace DevyFps.Server

open Foundations

inductive MatchPhase where
  | preMatch
  | inMatch
  | postMatch
  deriving DecidableEq, Repr

structure MatchLifecycleConfig where
  preMatchTicks : Nat := 90
  matchDurationSeconds : Nat := 600
  respawnsPerPlayer : Nat := 2
  respawnDelayTicks : Nat := 60
  minPlayersToStart : Nat := 1
  deriving DecidableEq, Repr

structure MatchScoreEntry where
  playerId : Nat := 0
  kills : Nat := 0
  deaths : Nat := 0
  coins : Int := 0
  respawnsRemaining : Nat := 0
  alive : Bool := true
  eliminated : Bool := false
  connected : Bool := false
  deriving DecidableEq, Repr

structure MatchLifecycleState where
  phase : MatchPhase := .preMatch
  remainingSeconds : Nat := 0
  phaseStartedTick : Nat := 0
  winnerPlayerId : Option Nat := none
  deriving DecidableEq, Repr

structure MatchLifecycleTickResult where
  state : MatchLifecycleState := {}
  scoreboard : List MatchScoreEntry := []
  respawnedPlayers : List Nat := []
  stateChanged : Bool := false
  scoreboardChanged : Bool := false
  deriving DecidableEq, Repr

structure PlayerRecord where
  playerId : Nat := 0
  kills : Nat := 0
  deaths : Nat := 0
  coins : Int := 0
  respawnsRemaining : Nat := 0
  alive : Bool := true
  eliminated : Bool := false
  connected : Bool := false
  participated : Bool := false
  pendingRespawnTick : Option Nat := none
  deriving DecidableEq, Repr

def PlayerRecord.score (player : PlayerRecord) : MatchScoreEntry where
  playerId := player.playerId
  kills := player.kills
  deaths := player.deaths
  coins := player.coins
  respawnsRemaining := player.respawnsRemaining
  alive := player.alive
  eliminated := player.eliminated
  connected := player.connected

structure MatchLifecycleSimulation where
  config : MatchLifecycleConfig
  phase : MatchPhase
  preMatchTicksRemaining : Nat
  inMatchSecondsRemaining : Nat
  inMatchSecondAccumulator : Int
  phaseStartedTick : Nat
  winnerPlayerId : Option Nat
  playersById : UnorderedMap Nat PlayerRecord
  deriving DecidableEq

namespace MatchLifecycleSimulation

def kOneSecond : Int := 1000000000

def sanitizeConfig (config : MatchLifecycleConfig) : MatchLifecycleConfig :=
  { config with
    matchDurationSeconds :=
      if config.matchDurationSeconds = 0 then 600 else config.matchDurationSeconds
    respawnDelayTicks := if config.respawnDelayTicks = 0 then 60 else config.respawnDelayTicks
    minPlayersToStart := if config.minPlayersToStart = 0 then 1 else config.minPlayersToStart }

def create (config : MatchLifecycleConfig) : MatchLifecycleSimulation where
  config := sanitizeConfig config
  phase := .preMatch
  preMatchTicksRemaining := (sanitizeConfig config).preMatchTicks
  inMatchSecondsRemaining := (sanitizeConfig config).matchDurationSeconds
  inMatchSecondAccumulator := 0
  phaseStartedTick := 0
  winnerPlayerId := none
  playersById := ∅

def reset (s : MatchLifecycleSimulation) : MatchLifecycleSimulation :=
  { s with
    phase := .preMatch
    preMatchTicksRemaining := s.config.preMatchTicks
    inMatchSecondsRemaining := s.config.matchDurationSeconds
    inMatchSecondAccumulator := 0
    phaseStartedTick := 0
    winnerPlayerId := none
    playersById := s.playersById.mapValues fun _ record =>
      { record with
        kills := 0
        deaths := 0
        coins := 0
        respawnsRemaining := s.config.respawnsPerPlayer
        alive := true
        eliminated := false
        pendingRespawnTick := none } }

def newRecord (s : MatchLifecycleSimulation) (playerId : Nat) : PlayerRecord :=
  { playerId := playerId, respawnsRemaining := s.config.respawnsPerPlayer }

/-- What `ensure_player` writes to a record, new or old. -/
def touch (record : PlayerRecord) : PlayerRecord :=
  { record with participated := true, connected := true }

def ensurePlayer (s : MatchLifecycleSimulation) (playerId : Nat) : MatchLifecycleSimulation :=
  { s with
    playersById := (s.playersById.tryEmplace playerId (s.newRecord playerId)).modify playerId touch }

/-- A write through the iterator that `find` returned. -/
def modifyPlayer (s : MatchLifecycleSimulation) (playerId : Nat)
    (f : PlayerRecord → PlayerRecord) : MatchLifecycleSimulation :=
  { s with playersById := s.playersById.modify playerId f }

def removePlayer (s : MatchLifecycleSimulation) (playerId : Nat) : MatchLifecycleSimulation :=
  s.modifyPlayer playerId fun record =>
    { record with connected := false, pendingRespawnTick := none }

/-- The first two loops of `resolve_tick`: the flag is recomputed for every record. -/
def markActive (s : MatchLifecycleSimulation) (activePlayerIds : List Nat) :
    MatchLifecycleSimulation :=
  let ensured := activePlayerIds.foldl ensurePlayer s
  { ensured with
    playersById := ensured.playersById.mapValues fun playerId record =>
      { record with connected := activePlayerIds.contains playerId } }

/-- The body of the loop over the combat states. -/
def syncCombatState (s : MatchLifecycleSimulation) (combatState : PlayerCombatState) :
    MatchLifecycleSimulation :=
  (s.ensurePlayer combatState.playerId).modifyPlayer combatState.playerId fun record =>
    if record.pendingRespawnTick.isNone then { record with alive := combatState.alive }
    else record

/-- The body of the loop over the inventory summaries. -/
def syncCoins (s : MatchLifecycleSimulation) (summary : InventorySummary) :
    MatchLifecycleSimulation :=
  (s.ensurePlayer summary.playerId).modifyPlayer summary.playerId fun record =>
    { record with coins := summary.totalValue }

/-- Whether some summary differs from the coins recorded when it is read. -/
def coinsChange (s : MatchLifecycleSimulation) : List InventorySummary → Bool
  | [] => false
  | summary :: rest =>
      ((s.ensurePlayer summary.playerId).playersById.find summary.playerId).any
          (fun record => record.coins != summary.totalValue) ||
        (s.syncCoins summary).coinsChange rest

def connectedCount (s : MatchLifecycleSimulation) : Nat :=
  (s.playersById.values.filter fun player => player.connected).length

/-- What `enter_in_match` writes to a record. -/
def enterRecord (config : MatchLifecycleConfig) (record : PlayerRecord) : PlayerRecord :=
  { record with
    alive := true
    eliminated := false
    pendingRespawnTick := none
    respawnsRemaining := config.respawnsPerPlayer }

def enterInMatch (s : MatchLifecycleSimulation) (tick : Nat) : MatchLifecycleSimulation :=
  { s with
    phase := .inMatch
    inMatchSecondsRemaining := s.config.matchDurationSeconds
    inMatchSecondAccumulator := 0
    winnerPlayerId := none
    phaseStartedTick := tick
    playersById := s.playersById.mapValues fun _ record => enterRecord s.config record }

def enterPostMatch (s : MatchLifecycleSimulation) (tick : Nat) (winnerPlayerId : Option Nat) :
    MatchLifecycleSimulation :=
  { s with
    phase := .postMatch
    inMatchSecondsRemaining := 0
    preMatchTicksRemaining := 0
    inMatchSecondAccumulator := 0
    winnerPlayerId := winnerPlayerId
    phaseStartedTick := tick }

/-- The countdown before the match: whether the state changed, and whether the match
started in this tick. -/
def countDown (s : MatchLifecycleSimulation) (tick : Nat) :
    Bool × Bool × MatchLifecycleSimulation :=
  if s.phase ≠ .preMatch then (false, false, s)
  else if s.connectedCount < s.config.minPlayersToStart then
    (s.preMatchTicksRemaining != s.config.preMatchTicks, false,
      { s with preMatchTicksRemaining := s.config.preMatchTicks })
  else
    let counted := { s with preMatchTicksRemaining := s.preMatchTicksRemaining - 1 }
    if counted.preMatchTicksRemaining = 0 then (true, true, counted.enterInMatch tick)
    else (false, false, counted)

/-- Take whole seconds from the accumulator while there are seconds left. -/
def drainSeconds (accumulator : Int) : Nat → Int × Nat
  | 0 => (accumulator, 0)
  | seconds + 1 =>
      if kOneSecond ≤ accumulator then drainSeconds (accumulator - kOneSecond) seconds
      else (accumulator, seconds + 1)

/-- The match clock: whether it ran out in this tick. -/
def runClock (s : MatchLifecycleSimulation) (tickInterval : Int) (startedThisTick : Bool) :
    Bool × MatchLifecycleSimulation :=
  if s.phase = .inMatch && !startedThisTick && 0 < tickInterval && 0 < s.inMatchSecondsRemaining then
    let (accumulator, seconds) :=
      drainSeconds (s.inMatchSecondAccumulator + tickInterval) s.inMatchSecondsRemaining
    (seconds = 0,
      { s with inMatchSecondAccumulator := accumulator, inMatchSecondsRemaining := seconds })
  else (false, s)

/-- What a death writes to the record of the victim. -/
def victimRecord (config : MatchLifecycleConfig) (tick : Nat) (victim : PlayerRecord) :
    PlayerRecord :=
  let dead := { victim with deaths := (victim.deaths + 1) % 2 ^ 32, alive := false }
  if 0 < victim.respawnsRemaining then
    { dead with
      respawnsRemaining := victim.respawnsRemaining - 1
      eliminated := false
      pendingRespawnTick := some ((tick + config.respawnDelayTicks) % 2 ^ 64) }
  else { dead with eliminated := true, pendingRespawnTick := none }

def killerRecord (killer : PlayerRecord) : PlayerRecord :=
  { killer with kills := (killer.kills + 1) % 2 ^ 32 }

/-- The body of the loop over the deaths, for a victim not yet handled. -/
def recordDeath (s : MatchLifecycleSimulation) (tick : Nat) (death : DeathResolution) :
    MatchLifecycleSimulation :=
  let buried :=
    (s.ensurePlayer death.victimId).modifyPlayer death.victimId (victimRecord s.config tick)
  if death.killerId ≠ 0 ∧ death.killerId ≠ death.victimId then
    (buried.ensurePlayer death.killerId).modifyPlayer death.killerId killerRecord
  else buried

/-- Every victim dies once a tick, however many deaths name it. -/
def recordDeaths (s : MatchLifecycleSimulation) (tick : Nat) :
    List DeathResolution → Finset Nat → MatchLifecycleSimulation
  | [], _ => s
  | death :: rest, handled =>
      if death.victimId ∈ handled then s.recordDeaths tick rest handled
      else (s.recordDeath tick death).recordDeaths tick rest (insert death.victimId handled)

/-- The respawns that are due, for the listed players in order. -/
def respawnDue (s : MatchLifecycleSimulation) (tick : Nat) :
    List Nat → List Nat × MatchLifecycleSimulation
  | [] => ([], s)
  | playerId :: rest =>
      match (s.playersById.find playerId).bind PlayerRecord.pendingRespawnTick with
      | none => s.respawnDue tick rest
      | some due =>
          if tick < due then s.respawnDue tick rest
          else if (s.playersById.find playerId).any (·.eliminated) then
            let cleared := s.modifyPlayer playerId fun player =>
              { player with pendingRespawnTick := none }
            cleared.respawnDue tick rest
          else
            let revived := s.modifyPlayer playerId fun player =>
              { player with pendingRespawnTick := none, alive := true }
            let (respawned, finish) := revived.respawnDue tick rest
            (playerId :: respawned, finish)

def sortedPlayerIds (s : MatchLifecycleSimulation) : List Nat :=
  sortBy (fun a b => decide (a < b)) s.playersById.keys

def contenders (s : MatchLifecycleSimulation) : List Nat :=
  sortBy (fun a b => decide (a < b))
    ((s.playersById.items.filter fun item => item.2.connected && !item.2.eliminated).map Prod.fst)

def rankingBetter (lhs rhs : MatchScoreEntry) : Bool :=
  if lhs.kills ≠ rhs.kills then rhs.kills < lhs.kills
  else if lhs.coins ≠ rhs.coins then rhs.coins < lhs.coins
  else if lhs.deaths ≠ rhs.deaths then lhs.deaths < rhs.deaths
  else lhs.playerId < rhs.playerId

def buildScoreboard (s : MatchLifecycleSimulation) : List MatchScoreEntry :=
  sortBy rankingBetter ((s.playersById.values.filter (·.participated)).map PlayerRecord.score)

def resolveWinnerFromScoreboard (scoreboard : List MatchScoreEntry) : Option Nat :=
  scoreboard.head?.map MatchScoreEntry.playerId

/-- Below the saturation at the largest `uint32_t` the product fits in the 64-bit
significand of a `long double`, and the ceiling of the quotient is exact. -/
def ticksToRemainingSeconds (ticks : Nat) (tickInterval : Int) : Nat :=
  if ticks = 0 then 0
  else if tickInterval ≤ 0 then ticks
  else min ⌈(tickInterval * ticks : ℚ) / 1000000000⌉.toNat (2 ^ 32 - 1)

def buildState (s : MatchLifecycleSimulation) (tickInterval : Int) : MatchLifecycleState where
  phase := s.phase
  remainingSeconds :=
    match s.phase with
    | .preMatch => ticksToRemainingSeconds s.preMatchTicksRemaining tickInterval
    | .inMatch => s.inMatchSecondsRemaining
    | .postMatch => 0
  phaseStartedTick := s.phaseStartedTick
  winnerPlayerId := s.winnerPlayerId

/-- Deaths of a tick that is spent in the match, in the order of their victims. -/
def applyDeaths (s : MatchLifecycleSimulation) (tick : Nat) (deathEvents : List DeathResolution) :
    MatchLifecycleSimulation :=
  if s.phase = .inMatch then s.recordDeaths tick (sortBy deathLess deathEvents) ∅ else s

def applyRespawns (s : MatchLifecycleSimulation) (tick : Nat) :
    List Nat × MatchLifecycleSimulation :=
  if s.phase = .inMatch then s.respawnDue tick s.sortedPlayerIds else ([], s)

/-- The end of the match, with one contender left or with the time run out. -/
def finishMatch (s : MatchLifecycleSimulation) (tick : Nat) (timerExpired : Bool) :
    Bool × MatchLifecycleSimulation :=
  if s.phase ≠ .inMatch then (false, s)
  else
    match s.contenders with
    | [winner] => (true, s.enterPostMatch tick (some winner))
    | _ =>
        if timerExpired then
          (true, s.enterPostMatch tick (resolveWinnerFromScoreboard s.buildScoreboard))
        else (false, s)

/-- The part of a tick that reads the other components. -/
def observe (s : MatchLifecycleSimulation) (activePlayerIds : List Nat)
    (combatStates : List PlayerCombatState) (inventorySummaries : List InventorySummary) :
    MatchLifecycleSimulation :=
  inventorySummaries.foldl syncCoins (combatStates.foldl syncCombatState (s.markActive activePlayerIds))

/-- A tick up to its deaths: whether the clock ran out, whether the countdown changed
the state, and the match itself. -/
def openTick (s : MatchLifecycleSimulation) (tick : Nat) (tickInterval : Int)
    (activePlayerIds : List Nat) (combatStates : List PlayerCombatState)
    (inventorySummaries : List InventorySummary) : Bool × Bool × MatchLifecycleSimulation :=
  let counted := (s.observe activePlayerIds combatStates inventorySummaries).countDown tick
  let timed := counted.2.2.runClock tickInterval counted.2.1
  (timed.1, counted.1, timed.2)

def resolveTick (s : MatchLifecycleSimulation) (tick : Nat) (tickInterval : Int)
    (activePlayerIds : List Nat) (combatStates : List PlayerCombatState)
    (deathEvents : List DeathResolution) (inventorySummaries : List InventorySummary) :
    MatchLifecycleTickResult × MatchLifecycleSimulation :=
  let synced := combatStates.foldl syncCombatState (s.markActive activePlayerIds)
  let opened := s.openTick tick tickInterval activePlayerIds combatStates inventorySummaries
  let buried := opened.2.2.applyDeaths tick deathEvents
  let revived := buried.applyRespawns tick
  let finished := revived.2.finishMatch tick opened.1
  ({ state := finished.2.buildState tickInterval
     scoreboard := finished.2.buildScoreboard
     respawnedPlayers := revived.1
     stateChanged := opened.2.1 || finished.1
     scoreboardChanged := synced.coinsChange inventorySummaries ||
       (opened.2.2.phase == .inMatch && !deathEvents.isEmpty) || !revived.1.isEmpty }, finished.2)

def state (s : MatchLifecycleSimulation) (tickInterval : Int) : MatchLifecycleState :=
  s.buildState tickInterval

def scoreboardSnapshot (s : MatchLifecycleSimulation) : List MatchScoreEntry := s.buildScoreboard

end MatchLifecycleSimulation

end DevyFps.Server
