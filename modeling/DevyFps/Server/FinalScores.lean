import DevyFps.Server.Bookkeeping
import DevyFps.Server.FreshIdentity

/-! The scoreboard of a match that is over. Nobody scores any more, but combat goes on, and the
coins that the scoreboard shows are what the players hold: a player that dies drops them. -/

namespace DevyFps.Server

open Foundations

variable {F : Type} [SingleFloat F]

namespace MainLoop

open MatchLifecycleSimulation

variable {s t u v : MainLoop F}

/-- The match of the earlier state is over, and what has become of it: nobody scored, and only
the fallen have lost what they held. -/
structure Settled (t u : MainLoop F) (fell : Nat → Prop) : Prop where
  phase : u.matchLifecycleSimulation.phase = .postMatch
  winner : u.matchLifecycleSimulation.winnerPlayerId = t.matchLifecycleSimulation.winnerPlayerId
  waits : u.inventoryLootSimulation.NothingWaits
  known : Remembers t.matchLifecycleSimulation u.matchLifecycleSimulation
  tally : ∀ id, u.matchLifecycleSimulation.tally id = t.matchLifecycleSimulation.tally id
  held : ∀ id, u.inventoryLootSimulation.valueHeld id = t.inventoryLootSimulation.valueHeld id ∨
    fell id ∧ u.inventoryLootSimulation.valueHeld id = 0

/-- Whoever joins after the end changes no score of those on the board. -/
theorem Settled.ensurePlayer {fell : Nat → Prop} (h : Settled t u fell) (playerId : Nat)
    (sessions : SessionManager) :
    Settled t ({ u with sessionManager := sessions }.ensurePlayer playerId) fell where
  phase := h.phase
  winner := h.winner
  waits := h.waits
  known id hKnown := remembers_ensurePlayer _ playerId id (h.known id hKnown)
  tally id := (view_ensurePlayer unread_tallyOf _ playerId id).trans (h.tally id)
  held id := by
    have hSame : ({ u with sessionManager := sessions }.ensurePlayer
        playerId).inventoryLootSimulation.valueHeld id = u.inventoryLootSimulation.valueHeld id :=
      u.inventoryLootSimulation.valueHeld_ensurePlayer playerId id
    rw [hSame]
    exact h.held id

/-- Whoever leaves after the end stays on the board. -/
theorem Settled.leave {fell : Nat → Prop} (h : Settled t u fell) (peerToken : PeerToken)
    (playerId : Nat) : Settled t (u.leave peerToken playerId) fell where
  phase := h.phase
  winner := h.winner
  waits id queue hFind := by
    change (u.inventoryLootSimulation.removePlayer playerId).pickupQueueByPlayer.find id = _ at hFind
    rw [InventoryLootSimulation.removePlayer_queues, UnorderedMap.find_erase] at hFind
    split at hFind
    · cases hFind
    · exact h.waits id queue hFind
  known id hKnown := remembers_modifyPlayer _ playerId _ id (h.known id hKnown)
  tally id := (view_removePlayer tallyOf (fun _ => rfl) _ playerId id).trans (h.tally id)
  held id := by
    have hSame : (u.leave peerToken playerId).inventoryLootSimulation.valueHeld id =
        u.inventoryLootSimulation.valueHeld id :=
      u.inventoryLootSimulation.valueHeld_removePlayer playerId id
    rw [hSame]
    exact h.held id

/-- A tick after the end takes coins only from those who fall in it. -/
theorem Settled.tick {fell : Nat → Prop} (h : Settled t u fell) {frame : TickFrame F}
    (hTicked : u.Ticked frame v) :
    Settled t v fun id => fell id ∨ Died (u.foughtIn frame).1.deathEvents id := by
  have hAfter := tickWith_of_over h.phase (u.matchCall frame)
  have hClock := u.matchLifecycleSimulation.sameClock_observeWith (u.matchCall frame)
  rw [← hAfter, ← playedIn_eq, ← hTicked.matchLifecycleSimulation] at hClock
  rw [← playedIn_eq, ← hTicked.matchLifecycleSimulation] at hAfter
  constructor
  · exact hClock.phase_eq.trans h.phase
  · exact hClock.winner_eq.trans h.winner
  · rw [hTicked.inventoryLootSimulation, lootedIn_eq]
    exact (u.inventoryLootSimulation.nothingWaits_tickWith _).1
  · intro id hKnown
    rw [hAfter]
    exact remembers_observeWith _ (u.matchCall frame) id (h.known id hKnown)
  · intro id
    rw [hAfter]
    exact (view_observe unread_tallyOf _ _ _ _ id).trans (h.tally id)
  · intro id
    rw [hTicked.inventoryLootSimulation, lootedIn_eq]
    rcases h.waits.valueHeld_tickWith (u.lootCall frame) id with hSame | ⟨hDied, hZero⟩
    · rw [hSame]
      exact (h.held id).imp_right (And.imp_left Or.inl)
    · rw [deaths_lootCall] at hDied
      exact Or.inr ⟨Or.inr hDied, hZero⟩

/-- The player dies in a tick of the deeds. -/
def FellIn (deeds : List (Deed F)) (playerId : Nat) : Prop :=
  ∃ record, Deed.ticked record ∈ deeds ∧ Died record.combat.deathEvents playerId

/-- Who has fallen has fallen later as well. -/
theorem FellIn.snoc {deeds : List (Deed F)} {playerId : Nat} (h : FellIn deeds playerId)
    (deed : Deed F) : FellIn (deeds ++ [deed]) playerId := by
  obtain ⟨record, hMem, hDied⟩ := h
  exact ⟨record, List.mem_append_left _ hMem, hDied⟩

/-- The settled scores, for more of the fallen. -/
theorem Settled.mono {fell fell' : Nat → Prop} (h : Settled t u fell)
    (hFell : ∀ id, fell id → fell' id) : Settled t u fell' :=
  { h with held := fun id => (h.held id).imp_right (And.imp_left (hFell id)) }

/-- Every deed keeps the scores settled. -/
theorem Settled.step {deeds : List (Deed F)} {deed : Deed F} (h : Settled t u (FellIn deeds))
    (hStep : DeedStep u deed v) : Settled t v (FellIn (deeds ++ [deed])) := by
  have hShut : ¬ u.matchLifecycleSimulation.phase = .inMatch := by
    rw [h.phase]
    exact MatchPhase.noConfusion
  have hSame : Settled t u (FellIn (deeds ++ [deed])) := h.mono fun id hFell => hFell.snoc deed
  cases hStep with
  | idle hIdles =>
      obtain ⟨hOver, hWinner, hWaits, hKnown, hTally, hHeld⟩ := hSame
      constructor
      · rw [hIdles.matchLifecycleSimulation]
        exact hOver
      · rw [hIdles.matchLifecycleSimulation]
        exact hWinner
      · rw [hIdles.inventoryLootSimulation]
        exact hWaits
      · rw [hIdles.matchLifecycleSimulation]
        exact hKnown
      · rw [hIdles.matchLifecycleSimulation]
        exact hTally
      · rw [hIdles.inventoryLootSimulation]
        exact hHeld
  | seat peerToken playerName now playerId status hToken hNew hFree hSlot hSeats =>
      exact hSame.ensurePlayer playerId _
  | rejoin peerToken playerId hSeat => exact hSame.ensurePlayer playerId u.sessionManager
  | leave peerToken playerId hIdle hSeat => exact hSame.leave peerToken playerId
  | input peerToken command hSeat =>
      exact ⟨hSame.phase, hSame.winner, hSame.waits, hSame.known, hSame.tally, hSame.held⟩
  | fire peerToken command hPhase hSeat => exact absurd hPhase hShut
  | pickup peerToken command hPhase hSeat => exact absurd hPhase hShut
  | advance now hIdle =>
      exact ⟨hSame.phase, hSame.winner, hSame.waits, hSame.known, hSame.tally, hSame.held⟩
  | tick frame rest hFrames =>
      refine (h.tick (u.ticked_runFrame frame rest)).mono fun id hFell => ?_
      rcases hFell with hBefore | hDied
      · exact hBefore.snoc _
      · rw [← combat_runFrame] at hDied
        exact ⟨_, List.mem_append_right _ (List.mem_singleton_self _), hDied⟩

/-- After the end the scores stay settled, by induction on the deeds. -/
theorem Settled.run {deeds : List (Deed F)} (h : Settled t t (FellIn ([] : List (Deed F))))
    (run : Run DeedStep t deeds u) : Settled t u (FellIn deeds) :=
  run.history (I := fun deeds u => Settled t u (FellIn deeds))
    (fun _ _ _ _ hBefore hStep => hBefore.step hStep) h

/-- A tick that leaves the match over settles it. -/
theorem settled_of_ticked {frame : TickFrame F} (hTicked : s.Ticked frame t)
    (hOver : t.matchLifecycleSimulation.phase = .postMatch) : Settled t t (FellIn ([] : List (Deed F))) where
  phase := hOver
  winner := rfl
  waits := by
    rw [hTicked.inventoryLootSimulation, lootedIn_eq]
    exact (s.inventoryLootSimulation.nothingWaits_tickWith _).1
  known _ hKnown := hKnown
  tally _ := rfl
  held _ := Or.inl rfl

/-! The two scoreboards. -/

/-- The player has an entry. -/
def Lists (scoreboard : List MatchScoreEntry) (playerId : Nat) : Prop :=
  ∃ entry ∈ scoreboard, entry.playerId = playerId

/-- What has become of an entry: only the fallen have lost their coins. -/
structure KeptScore (fell : Prop) (entry entry' : MatchScoreEntry) : Prop where
  playerId : entry'.playerId = entry.playerId
  kills : entry'.kills = entry.kills
  deaths : entry'.deaths = entry.deaths
  coins : entry'.coins = entry.coins ∨ fell ∧ entry'.coins = 0

section Boards

variable {fell : Nat → Prop}

/-- An entry of the final board is on every later one, with its score kept. -/
theorem Settled.kept (h : Settled t v fell) (hBefore : t.Booked) (hAfter : v.Booked)
    {entry : MatchScoreEntry} (hEntry : entry ∈ t.matchLifecycleSimulation.buildScoreboard) :
    ∃ entry' ∈ v.matchLifecycleSimulation.buildScoreboard,
      KeptScore (fell entry.playerId) entry entry' := by
  obtain ⟨hKnown, hScore⟩ := (mem_buildScoreboard hBefore.keyed hBefore.enrolled).mp hEntry
  have hId := hAfter.keyed entry.playerId
  have hTally := h.tally entry.playerId
  have hCoins := hBefore.coins entry.playerId
  refine ⟨(v.matchLifecycleSimulation.recordOf entry.playerId).score, ?_, hId, ?_, ?_, ?_⟩
  · apply (mem_buildScoreboard hAfter.keyed hAfter.enrolled).mpr
    change v.matchLifecycleSimulation.playersById.find
        (v.matchLifecycleSimulation.recordOf entry.playerId).playerId ≠ none ∧
      _ = (v.matchLifecycleSimulation.recordOf
        (v.matchLifecycleSimulation.recordOf entry.playerId).playerId).score
    rw [hId]
    exact ⟨h.known _ hKnown, rfl⟩
  · exact (congrArg Tally.kills hTally).trans (congrArg MatchScoreEntry.kills hScore).symm
  · exact (congrArg Tally.deaths hTally).trans (congrArg MatchScoreEntry.deaths hScore).symm
  · have hCoin : entry.coins = t.inventoryLootSimulation.valueHeld entry.playerId := by
      rw [← hCoins]
      exact congrArg MatchScoreEntry.coins hScore
    change (v.matchLifecycleSimulation.recordOf entry.playerId).coins = _ ∨ _ ∧
      (v.matchLifecycleSimulation.recordOf entry.playerId).coins = 0
    rw [hAfter.coins, hCoin]
    exact h.held entry.playerId

/-- The board lists everybody who has a record. -/
theorem Booked.not_recorded_of_unlisted (h : s.Booked) {playerId : Nat}
    (hNew : ¬ Lists s.matchLifecycleSimulation.buildScoreboard playerId) :
    s.matchLifecycleSimulation.playersById.find playerId = none := by
  by_contra hKnown
  have hId := h.keyed playerId
  refine hNew ⟨(s.matchLifecycleSimulation.recordOf playerId).score, ?_, hId⟩
  apply (mem_buildScoreboard h.keyed h.enrolled).mpr
  change s.matchLifecycleSimulation.playersById.find
      (s.matchLifecycleSimulation.recordOf playerId).playerId ≠ none ∧
    _ = (s.matchLifecycleSimulation.recordOf
      (s.matchLifecycleSimulation.recordOf playerId).playerId).score
  rw [hId]
  exact ⟨hKnown, rfl⟩

/-- Who joins the board later has no kills, no deaths and no coins. -/
theorem Settled.newcomer (h : Settled t v fell) (hBefore : t.Booked) (hAfter : v.Booked)
    {entry' : MatchScoreEntry} (hEntry : entry' ∈ v.matchLifecycleSimulation.buildScoreboard)
    (hNew : ¬ Lists t.matchLifecycleSimulation.buildScoreboard entry'.playerId) :
    entry'.kills = 0 ∧ entry'.deaths = 0 ∧ entry'.coins = 0 := by
  have hUnknown := hBefore.not_recorded_of_unlisted hNew
  have hFresh : t.matchLifecycleSimulation.recordOf entry'.playerId =
      t.matchLifecycleSimulation.newRecord entry'.playerId := by
    unfold recordOf
    rw [hUnknown]
    rfl
  have hScore := ((mem_buildScoreboard hAfter.keyed hAfter.enrolled).mp hEntry).2
  have hTally := h.tally entry'.playerId
  have hCoins := hAfter.coins entry'.playerId
  have hNothing := hBefore.coins entry'.playerId
  unfold MatchLifecycleSimulation.tally at hTally
  rw [hFresh] at hTally hNothing
  refine ⟨?_, ?_, ?_⟩
  · exact (congrArg MatchScoreEntry.kills hScore).trans (congrArg Tally.kills hTally)
  · exact (congrArg MatchScoreEntry.deaths hScore).trans (congrArg Tally.deaths hTally)
  · refine (congrArg MatchScoreEntry.coins hScore).trans (hCoins.trans ?_)
    rcases h.held entry'.playerId with hSame | ⟨-, hZero⟩
    · rw [hSame, ← hNothing]
      rfl
    · exact hZero

/-- No entry has negative coins. -/
theorem Booked.coins_nonneg (h : s.Booked) {entry : MatchScoreEntry}
    (hEntry : entry ∈ s.matchLifecycleSimulation.buildScoreboard) : 0 ≤ entry.coins := by
  have hScore := ((mem_buildScoreboard h.keyed h.enrolled).mp hEntry).2
  have hCoins : entry.coins = _ := congrArg MatchScoreEntry.coins hScore
  rw [hCoins]
  change 0 ≤ (s.matchLifecycleSimulation.recordOf entry.playerId).coins
  rw [h.coins]
  exact h.lawful.valueHeld_nonneg entry.playerId

end Boards

/-- An entry that keeps its coins stays ahead of one that may lose them. -/
theorem KeptScore.outranks {fell : Prop} {a b b' : MatchScoreEntry} (h : KeptScore fell b b')
    (hCoins : 0 ≤ b.coins) (hAhead : Outranks a b) : Outranks a b' := by
  obtain ⟨hId, hKills, hDeaths, hSame | ⟨-, hZero⟩⟩ := h
  · unfold Outranks at hAhead ⊢
    omega
  · unfold Outranks at hAhead ⊢
    omega

/-- The best entry stays ahead of its board while its player lives. -/
theorem Settled.leads {fell : Nat → Prop} (h : Settled t v fell) (hBefore : t.Booked)
    (hAfter : v.Booked) {best : MatchScoreEntry}
    (hBest : best ∈ t.matchLifecycleSimulation.buildScoreboard)
    (hAhead : ∀ other ∈ t.matchLifecycleSimulation.buildScoreboard, other ≠ best →
      Outranks best other) (hStands : ¬ fell best.playerId) :
    ∃ entry ∈ v.matchLifecycleSimulation.buildScoreboard,
      KeptScore False best entry ∧
      ∀ other ∈ v.matchLifecycleSimulation.buildScoreboard, other ≠ entry →
        Lists t.matchLifecycleSimulation.buildScoreboard other.playerId → Outranks entry other := by
  obtain ⟨entry, hEntry, hKept⟩ := h.kept hBefore hAfter hBest
  have hCoins : entry.coins = best.coins := hKept.coins.resolve_right fun hFell => hStands hFell.1
  have hIds := hAfter.keyed.ranking.ids
  refine ⟨entry, hEntry, ⟨hKept.playerId, hKept.kills, hKept.deaths, Or.inl hCoins⟩,
    fun other hOther hNe hListed => ?_⟩
  have hApart : ∀ other' ∈ v.matchLifecycleSimulation.buildScoreboard,
      other'.playerId = other.playerId → other' = other :=
    fun other' hOther' hSame => List.inj_on_of_nodup_map hIds hOther' hOther hSame
  obtain ⟨earlier, hEarlier, hId⟩ := hListed
  obtain ⟨other', hOther', hKept'⟩ := h.kept hBefore hAfter hEarlier
  obtain rfl := hApart other' hOther' (hKept'.playerId.trans hId)
  have hOld : earlier ≠ best := by
    rintro rfl
    exact hNe (hApart entry hEntry (hKept.playerId.trans hId)).symm
  have hBeats := hKept'.outranks (hBefore.coins_nonneg hEarlier) (hAhead earlier hEarlier hOld)
  unfold Outranks at hBeats ⊢
  rw [hKept.kills, hKept.deaths, hKept.playerId, hCoins]
  exact hBeats

/-- The kills account for the deaths: where the best entry has no kills, nobody has died. -/
theorem deaths_of_best {deaths : Nat} (hBooked : t.Booked)
    (hCredited : t.matchLifecycleSimulation.Credited deaths) {best : MatchScoreEntry}
    (hBest : best ∈ t.matchLifecycleSimulation.buildScoreboard)
    (hAhead : ∀ other ∈ t.matchLifecycleSimulation.buildScoreboard, other ≠ best →
      Outranks best other) (hNone : best.kills = 0) : best.deaths = 0 := by
  obtain ⟨-, hScore⟩ := (mem_buildScoreboard hBooked.keyed hBooked.enrolled).mp hBest
  have hDeaths : best.deaths = (t.matchLifecycleSimulation.tally best.playerId).deaths :=
    congrArg MatchScoreEntry.deaths hScore
  by_contra hDied
  obtain ⟨killer, hKiller⟩ := hCredited.credit best.playerId
    (hDeaths ▸ Nat.pos_of_ne_zero hDied)
  by_cases hListed : Lists t.matchLifecycleSimulation.buildScoreboard killer
  · obtain ⟨entry, hEntry, rfl⟩ := hListed
    have hTheirs := ((mem_buildScoreboard hBooked.keyed hBooked.enrolled).mp hEntry).2
    have hKills : entry.kills = (t.matchLifecycleSimulation.tally entry.playerId).kills :=
      congrArg MatchScoreEntry.kills hTheirs
    by_cases hSame : entry = best
    · rw [hSame] at hKills hKiller
      omega
    · have hBeats := hAhead entry hEntry hSame
      unfold Outranks at hBeats
      omega
  · unfold MatchLifecycleSimulation.tally recordOf at hKiller
    rw [hBooked.not_recorded_of_unlisted hListed] at hKiller
    exact absurd hKiller (Nat.lt_irrefl 0)

/-- A newcomer is given a larger id than everybody on the roll. -/
theorem RollCall.follows (hRoll : t.RollCall) (hLater : v.RollCall) (hBefore : t.Booked)
    (hAfter : v.Booked) {best entry : MatchScoreEntry}
    (hBest : best ∈ t.matchLifecycleSimulation.buildScoreboard)
    (hEntry : entry ∈ v.matchLifecycleSimulation.buildScoreboard)
    (hNew : ¬ Lists t.matchLifecycleSimulation.buildScoreboard entry.playerId) :
    best.playerId < entry.playerId := by
  have hKnown := ((mem_buildScoreboard hBefore.keyed hBefore.enrolled).mp hBest).1
  have hFirst := hLater.first entry.playerId
    ((mem_buildScoreboard hAfter.keyed hAfter.enrolled).mp hEntry).1
  by_contra hBehind
  exact hRoll.closed best.playerId entry.playerId hKnown hFirst (not_lt.mp hBehind)
    (hBefore.not_recorded_of_unlisted hNew)

/-- The entry that is ahead of all others comes first. -/
theorem head_of_best {board : List MatchScoreEntry} {m : MatchLifecycleSimulation}
    (h : Ranking m board) {entry : MatchScoreEntry} (hEntry : entry ∈ board)
    (hBest : ∀ other ∈ board, other ≠ entry → Outranks entry other) :
    board.head? = some entry := by
  have hOrdered := h.ordered
  cases board with
  | nil => cases hEntry
  | cons first rest =>
      rw [List.pairwise_cons] at hOrdered
      rcases List.mem_cons.mp hEntry with rfl | hRest
      · rfl
      · by_contra hNe
        have hFirst : first ≠ entry := fun hSame => hNe (congrArg some hSame)
        exact not_outranks (hOrdered.1 entry hRest) (hBest first List.mem_cons_self hFirst)

/-- The player dies in a tick of the trace. -/
def FallsIn (trace : List (LoopEvent F)) (playerId : Nat) : Prop :=
  ∃ record, LoopEvent.ticked record ∈ trace ∧ Died record.combat.deathEvents playerId

/-- A player that falls in a deed of a run falls in a tick of it. -/
theorem fallsIn_of_deeds {trace : List (LoopEvent F)} {playerId : Nat}
    (h : FellIn (trace.flatMap deedsOf) playerId) : FallsIn trace playerId := by
  obtain ⟨record, hMem, hDied⟩ := h
  obtain ⟨event, hEvent, hIts⟩ := List.mem_flatMap.mp hMem
  exact ⟨record, ticked_mem_deedsOf hIts ▸ hEvent, hDied⟩

/-- What a tick tells about the match is read from the match that it leaves. -/
theorem told_of_ticked {frame : TickFrame F} (hTicked : s.Ticked frame t) :
    (s.runFrame frame).1.lifecycle.scoreboard = t.matchLifecycleSimulation.buildScoreboard ∧
      (s.runFrame frame).1.lifecycle.state.phase = t.matchLifecycleSimulation.phase ∧
      (s.runFrame frame).1.lifecycle.state.winnerPlayerId =
        t.matchLifecycleSimulation.winnerPlayerId := by
  have hState := s.matchLifecycleSimulation.state_tickWith (s.matchCall frame)
  rw [lifecycle_runFrame, hTicked.matchLifecycleSimulation, playedIn_eq, scoreboard_tickWith, hState]
  generalize (s.matchLifecycleSimulation.tickWith (s.matchCall frame)).2 = left
  exact ⟨rfl, rfl, rfl⟩

/-- The next tick finds the clock run out, with more or fewer than one contender. -/
def ClockEnds (s : MainLoop F) : Prop :=
  ∃ frame rest, s.tickFrames = frame :: rest ∧
    s.matchLifecycleSimulation.EndsByTimer (s.matchCall frame)

/-- The winner by the clock is ahead of everybody on the board of that tick. -/
theorem ClockEnds.winner (h : s.ClockEnds) (hBooked : t.Booked) {record : ServerTick F}
    (hStep : LoopStep s (.ticked record) t) {winner : Nat}
    (hWinner : record.lifecycle.state.winnerPlayerId = some winner) :
    ∃ entry ∈ t.matchLifecycleSimulation.buildScoreboard, entry.playerId = winner ∧
      ∀ other ∈ t.matchLifecycleSimulation.buildScoreboard, other ≠ entry →
        Outranks entry other := by
  obtain ⟨frame, rest, hFrames, hEnds⟩ := h
  obtain ⟨frame', rest', hFrames', rfl, hTicked⟩ := ticked_of_step hStep
  rw [hFrames'] at hFrames
  injection hFrames with hFrame hRest
  subst hFrame
  obtain ⟨hBoard, -, -⟩ := told_of_ticked hTicked
  obtain ⟨-, hDeclared⟩ := hEnds.winner
  rw [lifecycle_runFrame, playedIn_eq] at hWinner hBoard
  rw [hDeclared, hBoard] at hWinner
  exact (hBooked.keyed.ranking.winner_iff winner).mp hWinner

/-- The scoreboard after the end. For every run, once a tick ends with the match over, every
later tick shows the same phase and winner, and for every player of that scoreboard the same
kills and deaths. The coins stay, or are lost with a death since. Who joins the board later has
no kills, deaths and coins. A winner by the clock that has not died since stays ahead of all
players of that scoreboard, and unless a counter of kills can have wrapped it stays the first
entry: newcomers have larger ids, and a winner without kills means that nobody died. -/
theorem final_scoreboard {setup : ServerSetup F} {before later : List (LoopEvent F)}
    {ended record : ServerTick F} (hBefore : Run LoopStep (create setup) before s)
    (hEnded : LoopStep s (.ticked ended) t) (hOver : ended.lifecycle.state.phase = .postMatch)
    (hLater : Run LoopStep t later u) (hTick : LoopStep u (.ticked record) v) :
    record.lifecycle.state.phase = .postMatch ∧
    record.lifecycle.state.winnerPlayerId = ended.lifecycle.state.winnerPlayerId ∧
    (∀ entry ∈ ended.lifecycle.scoreboard, ∃ entry' ∈ record.lifecycle.scoreboard,
      KeptScore (FallsIn (later ++ [.ticked record]) entry.playerId) entry entry') ∧
    (∀ entry' ∈ record.lifecycle.scoreboard, Lists ended.lifecycle.scoreboard entry'.playerId ∨
      entry'.kills = 0 ∧ entry'.deaths = 0 ∧ entry'.coins = 0) ∧
    (s.ClockEnds → ∀ winner, ended.lifecycle.state.winnerPlayerId = some winner →
      ¬ FallsIn (later ++ [.ticked record]) winner →
      ∃ entry ∈ record.lifecycle.scoreboard, entry.playerId = winner ∧
        (∀ other ∈ record.lifecycle.scoreboard, other ≠ entry →
          Lists ended.lifecycle.scoreboard other.playerId → Outranks entry other) ∧
        (deathsTold (before ++ [.ticked ended]) < 2 ^ 32 →
          record.lifecycle.scoreboard.head? = some entry)) := by
  have hEndRun := hBefore.snoc hEnded
  have hConsistentEnd := consistent_run hEndRun
  obtain ⟨frame, -, -, hEndRecord, hEndTicked⟩ := ticked_of_step hEnded
  obtain ⟨frame', -, -, hRecord, hTicked⟩ := ticked_of_step hTick
  have hAfter := hLater.snoc hTick
  obtain ⟨hEndBoard, hEndPhase, hEndWinner⟩ := told_of_ticked hEndTicked
  obtain ⟨hBoard, hPhase, hWinner⟩ := told_of_ticked hTicked
  rw [← hEndRecord] at hEndBoard hEndPhase hEndWinner
  rw [← hRecord] at hBoard hPhase hWinner
  have hDeeds := run_deeds hAfter (run_deeds hEndRun (SessionManager.tablesAgree_create _)).1
  have hSettled : Settled t v (FallsIn (later ++ [.ticked record])) :=
    ((settled_of_ticked hEndTicked (hEndPhase ▸ hOver)).run hDeeds.2).mono
      fun _ => fallsIn_of_deeds
  have hConsistent : v.Consistent := hDeeds.2.invariant (fun _ _ _ h hStep => h.step hStep) hConsistentEnd
  have hBookedEnd := hConsistentEnd.booked
  have hBooked := hConsistent.booked
  rw [hBoard, hEndBoard, hPhase, hWinner, hEndWinner]
  refine ⟨hSettled.phase, hSettled.winner, fun entry hEntry => hSettled.kept hBookedEnd hBooked hEntry,
    fun entry' hEntry' => ?_, fun hClock winner hDeclared hStands => ?_⟩
  · by_cases hListed : Lists t.matchLifecycleSimulation.buildScoreboard entry'.playerId
    · exact Or.inl hListed
    · exact Or.inr (hSettled.newcomer hBookedEnd hBooked hEntry' hListed)
  · obtain ⟨best, hBest, rfl, hAhead⟩ := hClock.winner hBookedEnd hEnded
      (hEndWinner.trans hDeclared)
    obtain ⟨entry, hEntry, hKept, hLeads⟩ := hSettled.leads hBookedEnd hBooked hBest hAhead hStands
    refine ⟨entry, hEntry, hKept.playerId, hLeads, fun hFits => ?_⟩
    refine head_of_best hBooked.keyed.ranking hEntry fun other hOther hNe => ?_
    by_cases hListed : Lists t.matchLifecycleSimulation.buildScoreboard other.playerId
    · exact hLeads other hOther hNe hListed
    · obtain ⟨hKills, hDeaths, hCoins⟩ := hSettled.newcomer hBookedEnd hBooked hOther hListed
      have hLess := hConsistentEnd.roll.follows hConsistent.roll hBookedEnd hBooked hBest hOther hListed
      have hNoDeaths := deaths_of_best hBookedEnd (credited_run hEndRun hFits) hBest hAhead
      have hWorth := hBooked.coins_nonneg hEntry
      rw [← hKept.kills, ← hKept.deaths] at hNoDeaths
      rw [← hKept.playerId] at hLess
      unfold Outranks
      omega

/-- A slow projectile, a gem at hand, and a clock of one second. -/
def endDuel : ServerSetup ℚ :=
  { duel with
    runtime := { tickRateHz := 1 }
    weapons := [{ id := Bytes.ofString "rocket", type := Bytes.ofString "projectile",
                  damage := 100, rangeUnits := 10, projectileSpeedUnitsPerSecond := 1 }]
    treasures := [{ id := Bytes.ofString "gem", value := 5, weight := 1 }]
    inventory := { spawnIntervalTicks := 1, worldSizeXUnits := 1, worldSizeYUnits := 1 }
    lifecycle := { preMatchTicks := 1, matchDurationSeconds := 1 } }

/-- Two players join, and the first tick is due. -/
def endDuelDue : MainLoop ℚ :=
  (((create endDuel).receive 101 (.joinRequest SessionManager.alpha) 0).2.receive 102
    (.joinRequest SessionManager.bravo) 0).2.advance 1000000000

/-- The match starts. -/
def endDuelStarted : MainLoop ℚ := endDuelDue.tickNext

/-- The first of them shoots, and the second picks up the gem. -/
def endDuelAsked : MainLoop ℚ :=
  ((endDuelStarted.receive 101 (.message (.weaponFire (some
    { attackerId := 1, shotSeq := 1, weaponId := Bytes.ofString "rocket", directionX := 1 }))) 0).2.receive
      102 (.message (.treasurePickup (some { playerId := 2, pickupSeq := 1, spawnId := 1 }))) 0).2

/-- The clock runs out with the gem collected and the projectile in flight. -/
def endDuelOver : MainLoop ℚ := (endDuelAsked.advance 2000000000).tickNext

/-- What the evaluation of the match shows of its frames. -/
theorem frames_endDuel :
    endDuelAsked.tickFrames.isEmpty = true ∧
      ((endDuelAsked.advance 2000000000).tickFrames.head?.any fun frame =>
        decide ((endDuelAsked.advance 2000000000).matchLifecycleSimulation.EndsByTimer
          ((endDuelAsked.advance 2000000000).matchCall frame))) = true ∧
      endDuelOver.tickFrames.isEmpty = true ∧
      (endDuelOver.advance 3000000000).tickFrames.isEmpty = false := by
  decide +kernel

/-- The clock ends the match in the next tick, by the test of its frame. -/
theorem clockEnds_of_head {s : MainLoop F} (h : (s.tickFrames.head?.any fun frame =>
      decide (s.matchLifecycleSimulation.EndsByTimer (s.matchCall frame))) = true) :
    s.ClockEnds := by
  obtain ⟨frame, hFrame, hEnds⟩ := (Option.any_eq_true _ _).mp h
  obtain ⟨rest, hFrames⟩ := List.head?_eq_some_iff.mp hFrame
  exact ⟨frame, rest, hFrames, of_decide_eq_true hEnds⟩

/-- The match of the two ends by its clock. -/
theorem clockEnds_endDuelAsked : (endDuelAsked.advance 2000000000).ClockEnds :=
  clockEnds_of_head frames_endDuel.2.1

/-- The tick in which the projectile arrives. -/
theorem ticked_endDuelHit : ∃ (later : List (LoopEvent ℚ)) (record : ServerTick ℚ),
    Run LoopStep endDuelOver later (endDuelOver.advance 3000000000) ∧
      LoopStep (endDuelOver.advance 3000000000) (.ticked record)
        (endDuelOver.advance 3000000000).tickNext := by
  obtain ⟨-, -, hIdle, hDue⟩ := frames_endDuel
  obtain ⟨record, hTick⟩ := step_tickNext hDue
  exact ⟨_, record,
    Run.single (LoopStep.advance endDuelOver 3000000000 (List.isEmpty_iff.mp hIdle)), hTick⟩

/-! The same match without the shot, and with a third player that joins after the end. -/

/-- The state is reached without a death. -/
def PeaceIn (setup : ServerSetup F) (s : MainLoop F) : Prop :=
  ∃ trace, Run LoopStep (create setup) trace s ∧ deathsTold trace = 0

/-- Peace lasts over a step without deaths. -/
theorem PeaceIn.snoc {setup : ServerSetup F} (h : PeaceIn setup s) {event : LoopEvent F}
    (hStep : LoopStep s event t) (hQuiet : deathsTold [event] = 0) : PeaceIn setup t := by
  obtain ⟨trace, run, hTold⟩ := h
  refine ⟨trace ++ [event], run.snoc hStep, ?_⟩
  rw [deathsTold_snoc, hTold, hQuiet]

/-- A tick in which nobody dies. -/
theorem step_quiet (h : (s.tickFrames.head?.any fun frame =>
      (s.runFrame frame).1.combat.deathEvents.isEmpty) = true) :
    ∃ record, LoopStep s (.ticked record) s.tickNext ∧ record.combat.deathEvents = [] := by
  obtain ⟨record, hStep, hNone⟩ := exists_tickNext (p := fun record =>
    record.combat.deathEvents.isEmpty) h
  exact ⟨record, hStep, List.isEmpty_iff.mp hNone⟩

/-- The second player picks up the gem. -/
def gemDuelAsked : MainLoop ℚ :=
  (endDuelStarted.receive 102 (.message (.treasurePickup (some
    { playerId := 2, pickupSeq := 1, spawnId := 1 }))) 0).2

/-- The clock runs out. -/
def gemDuelOver : MainLoop ℚ := (gemDuelAsked.advance 2000000000).tickNext

/-- A third player joins, and the next tick is due. -/
def gemDuelJoined : MainLoop ℚ :=
  (gemDuelOver.receive 103 (.joinRequest [0x63]) 0).2.advance 3000000000

/-- What the evaluation of this match shows of its frames. -/
theorem frames_gemDuel :
    (endDuelDue.tickFrames.head?.any fun frame =>
        (endDuelDue.runFrame frame).1.combat.deathEvents.isEmpty) = true ∧
      endDuelStarted.tickFrames.isEmpty = true ∧ gemDuelAsked.tickFrames.isEmpty = true ∧
      ((gemDuelAsked.advance 2000000000).tickFrames.head?.any fun frame =>
        decide ((gemDuelAsked.advance 2000000000).matchLifecycleSimulation.EndsByTimer
          ((gemDuelAsked.advance 2000000000).matchCall frame))) = true ∧
      ((gemDuelAsked.advance 2000000000).tickFrames.head?.any fun frame =>
        ((gemDuelAsked.advance 2000000000).runFrame frame).1.combat.deathEvents.isEmpty) = true ∧
      gemDuelOver.tickFrames.isEmpty = true ∧
      (gemDuelJoined.tickFrames.head?.any fun frame =>
        (gemDuelJoined.runFrame frame).1.combat.deathEvents.isEmpty) = true := by
  decide +kernel

/-- Nobody has died when the match starts. -/
theorem peace_endDuelStarted : PeaceIn endDuel endDuelStarted := by
  have hAlpha : PeaceIn endDuel _ := PeaceIn.snoc ⟨[], .nil (create endDuel), rfl⟩
    (LoopStep.receive _ 101 (.joinRequest SessionManager.alpha) 0 rfl (by decide)) rfl
  have hBravo := hAlpha.snoc
    (LoopStep.receive _ 102 (.joinRequest SessionManager.bravo) 0 rfl (by decide)) rfl
  have hDue : PeaceIn endDuel endDuelDue := hBravo.snoc (LoopStep.advance _ 1000000000 rfl) rfl
  obtain ⟨first, hFirst, hNone⟩ := step_quiet frames_gemDuel.1
  exact hDue.snoc hFirst (by rw [deathsTold_ticked, hNone]; rfl)

/-- Nor when the gem is asked for. -/
theorem peace_gemDuelAsked : PeaceIn endDuel gemDuelAsked :=
  peace_endDuelStarted.snoc (.receive endDuelStarted 102 (.message (.treasurePickup (some
    { playerId := 2, pickupSeq := 1, spawnId := 1 }))) 0
    (List.isEmpty_iff.mp frames_gemDuel.2.1) (by decide)) rfl

/-- The match ends by its clock here as well. -/
theorem clockEnds_gemDuelAsked : (gemDuelAsked.advance 2000000000).ClockEnds :=
  clockEnds_of_head frames_gemDuel.2.2.2.1

/-- The tick in which the match with the shot ends. -/
theorem ticked_endDuelOver : ∃ (before : List (LoopEvent ℚ)) (ended : ServerTick ℚ),
    Run LoopStep (create endDuel) before (endDuelAsked.advance 2000000000) ∧
      LoopStep (endDuelAsked.advance 2000000000) (.ticked ended) endDuelOver := by
  obtain ⟨start, hStarted, -⟩ := peace_endDuelStarted
  obtain ⟨hIdle, -⟩ := frames_endDuel
  have hFree : endDuelStarted.tickFrames = [] := List.isEmpty_iff.mp frames_gemDuel.2.1
  have hShot := hStarted.snoc (.receive endDuelStarted 101 (.message (.weaponFire (some
    { attackerId := 1, shotSeq := 1, weaponId := Bytes.ofString "rocket", directionX := 1 }))) 0
    hFree (by decide))
  have hPickup := hShot.snoc (.receive _ 102 (.message (.treasurePickup (some
    { playerId := 2, pickupSeq := 1, spawnId := 1 }))) 0
    ((tickFrames_receive ..).trans hFree) (by decide))
  obtain ⟨frame, rest, hFrames, -⟩ := clockEnds_endDuelAsked
  obtain ⟨ended, hEnded⟩ := step_tickNext (s := endDuelAsked.advance 2000000000)
    (by rw [hFrames]; rfl)
  exact ⟨_, ended,
    hPickup.snoc (.advance endDuelAsked 2000000000 (List.isEmpty_iff.mp hIdle)), hEnded⟩

/-- The winner by the clock is still the first of three when a newcomer is on the board. -/
theorem final_scoreboard_gemDuel :
    ∃ (ended record : ServerTick ℚ) (entry : MatchScoreEntry),
      ended.lifecycle.state.winnerPlayerId = some 2 ∧
      record.lifecycle.state.winnerPlayerId = some 2 ∧
      record.lifecycle.scoreboard.head? = some entry ∧ entry.playerId = 2 ∧
      record.lifecycle.scoreboard.length = 3 := by
  obtain ⟨before, hBefore, hPeace⟩ := peace_gemDuelAsked
  obtain ⟨-, -, hIdle, -, hQuiet, hRest, hQuietToo⟩ := frames_gemDuel
  have hDue := hBefore.snoc (.advance gemDuelAsked 2000000000 (List.isEmpty_iff.mp hIdle))
  obtain ⟨ended, hEnded, hNone⟩ := step_quiet hQuiet
  have hJoined := (Run.nil gemDuelOver).snoc
    (LoopStep.receive gemDuelOver 103 (.joinRequest [0x63]) 0 (List.isEmpty_iff.mp hRest)
      (by decide))
  have hLater := hJoined.snoc (LoopStep.advance _ 3000000000
    ((tickFrames_receive ..).trans (List.isEmpty_iff.mp hRest)))
  obtain ⟨record, hTick, hLast⟩ := step_quiet hQuietToo
  obtain ⟨frame, -, -, hEndRecord, hEndTicked⟩ := ticked_of_step hEnded
  obtain ⟨frame', -, -, hRecord, hTicked⟩ := ticked_of_step hTick
  obtain ⟨-, hEndPhase, hEndWinner⟩ := told_of_ticked hEndTicked
  obtain ⟨hBoard, -, -⟩ := told_of_ticked hTicked
  rw [← hEndRecord] at hEndPhase hEndWinner
  rw [← hRecord] at hBoard
  have hOver : ended.lifecycle.state.phase = .postMatch := by
    rw [hEndPhase]
    decide +kernel
  have hWinner : ended.lifecycle.state.winnerPlayerId = some 2 := by
    rw [hEndWinner]
    decide +kernel
  obtain ⟨-, hSame, -, -, hStays⟩ := final_scoreboard hDue hEnded hOver hLater hTick
  obtain ⟨entry, -, hId, -, hHead⟩ := hStays clockEnds_gemDuelAsked 2 hWinner (by
    rintro ⟨other, hMem, hDied⟩
    simp only [List.nil_append, List.cons_append, List.mem_cons, reduceCtorEq, false_or,
      List.not_mem_nil, or_false, LoopEvent.ticked.injEq] at hMem
    rw [hMem, hLast] at hDied
    obtain ⟨death, hDeath, -⟩ := hDied
    cases hDeath)
  refine ⟨ended, record, entry, hWinner, hSame.trans hWinner, hHead ?_, hId, ?_⟩
  · rw [deathsTold_snoc, deathsTold_snoc, hPeace, deathsTold_ticked, hNone]
    decide
  · rw [hBoard]
    decide +kernel

/-- The projectile kills the winner after the end: its coins are gone, and the other player is
the first entry. -/
theorem final_scores_change :
    ∃ (before later : List (LoopEvent ℚ)) (s t u v : MainLoop ℚ) (ended record : ServerTick ℚ),
      Run LoopStep (create endDuel) before s ∧ LoopStep s (.ticked ended) t ∧
      ended.lifecycle.state.phase = .postMatch ∧ Run LoopStep t later u ∧
      LoopStep u (.ticked record) v ∧
      (∃ entry ∈ ended.lifecycle.scoreboard, ∀ entry' ∈ record.lifecycle.scoreboard,
        entry'.playerId = entry.playerId → entry'.coins ≠ entry.coins) ∧
      s.ClockEnds ∧ ended.lifecycle.state.winnerPlayerId = some 2 ∧
      record.lifecycle.scoreboard.head?.map MatchScoreEntry.playerId = some 1 := by
  obtain ⟨before, ended, hBefore, hEnded⟩ := ticked_endDuelOver
  obtain ⟨later, record, hLater, hTick⟩ := ticked_endDuelHit
  obtain ⟨frame, -, -, hEndRecord, hEndTicked⟩ := ticked_of_step hEnded
  obtain ⟨frame', -, -, hRecord, hTicked⟩ := ticked_of_step hTick
  obtain ⟨hEndBoard, hEndPhase, hEndWinner⟩ := told_of_ticked hEndTicked
  obtain ⟨hBoard, -, -⟩ := told_of_ticked hTicked
  rw [← hEndRecord] at hEndBoard hEndPhase hEndWinner
  rw [← hRecord] at hBoard
  refine ⟨_, _, _, _, _, _, ended, record, hBefore, hEnded, ?_, hLater, hTick, ?_,
    clockEnds_endDuelAsked, ?_, ?_⟩
  · rw [hEndPhase]
    decide +kernel
  · rw [hEndBoard, hBoard]
    decide +kernel
  · rw [hEndWinner]
    decide +kernel
  · rw [hBoard]
    decide +kernel

end MainLoop

end DevyFps.Server
