import DevyFps.Foundations.OrderedQueues
import DevyFps.Foundations.RunningBest
import DevyFps.Server.CombatRuns
import Mathlib.Data.Finset.Max
import Mathlib.Data.Prod.Lex
import Mathlib.Data.Real.Basic

/-! Which of the players on a ray is hit, and when the order in which the player table is
scanned decides it. -/

namespace DevyFps.Server

open Foundations FloatFormat

/-- Distances that are compared and subtracted as exact numbers, with the tolerance below
which the loop takes two of them for equal. -/
structure ExactDistances (F : Type) [SingleFloat F] where
  value : F → ℝ
  tie : ℝ
  tie_nonneg : 0 ≤ tie
  lt_iff : ∀ x y, isFinite x = true → isFinite y = true → (lt x y = true ↔ value x < value y)
  near_iff : ∀ x y, isFinite x = true → isFinite y = true →
    (le (FloatFormat.abs (x - y)) (ofRat 0.000001) = true ↔ |value x - value y| ≤ tie)

/-- Rational arithmetic is exact, with the tolerance of the source. -/
noncomputable def rationalDistances : ExactDistances ℚ where
  value q := q
  tie := ((0.000001 : ℚ) : ℝ)
  tie_nonneg := by
    rw [Rat.cast_nonneg]
    norm_num
  lt_iff x y _ _ := by
    rw [Rat.cast_lt]
    exact decide_eq_true_iff
  near_iff x y _ _ := by
    change decide ((if x - y < 0 then -(x - y) else x - y) ≤ 0.000001) = true ↔ _
    have hAbs : (if x - y < 0 then -(x - y) else x - y) = |x - y| := by
      split
      · exact (abs_of_neg (by assumption)).symm
      · exact (abs_of_nonneg (not_lt.mp (by assumption))).symm
    rw [hAbs, decide_eq_true_iff, ← Rat.cast_sub, ← Rat.cast_abs, Rat.cast_le]

namespace CombatSimulation

variable {F : Type} [SingleFloat F]

/-- Whether a hit replaces another one as the best so far. -/
def beatsHit (hit best : RaycastHit F) : Bool :=
  betterHit (some best) hit.victimId hit.distanceAlongRay

/-- The hits that a shot may choose from, in the order of iteration. -/
def rayCandidates (s : CombatSimulation F) (fire : QueuedFire F) : List (RaycastHit F) :=
  match fire.weapon with
  | none => []
  | some weapon =>
      let command := fire.command
      let dirLengthSq :=
        command.directionX * command.directionX + command.directionY * command.directionY
      if !isFinite dirLengthSq || lt dirLengthSq kDirectionEpsilon then []
      else
        let dirLength := sqrt dirLengthSq
        s.playersById.items.filterMap fun item =>
          (s.rayDistance command (command.directionX / dirLength) (command.directionY / dirLength)
            weapon.rangeUnits item.1 item.2).map fun alongRay => ⟨item.1, alongRay⟩

/-- The loop over the players keeps the best hit so far. -/
theorem raycastVictim_eq (s : CombatSimulation F) (fire : QueuedFire F) :
    s.raycastVictim fire = runningBest beatsHit (s.rayCandidates fire) := by
  unfold raycastVictim rayCandidates
  cases fire.weapon with
  | none => rfl
  | some weapon =>
      dsimp only
      split
      · rfl
      · unfold runningBest
        rw [List.foldl_filterMap]
        congr 1
        funext best item
        cases s.rayDistance fire.command _ _ weapon.rangeUnits item.1 item.2 with
        | none => rfl
        | some alongRay =>
            cases best with
            | none => rfl
            | some best => rfl

/-- A candidate is the player of that id at its distance along the ray. -/
theorem candidate_spec {s : CombatSimulation F} {fire : QueuedFire F} {hit : RaycastHit F}
    (h : hit ∈ s.rayCandidates fire) :
    isFinite hit.distanceAlongRay = true ∧
      ∀ other ∈ s.rayCandidates fire, other.victimId = hit.victimId → other = hit := by
  unfold rayCandidates at h ⊢
  cases hWeapon : fire.weapon with
  | none =>
      rw [hWeapon] at h
      cases h
  | some weapon =>
      rw [hWeapon] at h
      dsimp only at h ⊢
      split at h
      · cases h
      · rename_i hDirection
        rw [if_neg hDirection]
        obtain ⟨item, hItem, hHit⟩ := List.mem_filterMap.mp h
        obtain ⟨alongRay, hRay, rfl⟩ := Option.map_eq_some_iff.mp hHit
        constructor
        · unfold rayDistance at hRay
          split at hRay
          · cases hRay
          · cases hPosition : s.positionsByPlayer.find item.1 with
            | none =>
                rw [hPosition] at hRay
                cases hRay
            | some position =>
                rw [hPosition] at hRay
                dsimp only at hRay
                split at hRay
                · cases hRay
                · rename_i hAlong
                  split at hRay
                  · cases hRay
                  · injection hRay with hRay
                    rw [← hRay]
                    rw [Bool.or_eq_true, Bool.or_eq_true, not_or, not_or, Bool.not_eq_true',
                      Bool.not_eq_false] at hAlong
                    exact hAlong.1.1
        · intro other hOther hSame
          obtain ⟨item', hItem', hHit'⟩ := List.mem_filterMap.mp hOther
          obtain ⟨alongRay', hRay', rfl⟩ := Option.map_eq_some_iff.mp hHit'
          have hFind := UnorderedMap.mem_items_iff.mp hItem
          have hFind' := UnorderedMap.mem_items_iff.mp hItem'
          dsimp only at hSame
          rw [hSame, hFind] at hFind'
          injection hFind' with hState
          rw [hSame, ← hState, hRay] at hRay'
          injection hRay' with hRay'
          rw [hSame, hRay']

/-- The nearest candidate, with the smallest id of those as near, has a smaller id than every
other candidate that is at most the tolerance behind it. -/
def ClearTarget (exact : ExactDistances F) (s : CombatSimulation F) (fire : QueuedFire F) : Prop :=
  ∀ nearest ∈ s.rayCandidates fire,
    (∀ other ∈ s.rayCandidates fire,
      exact.value nearest.distanceAlongRay < exact.value other.distanceAlongRay ∨
        exact.value nearest.distanceAlongRay = exact.value other.distanceAlongRay ∧
          nearest.victimId ≤ other.victimId) →
    ∀ other ∈ s.rayCandidates fire, other.victimId < nearest.victimId →
      exact.tie < exact.value other.distanceAlongRay - exact.value nearest.distanceAlongRay

variable {exact : ExactDistances F} {s : CombatSimulation F} {fire : QueuedFire F}

/-- The comparison of two hits, on exact distances. -/
theorem beatsHit_iff (exact : ExactDistances F) {hit best : RaycastHit F}
    (hHit : isFinite hit.distanceAlongRay = true)
    (hBest : isFinite best.distanceAlongRay = true) :
    beatsHit hit best = true ↔
      exact.value hit.distanceAlongRay < exact.value best.distanceAlongRay ∨
        |exact.value hit.distanceAlongRay - exact.value best.distanceAlongRay| ≤ exact.tie ∧
          hit.victimId < best.victimId := by
  unfold beatsHit betterHit
  rw [Bool.or_eq_true, Bool.and_eq_true, exact.lt_iff _ _ hHit hBest,
    exact.near_iff _ _ hHit hBest, decide_eq_true_iff]

/-- The nearest candidate in this sense. -/
def IsNearest (exact : ExactDistances F) (candidates : List (RaycastHit F))
    (nearest : RaycastHit F) : Prop :=
  nearest ∈ candidates ∧ ∀ other ∈ candidates,
    exact.value nearest.distanceAlongRay < exact.value other.distanceAlongRay ∨
      exact.value nearest.distanceAlongRay = exact.value other.distanceAlongRay ∧
        nearest.victimId ≤ other.victimId

/-- Among some candidates there is a nearest one. -/
theorem exists_nearest (exact : ExactDistances F) {candidates : List (RaycastHit F)}
    (h : candidates ≠ []) : ∃ nearest, IsNearest exact candidates nearest := by
  classical
  have hSome : candidates.toFinset.Nonempty := by
    obtain ⟨first, rest, rfl⟩ := List.exists_cons_of_ne_nil h
    exact ⟨first, List.mem_toFinset.mpr List.mem_cons_self⟩
  obtain ⟨nearest, hMem, hLeast⟩ := candidates.toFinset.exists_min_image
    (fun hit => toLex (exact.value hit.distanceAlongRay, hit.victimId)) hSome
  refine ⟨nearest, List.mem_toFinset.mp hMem, fun other hOther => ?_⟩
  exact Prod.Lex.le_iff.mp (hLeast other (List.mem_toFinset.mpr hOther))

/-- The nearest candidate beats every other one. -/
theorem nearest_beats {nearest : RaycastHit F}
    (h : IsNearest exact (s.rayCandidates fire) nearest) :
    ∀ other ∈ s.rayCandidates fire, other ≠ nearest → beatsHit nearest other = true := by
  intro other hOther hNe
  obtain ⟨hFinite, -⟩ := candidate_spec h.1
  obtain ⟨hFinite', hUnique⟩ := candidate_spec hOther
  rw [beatsHit_iff exact hFinite hFinite']
  rcases h.2 other hOther with hNearer | ⟨hAsNear, hId⟩
  · exact Or.inl hNearer
  · right
    rw [hAsNear, sub_self, abs_zero]
    refine ⟨exact.tie_nonneg, lt_of_le_of_ne hId fun hSame => ?_⟩
    exact hNe (hUnique nearest h.1 hSame).symm

/-- It is unbeaten exactly if the target is clear. -/
theorem unbeaten_iff {nearest : RaycastHit F}
    (h : IsNearest exact (s.rayCandidates fire) nearest) :
    (∀ other ∈ s.rayCandidates fire, other ≠ nearest → beatsHit other nearest = false) ↔
      ∀ other ∈ s.rayCandidates fire, other.victimId < nearest.victimId →
        exact.tie < exact.value other.distanceAlongRay - exact.value nearest.distanceAlongRay := by
  obtain ⟨hFinite, -⟩ := candidate_spec h.1
  have hNotNearer : ∀ other ∈ s.rayCandidates fire,
      exact.value nearest.distanceAlongRay ≤ exact.value other.distanceAlongRay := by
    intro other hOther
    rcases h.2 other hOther with hNearer | ⟨hAsNear, -⟩
    · exact hNearer.le
    · exact hAsNear.le
  have hBeats : ∀ other ∈ s.rayCandidates fire, (beatsHit other nearest = false ↔
      (other.victimId < nearest.victimId → exact.tie <
        exact.value other.distanceAlongRay - exact.value nearest.distanceAlongRay)) := by
    intro other hOther
    obtain ⟨hFinite', -⟩ := candidate_spec hOther
    have hLe := hNotNearer other hOther
    rw [← Bool.not_eq_true, beatsHit_iff exact hFinite' hFinite,
      abs_of_nonneg (sub_nonneg.mpr hLe), not_or, not_and', not_le]
    exact and_iff_right (not_lt.mpr hLe)
  constructor
  · intro hUnbeaten other hOther hId
    have hNe : other ≠ nearest := fun hSame => absurd hId (hSame ▸ lt_irrefl _)
    exact (hBeats other hOther).mp (hUnbeaten other hOther hNe) hId
  · intro hClear other hOther _
    exact (hBeats other hOther).mpr (hClear other hOther)

/-- The candidates of a reordered player table are the same in another order. -/
theorem rayCandidates_perm (s s' : CombatSimulation F) (hConfig : s'.config = s.config)
    (hPlayers : s.playersById.SameContents s'.playersById)
    (hPositions : s.positionsByPlayer.SameContents s'.positionsByPlayer) (fire : QueuedFire F) :
    (s'.rayCandidates fire).Perm (s.rayCandidates fire) := by
  unfold rayCandidates
  cases fire.weapon with
  | none => exact List.Perm.refl _
  | some weapon =>
      dsimp only
      split
      · exact List.Perm.refl _
      · have hRay : ∀ (dirX dirY : F) (id : Nat) (victim : PlayerCombatState),
            s'.rayDistance fire.command dirX dirY weapon.rangeUnits id victim =
              s.rayDistance fire.command dirX dirY weapon.rangeUnits id victim := by
          intro dirX dirY id victim
          unfold rayDistance
          rw [hPositions id, hConfig]
        simp only [hRay]
        exact hPlayers.symm.items_perm.filterMap _

/-- Every order of the candidates is that of some reordered player table. -/
theorem exists_rayCandidates {order : List (RaycastHit F)}
    (h : order.Perm (s.rayCandidates fire)) :
    ∃ players, s.playersById.SameContents players ∧
      ({ s with playersById := players } : CombatSimulation F).rayCandidates fire = order := by
  unfold rayCandidates at h ⊢
  cases hWeapon : fire.weapon with
  | none =>
      rw [hWeapon] at h
      exact ⟨s.playersById, .refl _, h.eq_nil.symm⟩
  | some weapon =>
      rw [hWeapon] at h
      dsimp only at h ⊢
      split at h
      · rename_i hDirection
        refine ⟨s.playersById, .refl _, ?_⟩
        rw [if_pos hDirection, h.eq_nil]
      · rename_i hDirection
        obtain ⟨items, hItems, hOrder⟩ := exists_perm_filterMap h
        obtain ⟨players, hPlayers, hSame⟩ := UnorderedMap.exists_of_items_perm hItems
        refine ⟨players, hSame, ?_⟩
        rw [if_neg hDirection, hPlayers]
        exact hOrder

/-- In every order of iteration the same player is hit. -/
def SameTarget (s : CombatSimulation F) (fire : QueuedFire F) : Prop :=
  ∀ players, s.playersById.SameContents players →
    (({ s with playersById := players } : CombatSimulation F).raycastVictim fire).map
        RaycastHit.victimId =
      (s.raycastVictim fire).map RaycastHit.victimId

/-- The target does not depend on the order exactly if the hit does not. -/
theorem sameTarget_iff : SameTarget s fire ↔ ∀ order : List (RaycastHit F),
    order.Perm (s.rayCandidates fire) →
      runningBest beatsHit order = runningBest beatsHit (s.rayCandidates fire) := by
  constructor
  · intro hSame order hOrder
    obtain ⟨players, hPlayers, hCandidates⟩ := exists_rayCandidates hOrder
    have hTarget := hSame players hPlayers
    rw [raycastVictim_eq, raycastVictim_eq, hCandidates] at hTarget
    cases hBest : runningBest beatsHit (s.rayCandidates fire) with
    | none =>
        rw [hBest, Option.map_none, Option.map_eq_none_iff] at hTarget
        exact hTarget
    | some best =>
        rw [hBest, Option.map_some] at hTarget
        obtain ⟨other, hOther, hId⟩ := Option.map_eq_some_iff.mp hTarget
        have hMem := hOrder.mem_iff.mp (mem_of_runningBest hOther)
        obtain ⟨-, hUnique⟩ := candidate_spec (mem_of_runningBest hBest)
        rw [hOther, hUnique other hMem hId]
  · intro hSame players hPlayers
    have hPerm := s.rayCandidates_perm { s with playersById := players } rfl hPlayers (.refl _) fire
    rw [raycastVictim_eq, raycastVictim_eq, hSame _ hPerm]

/-- The victim does not depend on the order exactly if one candidate beats all others. -/
theorem sameTarget_iff_clearTarget (exact : ExactDistances F) (s : CombatSimulation F)
    (fire : QueuedFire F) : SameTarget s fire ↔ ClearTarget exact s fire := by
  rw [sameTarget_iff]
  constructor
  · intro hSame nearest hMem hLeast
    have hNearest : IsNearest exact (s.rayCandidates fire) nearest := ⟨hMem, hLeast⟩
    exact (unbeaten_iff hNearest).mp
      ((runningBest_perm_iff hMem (nearest_beats hNearest)).mp hSame)
  · intro hClear
    by_cases hNone : s.rayCandidates fire = []
    · intro order hOrder
      rw [hNone] at hOrder
      rw [hNone, hOrder.eq_nil]
    · obtain ⟨nearest, hNearest⟩ := exists_nearest exact hNone
      exact (runningBest_perm_iff hNearest.1 (nearest_beats hNearest)).mpr
        ((unbeaten_iff hNearest).mpr (hClear nearest hNearest.1 hNearest.2))

/-! A whole tick. -/

/-- Two states that differ in the order of iteration of their tables only. -/
structure SameTables (s s' : CombatSimulation F) : Prop where
  config : s'.config = s.config
  weapons : s.weaponsById.SameContents s'.weaponsById
  players : s.playersById.SameContents s'.playersById
  positions : s.positionsByPlayer.SameContents s'.positionsByPlayer
  queues : s.fireQueueByPlayer.SameContents s'.fireQueueByPlayer
  shots : s.lastShotSeqByPlayer.SameContents s'.lastShotSeqByPlayer
  cooldowns : s.nextFireTickByPlayer.SameContents s'.nextFireTickByPlayer
  pending : s'.pendingProjectiles = s.pendingProjectiles

/-- The same results, and states that differ in the order of iteration only. -/
def SameOutcome (a a' : CombatTickResult × CombatSimulation F) : Prop :=
  a'.1 = a.1 ∧ SameTables a.2 a'.2

/-- Damage does not depend on the order of the tables. -/
theorem SameTables.applyDamage {s s' : CombatSimulation F} (h : SameTables s s') (tick : Nat)
    (hit : PendingProjectileHit) (out : CombatTickResult) :
    SameOutcome (s.applyDamage tick hit out) (s'.applyDamage tick hit out) := by
  have hDamage : s'.damageOf tick hit = s.damageOf tick hit := by
    unfold damageOf
    rw [h.players hit.victimId]
  rw [applyDamage_eq, applyDamage_eq, hDamage]
  refine ⟨rfl, ?_⟩
  cases s.damageOf tick hit with
  | none => exact h
  | some event => exact { h with players := h.players.modify _ _ }

/-- A loop keeps two outcomes the same if each of its rounds does; by induction on the list. -/
theorem SameOutcome.foldl {α : Type}
    {f : CombatTickResult × CombatSimulation F → α → CombatTickResult × CombatSimulation F}
    {l : List α} {a a' : CombatTickResult × CombatSimulation F} (h : SameOutcome a a')
    (hStep : ∀ before item after, l = before ++ item :: after →
      ∀ b', SameOutcome (before.foldl f a) b' →
        SameOutcome (f (before.foldl f a) item) (f b' item)) :
    SameOutcome (l.foldl f a) (l.foldl f a') := by
  induction l using List.reverseRecOn with
  | nil => exact h
  | append_singleton rest last ih =>
      rw [List.foldl_concat, List.foldl_concat]
      apply hStep rest last [] rfl
      apply ih
      intro before item after hRest
      exact hStep before item (after ++ [last]) (by rw [hRest, List.append_assoc, List.cons_append])

/-- To record a shot does not depend on the order either. -/
theorem SameTables.recordShot {s s' : CombatSimulation F} (h : SameTables s s') (tick : Nat)
    (tickInterval : Int) (command : FireCommand F) (weapon : WeaponRuntime F) :
    SameTables (s.recordShot tick tickInterval command weapon)
      (s'.recordShot tick tickInterval command weapon) :=
  { h with
    players := h.players.modify _ _
    cooldowns := h.cooldowns.set _ _ }

/-- With a clear target the shot hits the same player in both states. -/
theorem SameTables.raycastVictim {s s' : CombatSimulation F} (h : SameTables s s')
    {fire : QueuedFire F} (hClear : ClearTarget exact s fire) :
    s'.raycastVictim fire = s.raycastVictim fire := by
  rw [raycastVictim_eq, raycastVictim_eq]
  exact sameTarget_iff.mp ((sameTarget_iff_clearTarget exact s fire).mpr hClear) _
    (s.rayCandidates_perm s' h.config h.players h.positions fire)

/-- A shot with a clear target has the same outcome in any order. -/
theorem SameTables.resolveFire {s s' : CombatSimulation F} (h : SameTables s s') (tick : Nat)
    (tickInterval : Int) (out : CombatTickResult) (fire : QueuedFire F)
    (hClear : ∀ weapon, fire.weapon = some weapon →
      ClearTarget exact (s.recordShot tick tickInterval fire.command weapon) fire) :
    SameOutcome (CombatSimulation.resolveFire tick tickInterval (out, s) fire)
      (CombatSimulation.resolveFire tick tickInterval (out, s') fire) := by
  unfold CombatSimulation.resolveFire
  dsimp only
  rw [h.players fire.command.attackerId, h.cooldowns fire.command.attackerId]
  split
  · exact ⟨rfl, h⟩
  · cases hWeapon : fire.weapon with
    | none => exact ⟨rfl, h⟩
    | some weapon =>
        dsimp only
        split
        · exact ⟨rfl, h⟩
        · have hShot := h.recordShot tick tickInterval fire.command weapon
          rw [hShot.raycastVictim (hClear weapon hWeapon)]
          cases (s.recordShot tick tickInterval fire.command weapon).raycastVictim fire with
          | none => exact ⟨rfl, hShot⟩
          | some hit =>
              dsimp only
              cases weapon.weaponClass with
              | hitscan => exact hShot.applyDamage _ _ _
              | projectile =>
                  exact ⟨rfl, { hShot with pending := congrArg (· ++ _) hShot.pending }⟩

theorem drainFireCommands_fst (s : CombatSimulation F) :
    s.drainFireCommands.1 = s.fireQueueByPlayer.drain.1.map fun fire =>
      { command := fire, weapon := s.weaponsById.find fire.weaponId } := rfl

/-- A tick lands its projectiles and then resolves the drained shots. -/
theorem resolveTick_eq (s : CombatSimulation F) (tick : Nat) (tickInterval : Int) :
    s.resolveTick tick tickInterval =
      (s.resolveProjectiles tick {}).2.drainFireCommands.1.foldl (resolveFire tick tickInterval)
        ((s.resolveProjectiles tick {}).1,
          (s.resolveProjectiles tick {}).2.drainFireCommands.2) := rfl

/-- Every shot that a tick drains has a clear target in the state in which its turn comes. -/
def ClearShots (exact : ExactDistances F) (s : CombatSimulation F) (tick : Nat)
    (tickInterval : Int) : Prop :=
  ∀ before fire after,
    (s.resolveProjectiles tick {}).2.drainFireCommands.1 = before ++ fire :: after →
    ∀ weapon, fire.weapon = some weapon →
      ClearTarget exact
        ((before.foldl (resolveFire tick tickInterval)
          ((s.resolveProjectiles tick {}).1,
            (s.resolveProjectiles tick {}).2.drainFireCommands.2)).2.recordShot tick tickInterval
              fire.command weapon) fire

/-- So has a tick all of whose shots have clear targets. -/
theorem SameTables.resolveTick {s s' : CombatSimulation F} (h : SameTables s s') {tick : Nat}
    {tickInterval : Int} (hClear : ClearShots exact s tick tickInterval) :
    (s'.resolveTick tick tickInterval).1 = (s.resolveTick tick tickInterval).1 := by
  have hLanded : SameOutcome (s.resolveProjectiles tick {}) (s'.resolveProjectiles tick {}) := by
    have hStart : SameOutcome
        (({} : CombatTickResult), { s with pendingProjectiles := s.remaining tick })
        (({} : CombatTickResult), { s' with pendingProjectiles := s.remaining tick }) :=
      ⟨rfl, { h with pending := rfl }⟩
    unfold resolveProjectiles
    rw [h.pending]
    dsimp only
    apply SameOutcome.foldl hStart
    intro before hit after _ b' hBefore
    have hStep := hBefore.2.applyDamage tick hit b'.1
    rw [hBefore.1] at hStep ⊢
    exact hStep
  have hFires : (s'.resolveProjectiles tick {}).2.drainFireCommands.1 =
      (s.resolveProjectiles tick {}).2.drainFireCommands.1 := by
    rw [drainFireCommands_fst, drainFireCommands_fst,
      CommandQueues.drain_congr hLanded.2.queues, funext hLanded.2.weapons]
  have hDrained : SameTables (s.resolveProjectiles tick {}).2.drainFireCommands.2
      (s'.resolveProjectiles tick {}).2.drainFireCommands.2 :=
    { hLanded.2 with queues := CommandQueues.drain_rest_congr hLanded.2.queues }
  have hTick : SameOutcome (s.resolveTick tick tickInterval) (s'.resolveTick tick tickInterval) := by
    have hStart : SameOutcome
        ((s.resolveProjectiles tick {}).1, (s.resolveProjectiles tick {}).2.drainFireCommands.2)
        ((s'.resolveProjectiles tick {}).1,
          (s'.resolveProjectiles tick {}).2.drainFireCommands.2) := ⟨hLanded.1, hDrained⟩
    rw [resolveTick_eq, resolveTick_eq, hFires]
    apply SameOutcome.foldl hStart
    intro before fire after hSplit b' hBefore
    have hStep := hBefore.2.resolveFire tick tickInterval b'.1 fire (hClear before fire after hSplit)
    rw [hBefore.1] at hStep
    obtain ⟨out', s₂⟩ := b'
    have hOut : out' = _ := hBefore.1
    rw [hOut]
    exact hStep
  exact hTick.1

/-- A shot along the first axis. -/
def straightShot : QueuedFire ℚ where
  command := { attackerId := 3, directionX := 1 }
  weapon := some { damage := 10, rangeUnits := 100 }

/-- Two players on the first axis, who joined in this order. -/
def pairOnAxis (first second : Nat × ℚ) : CombatSimulation ℚ :=
  ((create [] {}).setPlayerPosition first.1 first.2 0).setPlayerPosition second.1 second.2 0

/-- The order of iteration decides no target exactly where the nearest player on the ray is
clear of players with smaller ids; and where all targets of a tick are, it decides none of its
events. -/
theorem combat_deterministic_iff (exact : ExactDistances F) (s : CombatSimulation F) :
    (∀ fire, SameTarget s fire ↔ ClearTarget exact s fire) ∧
      ∀ tick tickInterval, ClearShots exact s tick tickInterval →
        ∀ s', SameTables s s' →
          (s'.resolveTick tick tickInterval).1 = (s.resolveTick tick tickInterval).1 :=
  ⟨fun fire => sameTarget_iff_clearTarget exact s fire,
    fun _ _ hClear _ hTables => hTables.resolveTick hClear⟩

/-- Player 1 stands clearly behind player 2, so that no order of iteration hides it. -/
theorem combat_deterministic_iff_apart : SameTarget (pairOnAxis (1, 20) (2, 10)) straightShot := by
  refine ((combat_deterministic_iff rationalDistances (pairOnAxis (1, 20) (2, 10))).1
    straightShot).mpr ?_
  have hCandidates : ∀ hit ∈ (pairOnAxis (1, 20) (2, 10)).rayCandidates straightShot,
      hit.victimId = 1 ∧ hit.distanceAlongRay = 20 ∨ hit.victimId = 2 ∧ hit.distanceAlongRay = 10 := by
    decide +kernel
  intro nearest hNearest _ other hOther hSmaller
  obtain ⟨hFirst, -⟩ | ⟨hSecond, hNear⟩ := hCandidates nearest hNearest
  · obtain ⟨hOne, -⟩ | ⟨hTwo, -⟩ := hCandidates other hOther <;> omega
  obtain ⟨-, hFar⟩ | ⟨hTwo, -⟩ := hCandidates other hOther
  · change ((0.000001 : ℚ) : ℝ) < (other.distanceAlongRay : ℝ) - (nearest.distanceAlongRay : ℝ)
    rw [hFar, hNear]
    norm_num
  · omega

/-- Player 1 stands the smallest single-precision step behind player 2, which is less than the
tolerance. Scanned first, it is replaced by the nearer player 2; scanned last, it replaces
player 2, since it counts as equally near and has the smaller id. -/
theorem near_tie_decided_by_order :
    ¬ ∀ (s : CombatSimulation ℚ) (fire : QueuedFire ℚ), SameTarget s fire := by
  intro hClaim
  let s := pairOnAxis (1, 10 + 1 / 1048576) (2, 10)
  let s' := pairOnAxis (2, 10) (1, 10 + 1 / 1048576)
  have hPlayers : s.playersById.SameContents s'.playersById := by
    intro id
    change (UnorderedMap.tryEmplace _ 2 _).find id = (UnorderedMap.tryEmplace _ 1 _).find id
    rw [UnorderedMap.find_tryEmplace, UnorderedMap.find_tryEmplace]
    by_cases hOne : id = 1
    · rw [hOne]
      rfl
    · rw [if_neg hOne]
      change _ = (UnorderedMap.tryEmplace _ 2 _).find id
      rw [UnorderedMap.find_tryEmplace]
      by_cases hTwo : id = 2
      · rw [if_pos hTwo, if_pos hTwo]
        rfl
      · rw [if_neg hTwo, if_neg hTwo]
        change (UnorderedMap.tryEmplace _ 1 _).find id = _
        rw [UnorderedMap.find_tryEmplace, if_neg hOne]
  have hTarget := hClaim s straightShot s'.playersById hPlayers
  have hFirst : (s.raycastVictim straightShot).map RaycastHit.victimId = some 1 := by
    decide +kernel
  have hSecond : (({ s with playersById := s'.playersById } : CombatSimulation ℚ).raycastVictim
      straightShot).map RaycastHit.victimId = some 2 := by
    decide +kernel
  rw [hFirst, hSecond] at hTarget
  exact absurd hTarget (by decide)

end CombatSimulation

end DevyFps.Server
