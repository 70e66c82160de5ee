import DevyFps.Client.ChunkSyncApplier
import DevyFps.Client.PredictionReconciler

/-! The consumers of a snapshot that look at every value before they use it. No payload makes
them fail. -/

namespace DevyFps.Client

open Foundations Net

variable {F : Type} [SingleFloat F]

/-- The readers of the client that check before they convert return on every document. -/
theorem returns_parseMoveState (player : Document F) : Returns (parseMoveState player) := by
  unfold parseMoveState
  cases hContains : player.contains "move_state" with
  | false => exact returns_pure _
  | true =>
      refine (Json.returns_index hContains).bind fun value => ?_
      cases hString : value.isString with
      | false => exact returns_pure _
      | true =>
          obtain ⟨text, rfl⟩ := Json.getString_of_isString hString
          refine (returns_ok text).bind fun moveState => ?_
          split_ifs <;> exact returns_pure _

namespace PredictionReconciler

theorem returns_readGrounded (player : Document F) : Returns (readPlayer.readGrounded player) := by
  unfold readPlayer.readGrounded
  cases hContains : player.contains "grounded" with
  | false => exact returns_pure _
  | true =>
      refine (Json.returns_index hContains).bind fun value => ?_
      cases hBoolean : value.isBoolean with
      | false => exact returns_pure _
      | true =>
          obtain ⟨flag, rfl⟩ := Json.getBool_of_isBoolean hBoolean
          exact returns_ok flag

theorem returns_jsonToFloat (value : Document F) : Returns (jsonToFloat value) :=
  ⟨_, jsonToFloat_eq value⟩

theorem returns_jsonToU32 (value : Document F) : Returns (Net.jsonToU32 value) :=
  ⟨_, jsonToU32_eq value⟩

/-- The entry of a player is read once its three fields are there. -/
theorem returns_readPlayer {player : Document F} (hPosition : player.contains "position" = true)
    (hVelocity : player.contains "velocity" = true)
    (hLast : player.contains "last_processed_input_seq" = true) (playerId : Nat) :
    Returns (readPlayer player playerId) := by
  obtain ⟨value, hValue⟩ := Option.isSome_iff_exists.mp hPosition
  have hObject : player.isObject = true := Json.isObject_of_member hValue
  have hField : ∀ field, Returns (player.valueJson field) := fun field =>
    ⟨_, Json.valueJson_of_isObject hObject field⟩
  unfold readPlayer
  refine (Json.returns_index hPosition).bind fun position => ?_
  refine (Json.returns_index hVelocity).bind fun velocity => ?_
  split
  · exact returns_pure _
  · split
    · exact returns_pure _
    · rename_i _ hAxes
      simp only [Bool.or_eq_true, Bool.not_eq_true', not_or, Bool.not_eq_false] at hAxes
      obtain ⟨⟨⟨hPositionX, hPositionY⟩, hVelocityX⟩, hVelocityY⟩ := hAxes
      refine (Json.returns_index hPositionX).bind fun x => (returns_jsonToFloat x).bind fun x => ?_
      refine (Json.returns_index hPositionY).bind fun y => (returns_jsonToFloat y).bind fun y => ?_
      refine (Json.returns_index hVelocityX).bind fun vx =>
        (returns_jsonToFloat vx).bind fun vx => ?_
      refine (Json.returns_index hVelocityY).bind fun vy =>
        (returns_jsonToFloat vy).bind fun vy => ?_
      refine (Json.returns_index hLast).bind fun last => (returns_jsonToU32 last).bind fun last => ?_
      split
      · refine (hField "speed").bind fun speed => (returns_jsonToFloat speed).bind fun speed => ?_
        refine (returns_readGrounded player).bind fun grounded => ?_
        refine (returns_parseMoveState player).bind fun moveState => ?_
        refine (hField "vertical_position").bind fun position =>
          (returns_jsonToFloat position).bind fun position => ?_
        refine (hField "vertical_velocity").bind fun velocity =>
          (returns_jsonToFloat velocity).bind fun velocity => ?_
        exact returns_pure _
      · exact returns_pure _

/-- The search for a player skips what is no entry. -/
theorem returns_findPlayer (playerId : Nat) (players : List (Document F)) :
    Returns (findPlayer playerId players) := by
  induction players with
  | nil => exact returns_ok none
  | cons player rest ih =>
      unfold findPlayer
      split
      · exact ih
      · split
        · exact ih
        · rename_i _ hFields
          simp only [Bool.or_eq_true, Bool.not_eq_true', not_or, Bool.not_eq_false] at hFields
          obtain ⟨⟨⟨hId, hPosition⟩, hVelocity⟩, hLast⟩ := hFields
          refine (Json.returns_index hId).bind fun value =>
            (returns_jsonToU32 value).bind fun parsed => ?_
          split
          · exact ih
          · exact returns_readPlayer hPosition hVelocity hLast playerId

/-- A reconciler reads every snapshot without failing. -/
theorem returns_consumeSnapshot (s : PredictionReconciler F) (payload : Document F)
    (localPlayerId : Nat) : Returns (s.consumeSnapshot payload localPlayerId) := by
  have hFound : Returns (extractPlayerState payload localPlayerId) := by
    unfold extractPlayerState
    split
    · exact returns_pure _
    · rename_i hPlayers
      simp only [Bool.or_eq_true, Bool.not_eq_true', not_or, Bool.not_eq_false] at hPlayers
      refine (Json.returns_index hPlayers.2).bind fun players => ?_
      split
      · exact returns_pure _
      · exact returns_findPlayer localPlayerId players.elements
  unfold consumeSnapshot
  refine hFound.bind fun found => ?_
  split
  · exact returns_pure _
  · exact returns_pure _

end PredictionReconciler

/-! The chunk revisions, read with every access that the source makes. -/

namespace Accessed

def parseRevision (value : Document F) : Except JsonError (Option ChunkRevision) := do
  if !value.isObject then return none
  let x ← Net.jsonToI32 (← value.valueJson "x")
  let y ← Net.jsonToI32 (← value.valueJson "y")
  let z ← Net.jsonToI32 (← value.valueJson "z")
  let revision ← Net.jsonToU32 (← value.valueJson "revision")
  let (some x, some y, some z, some revision) := (x, y, z, revision) | return none
  if x < 0 ∨ y < 0 ∨ z < 0 then return none
  return some ⟨⟨x, y, z⟩, UInt32.ofNat revision⟩

def parseArray (root : Document F) (field : String) : Except JsonError (List ChunkRevision) := do
  if !root.contains field then return []
  let values ← root.index field
  if !values.isArray then return []
  return (← values.elements.mapM parseRevision).reduceOption

def parseChunkSync (snapshotPayload : Document F) : Except JsonError (Option ChunkSyncDelta) := do
  if !snapshotPayload.isObject || !snapshotPayload.contains "chunk_sync" then return none
  let chunkSync ← snapshotPayload.index "chunk_sync"
  if !chunkSync.isObject then return none
  let added ← parseArray chunkSync "added"
  let removed ← parseArray chunkSync "removed"
  let deltas ← parseArray chunkSync "deltas"
  return some { added, removed, deltas }

theorem readI32_eq (value : Document F) : readI32 value = Client.jsonToI32 value := by
  cases value <;> rfl

theorem readU32_eq (value : Document F) :
    (readU32 value).map UInt32.ofNat = Client.jsonToU32 value := by
  cases value with
  | numberUnsigned raw =>
      change Option.map UInt32.ofNat (if raw.toNat ≤ 2 ^ 32 - 1 then some raw.toNat else none) =
        if raw ≤ 0xFFFFFFFF then some raw.toUInt32 else none
      have hFits : raw ≤ 0xFFFFFFFF ↔ raw.toNat ≤ 2 ^ 32 - 1 := UInt64.le_iff_toNat_le
      by_cases h : raw.toNat ≤ 2 ^ 32 - 1
      · rw [if_pos h, if_pos (hFits.mpr h), Option.map_some]
        congr 1
      · rw [if_neg h, if_neg (mt hFits.mp h)]
        rfl
  | numberInteger raw =>
      change Option.map UInt32.ofNat
          (if 0 ≤ raw.toInt ∧ raw.toInt ≤ 2 ^ 32 - 1 then some raw.toInt.toNat else none) =
        if 0 ≤ raw ∧ raw ≤ 0xFFFFFFFF then some raw.toUInt64.toUInt32 else none
      have hFits : (0 ≤ raw ∧ raw ≤ 0xFFFFFFFF) ↔ 0 ≤ raw.toInt ∧ raw.toInt ≤ 2 ^ 32 - 1 :=
        and_congr Int64.le_iff_toInt_le Int64.le_iff_toInt_le
      by_cases h : 0 ≤ raw.toInt ∧ raw.toInt ≤ 2 ^ 32 - 1
      · rw [if_pos h, if_pos (hFits.mpr h), Option.map_some]
        have hSame := Json.toNat_toUInt64_of_nonneg h.1
        have hNat : raw.toInt.toNat = raw.toUInt64.toNat := by omega
        rw [hNat]
        congr 1
      · rw [if_neg h, if_neg (mt hFits.mp h)]
        rfl
  | _ => rfl

theorem parseRevision_eq (value : Document F) :
    parseRevision value = .ok (Client.parseRevision value) := by
  unfold parseRevision Client.parseRevision
  cases hObject : value.isObject with
  | false => rfl
  | true =>
      simp only [Json.valueJson_of_isObject hObject, ok_bind, jsonToI32_eq, jsonToU32_eq,
        ← readI32_eq, ← readU32_eq]
      cases readI32 (value.value "x" .null) with
      | none => rfl
      | some x =>
          cases readI32 (value.value "y" .null) with
          | none => rfl
          | some y =>
              cases readI32 (value.value "z" .null) with
              | none => rfl
              | some z =>
                  cases readU32 (value.value "revision" .null) with
                  | none => rfl
                  | some revision =>
                      by_cases hSign : x < 0 ∨ y < 0 ∨ z < 0
                      · exact (if_pos hSign).trans (congrArg Except.ok (if_pos hSign).symm)
                      · exact (if_neg hSign).trans (congrArg Except.ok (if_neg hSign).symm)

/-- The reader of a list of chunks is total. -/
theorem parseArray_eq (root : Document F) (field : String) :
    parseArray root field = .ok (Client.parseArray root field) := by
  have hRevisions : ∀ values : List (Document F),
      values.mapM parseRevision = .ok (values.map Client.parseRevision) := by
    intro values
    induction values with
    | nil => rfl
    | cons head rest ih => rw [List.mapM_cons, parseRevision_eq, ok_bind, ih]; rfl
  unfold parseArray Client.parseArray Json.contains
  cases hMember : root.member field with
  | none => rfl
  | some values =>
      rw [Json.index_of_member hMember, ok_bind, hRevisions, ok_bind]
      cases values with
      | array entries =>
          have hSame : (entries.map Client.parseRevision).reduceOption =
              entries.filterMap Client.parseRevision := by
            unfold List.reduceOption
            rw [List.filterMap_map]
            rfl
          exact congrArg Except.ok hSame
      | _ => rfl

/-- No access fails, and what is read is what the replica applies. -/
theorem parseChunkSync_eq (payload : Document F) :
    parseChunkSync payload = .ok (Client.parseChunkSync payload) := by
  unfold parseChunkSync Client.parseChunkSync Json.contains
  cases hMember : payload.member "chunk_sync" with
  | none =>
      cases payload.isObject <;> rfl
  | some chunkSync =>
      rw [Json.isObject_of_member hMember, Json.index_of_member hMember]
      simp only [ok_bind, parseArray_eq]
      cases chunkSync.isObject <;> rfl

end Accessed

end DevyFps.Client
