import DevyFps.Client.GuardedConsumers
import DevyFps.Server.ServerConfigValidation

/-! The integer readers of both sides. Those that ask first whether a number is unsigned keep
every integer; those that ask first whether it is an integer let the large unsigned ones wrap
around. -/

namespace DevyFps.Replication

open Foundations Json

variable {F : Type} [SingleFloat F]

/-- What a reader of the integers from `low` to `high` should make of one. -/
def fitted (low high n : Int) : Option Int := if low ≤ n ∧ n ≤ high then some n else none

/-- The readers of unsigned types return exactly the integers of their range. -/
structure UnsignedKept (value : Net.Document F) (n : Int) : Prop where
  u8 : (Net.readU8 value).map (fun raw : UInt8 => (raw.toNat : Int)) = fitted 0 (2 ^ 8 - 1) n
  u32 : (Net.readU32 value).map Int.ofNat = fitted 0 (2 ^ 32 - 1) n
  u64 : (Net.readU64 value).map Int.ofNat = fitted 0 (2 ^ 64 - 1) n
  chunkSyncU32 :
    (Client.jsonToU32 value).map (fun raw : UInt32 => (raw.toNat : Int)) = fitted 0 (2 ^ 32 - 1) n

/-- Every reader returns exactly the integers of its range. -/
structure IntegersKept (value : Net.Document F) (n : Int) : Prop extends UnsignedKept value n where
  i32 : Net.readI32 value = fitted (-2 ^ 31) (2 ^ 31 - 1) n
  chunkSyncI32 : Client.jsonToI32 value = fitted (-2 ^ 31) (2 ^ 31 - 1) n
  i64 : Server.toI64 value = fitted (-2 ^ 63) (2 ^ 63 - 1) n

/-- A large unsigned number becomes a negative one. -/
theorem toInt_toInt64_of_le {raw : UInt64} (h : 2 ^ 63 ≤ raw.toNat) :
    raw.toInt64.toInt = raw.toNat - 2 ^ 64 := by
  change raw.toBitVec.toInt = raw.toBitVec.toNat - 2 ^ 64
  rw [BitVec.toInt_eq_toNat_cond]
  have hLarge : ¬ 2 * raw.toBitVec.toNat < 2 ^ 64 := by
    change ¬ 2 * raw.toNat < 2 ^ 64
    omega
  rw [if_neg hLarge]
  rfl

/-- The signed number that an integer is taken for. -/
theorem getInt64_of_integer {value : Net.Document F} {n : Int} (h : value.integer = some n) :
    ∃ raw : Int64, value.getInt64 = .ok raw ∧
      (n < 2 ^ 63 ∧ raw.toInt = n ∨ 2 ^ 63 ≤ n ∧ n < 2 ^ 64 ∧ raw.toInt = n - 2 ^ 64) := by
  cases value with
  | numberInteger raw =>
      injection h with h
      exact ⟨raw, rfl, Or.inl ⟨h ▸ raw.toInt_lt, h⟩⟩
  | numberUnsigned raw =>
      injection h with h
      refine ⟨raw.toInt64, rfl, ?_⟩
      have hBound : raw.toNat < 2 ^ 64 := raw.toNat_lt
      rcases Nat.lt_or_ge raw.toNat (2 ^ 63) with hSmall | hLarge
      · exact Or.inl ⟨by omega, (toInt_toInt64_of_lt hSmall).trans h⟩
      · exact Or.inr ⟨by omega, by omega, (toInt_toInt64_of_le hLarge).trans (by rw [h])⟩
  | _ => cases h

/-- The range of the integers that can be stored. -/
theorem integer_bounds {value : Net.Document F} {n : Int} (h : value.integer = some n) :
    -2 ^ 63 ≤ n ∧ n < 2 ^ 64 := by
  cases value with
  | numberInteger raw =>
      injection h with h
      have hLow := raw.le_toInt
      have hHigh := raw.toInt_lt
      omega
  | numberUnsigned raw =>
      injection h with h
      have hHigh : raw.toNat < 2 ^ 64 := raw.toNat_lt
      omega
  | _ => cases h

theorem isNumberInteger_of_integer {value : Net.Document F} {n : Int} (h : value.integer = some n) :
    value.isNumberInteger = true := by
  rw [← isSome_integer, h, Option.isSome_some]

theorem map_toNat_fitted (high n : Int) :
    (if 0 ≤ n ∧ n ≤ high then some n.toNat else none).map Int.ofNat = fitted 0 high n := by
  unfold fitted
  split
  · rename_i hFits
    exact congrArg some (Int.toNat_of_nonneg hFits.1)
  · rfl

theorem readU32_eq_of_integer {value : Net.Document F} {n : Int} (h : value.integer = some n) :
    Net.readU32 value = if 0 ≤ n ∧ n ≤ 2 ^ 32 - 1 then some n.toNat else none := by
  cases value with
  | numberInteger raw =>
      injection h with h
      rw [← h]
      rfl
  | numberUnsigned raw =>
      injection h with h
      change (if raw.toNat ≤ 2 ^ 32 - 1 then some raw.toNat else none) = _
      rw [← h, Int.toNat_natCast]
      exact if_congr (by omega) rfl rfl
  | _ => cases h

theorem readU64_eq_of_integer {value : Net.Document F} {n : Int} (h : value.integer = some n) :
    Net.readU64 value = if 0 ≤ n ∧ n ≤ 2 ^ 64 - 1 then some n.toNat else none := by
  obtain ⟨-, hBound⟩ := integer_bounds h
  cases value with
  | numberInteger raw =>
      injection h with h
      change (if raw.toInt < 0 then none else some raw.toInt.toNat) = _
      rw [h]
      by_cases hSign : n < 0
      · rw [if_pos hSign, if_neg (by omega)]
      · rw [if_neg hSign, if_pos (by omega)]
  | numberUnsigned raw =>
      injection h with h
      change some raw.toNat = _
      rw [if_pos (by omega), ← h, Int.toNat_natCast]
  | _ => cases h

theorem readU8_eq_of_integer {value : Net.Document F} {n : Int} (h : value.integer = some n) :
    Net.readU8 value = if 0 ≤ n ∧ n ≤ 2 ^ 8 - 1 then some (UInt8.ofNat n.toNat) else none := by
  have hRead : Net.readU8 value = (Net.readU32 value).bind fun raw =>
      if raw > 2 ^ 8 - 1 then none else some (UInt8.ofNat raw) := by
    cases value <;> rfl
  rw [hRead, readU32_eq_of_integer h]
  by_cases hWide : 0 ≤ n ∧ n ≤ 2 ^ 32 - 1
  · rw [if_pos hWide, Option.bind_some]
    by_cases hFits : n.toNat > 2 ^ 8 - 1
    · rw [if_pos hFits, if_neg (by omega)]
    · rw [if_neg hFits, if_pos (by omega)]
  · rw [if_neg hWide, if_neg (by omega)]
    rfl

/-- The readers that ask for an unsigned number first keep every integer. -/
theorem unsignedKept {value : Net.Document F} {n : Int} (h : value.integer = some n) :
    UnsignedKept value n where
  u8 := by
    rw [readU8_eq_of_integer h, ← map_toNat_fitted]
    split
    · rename_i hFits
      have hSame : (UInt8.ofNat n.toNat).toNat = n.toNat := by
        rw [UInt8.toNat_ofNat', Nat.mod_eq_of_lt (by omega)]
      exact congrArg (fun raw : Nat => some (raw : Int)) hSame
    · rfl
  u32 := by rw [readU32_eq_of_integer h, map_toNat_fitted]
  u64 := by rw [readU64_eq_of_integer h, map_toNat_fitted]
  chunkSyncU32 := by
    rw [← Client.Accessed.readU32_eq, readU32_eq_of_integer h, ← map_toNat_fitted]
    split
    · rename_i hFits
      have hSame : (UInt32.ofNat n.toNat).toNat = n.toNat := by
        rw [UInt32.toNat_ofNat', Nat.mod_eq_of_lt (by omega)]
      exact congrArg (fun raw : Nat => some (raw : Int)) hSame
    · rfl

/-- A number that is read as a signed one and narrowed. -/
theorem narrowed_fitted_iff {n : Int} {raw : Int64}
    (hRaw : n < 2 ^ 63 ∧ raw.toInt = n ∨ 2 ^ 63 ≤ n ∧ n < 2 ^ 64 ∧ raw.toInt = n - 2 ^ 64) :
    (if raw.toInt < -2 ^ 31 ∨ raw.toInt > 2 ^ 31 - 1 then none else some raw.toInt) =
      fitted (-2 ^ 31) (2 ^ 31 - 1) n ↔ n < 2 ^ 64 - 2 ^ 31 := by
  unfold fitted
  rcases hRaw with ⟨hSmall, hSame⟩ | ⟨hLarge, hBound, hWrapped⟩
  · rw [hSame]
    refine iff_of_true ?_ (by omega)
    by_cases hFits : n < -2 ^ 31 ∨ n > 2 ^ 31 - 1
    · rw [if_pos hFits, if_neg (by omega)]
    · rw [if_neg hFits, if_pos (by omega)]
  · rw [hWrapped, if_neg (by omega : ¬ (-2 ^ 31 ≤ n ∧ n ≤ 2 ^ 31 - 1))]
    by_cases hFits : n - 2 ^ 64 < -2 ^ 31 ∨ n - 2 ^ 64 > 2 ^ 31 - 1
    · rw [if_pos hFits]
      exact iff_of_true rfl (by omega)
    · rw [if_neg hFits]
      exact iff_of_false (by simp) (by omega)

/-- The narrow signed reader mistakes the integers just below `2 ^ 64` for negative ones. -/
theorem readI32_fitted_iff {value : Net.Document F} {n : Int} (h : value.integer = some n) :
    Net.readI32 value = fitted (-2 ^ 31) (2 ^ 31 - 1) n ↔ n < 2 ^ 64 - 2 ^ 31 := by
  obtain ⟨raw, hGet, hRaw⟩ := getInt64_of_integer h
  rw [← narrowed_fitted_iff hRaw]
  unfold Net.readI32 Net.jsonToI32
  rw [if_pos (isNumberInteger_of_integer h), hGet]
  rfl

/-- The validator's reader mistakes every integer from `2 ^ 63` on for a negative one. -/
theorem toI64_fitted_iff {value : Net.Document F} {n : Int} (h : value.integer = some n) :
    Server.toI64 value = fitted (-2 ^ 63) (2 ^ 63 - 1) n ↔ n < 2 ^ 63 := by
  obtain ⟨raw, hGet, hRaw⟩ := getInt64_of_integer h
  obtain ⟨hLow, -⟩ := integer_bounds h
  have hRead : Server.toI64 value = some raw.toInt := by
    unfold Server.toI64
    rw [if_pos (isNumberInteger_of_integer h), hGet]
    rfl
  rw [hRead]
  unfold fitted
  rcases hRaw with ⟨hSmall, hSame⟩ | ⟨hLarge, -, -⟩
  · rw [hSame, if_pos (by omega)]
    exact iff_of_true rfl hSmall
  · rw [if_neg (by omega)]
    exact iff_of_false (by simp) (not_lt.mpr hLarge)

/-- The unsigned readers keep every integer, and all readers keep those below `2 ^ 63`, but the
signed readers let larger ones wrap. -/
theorem integers_kept_iff (value : Net.Document F) (n : Int) (h : value.integer = some n) :
    (IntegersKept value n ↔ n < 2 ^ 63) ∧ UnsignedKept value n ∧
      (Net.readI32 value = fitted (-2 ^ 31) (2 ^ 31 - 1) n ↔ n < 2 ^ 64 - 2 ^ 31) ∧
      (Client.jsonToI32 value = fitted (-2 ^ 31) (2 ^ 31 - 1) n ↔ n < 2 ^ 64 - 2 ^ 31) ∧
      (Server.toI64 value = fitted (-2 ^ 63) (2 ^ 63 - 1) n ↔ n < 2 ^ 63) := by
  have hNarrow := readI32_fitted_iff h
  have hWide := toI64_fitted_iff h
  have hChunkSync : Client.jsonToI32 value = fitted (-2 ^ 31) (2 ^ 31 - 1) n ↔
      n < 2 ^ 64 - 2 ^ 31 := by
    rw [← Client.Accessed.readI32_eq]
    exact hNarrow
  refine ⟨⟨fun hKept => hWide.mp hKept.i64, fun hSmall => ?_⟩, unsignedKept h, hNarrow,
    hChunkSync, hWide⟩
  exact ⟨unsignedKept h, hNarrow.mpr (by omega), hChunkSync.mpr (by omega), hWide.mpr hSmall⟩

/-- Minus one is kept by all readers, whose ranges it is in or out of. -/
theorem integers_kept_iff_minusOne :
    IntegersKept (.numberInteger (-1) : Net.Document ℚ) (-1) :=
  (integers_kept_iff (.numberInteger (-1) : Net.Document ℚ) (-1) rfl).1.mpr (by decide)

/-- The largest unsigned number is taken for minus one. -/
theorem integer_misread :
    let value : Net.Document ℚ := .numberUnsigned 18446744073709551615
    value.integer = some 18446744073709551615 ∧ Net.readI32 value = some (-1) ∧
      Client.jsonToI32 value = some (-1) ∧ Server.toI64 value = some (-1) ∧
        ¬ IntegersKept value 18446744073709551615 := by
  refine ⟨rfl, rfl, rfl, rfl, fun hKept => ?_⟩
  have hRead := hKept.i64
  revert hRead
  decide

end DevyFps.Replication
