import DevyFps.Foundations.JsonAccess

/-! Reading numbers out of a message. Every source file that needs them has the same readers
in its anonymous namespace. -/

namespace DevyFps.Net

open Foundations FloatFormat

section Integers

variable {D : Type} [FloatFormat D]

def jsonToU32 (value : Json D) : Except JsonError (Option Nat) :=
  if value.isNumberUnsigned then
    value.getUInt64.map fun raw => if raw.toNat ≤ 2 ^ 32 - 1 then some raw.toNat else none
  else if value.isNumberInteger then
    value.getInt64.map fun raw =>
      if 0 ≤ raw.toInt ∧ raw.toInt ≤ 2 ^ 32 - 1 then some raw.toInt.toNat else none
  else .ok none

def jsonToU64 (value : Json D) : Except JsonError (Option Nat) :=
  if value.isNumberUnsigned then value.getUInt64.map fun raw => some raw.toNat
  else if value.isNumberInteger then
    value.getInt64.map fun raw => if raw.toInt < 0 then none else some raw.toInt.toNat
  else .ok none

/-- An unsigned number is an integer too, so that the second branch is never taken. -/
def jsonToI32 (value : Json D) : Except JsonError (Option Int) :=
  if value.isNumberInteger then
    value.getInt64.map fun raw =>
      if raw.toInt < -2 ^ 31 ∨ raw.toInt > 2 ^ 31 - 1 then none else some raw.toInt
  else if value.isNumberUnsigned then
    value.getUInt64.map fun raw => if raw.toNat > 2 ^ 31 - 1 then none else some (raw.toNat : Int)
  else .ok none

def jsonToU8 (value : Json D) : Except JsonError (Option UInt8) :=
  (jsonToU32 value).map fun raw =>
    raw.bind fun raw => if raw > 2 ^ 8 - 1 then none else some (UInt8.ofNat raw)

/-! What the readers make of a value: they never fail. -/

def readU32 (value : Json D) : Option Nat := (jsonToU32 value).toOption.join

def readU64 (value : Json D) : Option Nat := (jsonToU64 value).toOption.join

def readI32 (value : Json D) : Option Int := (jsonToI32 value).toOption.join

def readU8 (value : Json D) : Option UInt8 := (jsonToU8 value).toOption.join

@[simp] theorem jsonToU32_eq (value : Json D) : jsonToU32 value = .ok (readU32 value) := by
  cases value <;> rfl

@[simp] theorem jsonToU64_eq (value : Json D) : jsonToU64 value = .ok (readU64 value) := by
  cases value <;> rfl

@[simp] theorem jsonToI32_eq (value : Json D) : jsonToI32 value = .ok (readI32 value) := by
  cases value <;> rfl

/-- An integer that fits 32 bits is read in whichever form it is stored. -/
theorem readU32_of_integer {value : Json D} {n : Int} (h : value.integer = some n) (hLow : 0 ≤ n)
    (hHigh : n < 2 ^ 32) : readU32 value = some n.toNat := by
  cases value with
  | numberInteger raw =>
      injection h with h
      change (if 0 ≤ raw.toInt ∧ raw.toInt ≤ 2 ^ 32 - 1 then some raw.toInt.toNat else none) = _
      rw [h, if_pos (by omega)]
  | numberUnsigned raw =>
      injection h with h
      change (if raw.toNat ≤ 2 ^ 32 - 1 then some raw.toNat else none) = _
      rw [if_pos (by omega), ← h, Int.toNat_natCast]
  | _ => cases h

@[simp] theorem jsonToU8_eq (value : Json D) : jsonToU8 value = .ok (readU8 value) := by
  cases value <;> rfl

end Integers

variable {F : Type} [SingleFloat F]

/-- The documents of a program that computes with the type `F`. -/
abbrev Document (F : Type) [SingleFloat F] := Json (SingleFloat.Double F)

/-- `std::numeric_limits<float>::max()`, as a double. -/
def maxFloat : SingleFloat.Double F := ofRat ((2 - 1 / 2 ^ 23) * 2 ^ 127)

/-- `std::numeric_limits<float>::lowest()`, as a double. -/
def lowestFloat : SingleFloat.Double F := ofRat (-((2 - 1 / 2 ^ 23) * 2 ^ 127))

def jsonToFloat (value : Document F) : Except JsonError (Option F) :=
  if !value.isNumber then .ok none
  else
    value.getDouble.map fun raw =>
      if lt raw (lowestFloat (F := F)) || lt (maxFloat (F := F)) raw then none
      else some (SingleFloat.narrow raw)

def readFloat (value : Document F) : Option F := (jsonToFloat value).toOption.join

@[simp] theorem jsonToFloat_eq (value : Document F) :
    jsonToFloat value = .ok (readFloat value) := by
  cases value <;> rfl

end DevyFps.Net
