import DevyFps.Foundations.Floating
import DevyFps.Foundations.Json

/-! Access to JSON values as a program performs it: an access fails where the value is of
another type or lacks the member. -/

universe u v

namespace Foundations

inductive JsonError where
  /-- `operator[]` of a constant object without the member: what happens is undefined. -/
  | missingMember (field : String)
  /-- A `type_error`. -/
  | typeError
  deriving DecidableEq, Repr

namespace Json

variable {D : Type u}

/-- `operator[]` of a constant value. -/
def index (root : Json D) (field : String) : Except JsonError (Json D) :=
  match root with
  | object members =>
      match members.lookup field with
      | some value => .ok value
      | none => .error (.missingMember field)
  | _ => .error .typeError

def getBool : Json D → Except JsonError Bool
  | boolean value => .ok value
  | _ => .error .typeError

def getString : Json D → Except JsonError String
  | string value => .ok value
  | _ => .error .typeError

/-- `value(field, fallback)`: the member where it exists, converted to the type of the
fallback. -/
def valueAs {α : Type v} (convert : Json D → Except JsonError α) (root : Json D)
    (field : String) (fallback : α) : Except JsonError α :=
  match root with
  | object members =>
      match members.lookup field with
      | some value => convert value
      | none => .ok fallback
  | _ => .error .typeError

/-- `value(field, json{})`, for which every member is of the right type. -/
def valueJson (root : Json D) (field : String) : Except JsonError (Json D) :=
  root.valueAs .ok field .null

/-- A member that is there is found. -/
theorem index_of_member {root value : Json D} {field : String}
    (h : root.member field = some value) : root.index field = .ok value := by
  cases root with
  | object members =>
      rw [member_object] at h
      unfold index
      dsimp only
      rw [h]
  | _ => cases h

/-- A field with a fallback, read from an object. -/
theorem valueAs_of_isObject {α : Type v} {convert : Json D → Except JsonError α} {root : Json D}
    (h : root.isObject = true) (field : String) (fallback : α) :
    root.valueAs convert field fallback =
      ((root.member field).map convert).getD (.ok fallback) := by
  cases root with
  | object members =>
      unfold valueAs
      dsimp only
      rw [member_object]
      cases members.lookup field <;> rfl
  | _ => cases h

theorem valueJson_of_isObject {root : Json D} (h : root.isObject = true) (field : String) :
    root.valueJson field = .ok (root.value field .null) := by
  unfold valueJson value
  rw [valueAs_of_isObject h]
  cases root.member field <;> rfl

/-- Only an object has members to look up. -/
theorem isObject_of_valueJson {root value : Json D} {field : String}
    (h : root.valueJson field = .ok value) : root.isObject = true := by
  cases root with
  | object members => rfl
  | _ => cases h

theorem getBool_of_isBoolean {value : Json D} (h : value.isBoolean = true) :
    ∃ flag, value = .boolean flag := by
  cases value with
  | boolean flag => exact ⟨flag, rfl⟩
  | _ => cases h

theorem getString_of_isString {value : Json D} (h : value.isString = true) :
    ∃ text, value = .string text := by
  cases value with
  | string text => exact ⟨text, rfl⟩
  | _ => cases h

section Numbers

variable {D : Type} [FloatFormat D]

/-- `get<uint64_t>`. -/
def getUInt64 : Json D → Except JsonError UInt64
  | numberUnsigned raw => .ok raw
  | numberInteger raw => .ok raw.toUInt64
  | numberFloat raw => .ok (UInt64.ofNat (FloatFormat.truncate raw).toNat)
  | _ => .error .typeError

/-- `get<int64_t>`; an unsigned number wraps around. -/
def getInt64 : Json D → Except JsonError Int64
  | numberUnsigned raw => .ok raw.toInt64
  | numberInteger raw => .ok raw
  | numberFloat raw => .ok (Int64.ofInt (FloatFormat.truncate raw))
  | _ => .error .typeError

/-- `get<double>`. -/
def getDouble : Json D → Except JsonError D
  | numberUnsigned raw => .ok (FloatFormat.ofInt raw.toNat)
  | numberInteger raw => .ok (FloatFormat.ofInt raw.toInt)
  | numberFloat raw => .ok raw
  | _ => .error .typeError

/-- `get<int>`, which takes Booleans too and narrows by a cast. -/
def getInt : Json D → Except JsonError Int32
  | numberUnsigned raw => .ok raw.toUInt32.toInt32
  | numberInteger raw => .ok raw.toInt32
  | numberFloat raw => .ok (Int32.ofInt (FloatFormat.truncate raw))
  | boolean flag => .ok (if flag then 1 else 0)
  | _ => .error .typeError

/-! Conversions of integers between their forms. -/

theorem toInt_toInt64_of_lt {raw : UInt64} (h : raw.toNat < 2 ^ 63) :
    raw.toInt64.toInt = raw.toNat := by
  change raw.toBitVec.toInt = raw.toBitVec.toNat
  apply BitVec.toInt_eq_toNat_of_lt
  change 2 * raw.toNat < 2 ^ 64
  omega

/-- The narrowing to 32 bits is taken modulo their range. -/
theorem toInt_toUInt32_toInt32 (raw : UInt64) :
    raw.toUInt32.toInt32.toInt = (raw.toNat : Int).bmod (2 ^ 32) := by
  change raw.toUInt32.toBitVec.toInt = _
  rw [BitVec.toInt_eq_toNat_bmod]
  change (raw.toUInt32.toNat : Int).bmod _ = _
  rw [UInt64.toNat_toUInt32, Int.natCast_emod]
  exact Int.emod_bmod _ _

/-- An integer is narrowed by a cast. -/
theorem getInt_of_integer {value : Json D} {n : Int} (h : value.integer = some n) :
    value.getInt.map Int32.toInt = .ok (n.bmod (2 ^ 32)) := by
  cases value with
  | numberInteger raw =>
      injection h with h
      rw [← h]
      exact congrArg Except.ok (Int64.toInt_toInt32 raw)
  | numberUnsigned raw =>
      injection h with h
      rw [← h]
      exact congrArg Except.ok (toInt_toUInt32_toInt32 raw)
  | _ => cases h

end Numbers

end Json

/-- The rest of a computation after a step that succeeded. -/
theorem ok_bind {ε : Type u} {α β : Type v} (a : α) (f : α → Except ε β) :
    ((.ok a : Except ε α) >>= f) = f a := rfl

/-- A computation that ends without an error. -/
def Returns {ε : Type u} {α : Type v} (x : Except ε α) : Prop := ∃ a, x = .ok a

section Returns

variable {ε : Type u} {α β : Type v}

theorem returns_ok (a : α) : Returns (.ok a : Except ε α) := ⟨a, rfl⟩

theorem returns_pure (a : α) : Returns (pure a : Except ε α) := ⟨a, rfl⟩

theorem not_returns_error (e : ε) : ¬ Returns (.error e : Except ε α) := by
  rintro ⟨a, h⟩
  cases h

/-- A sequence of two returns if the first does and then the second. -/
theorem returns_bind_iff {x : Except ε α} {f : α → Except ε β} :
    Returns (x >>= f) ↔ ∃ a, x = .ok a ∧ Returns (f a) := by
  cases x with
  | error e =>
      refine iff_of_false (not_returns_error e) ?_
      rintro ⟨a, h, -⟩
      cases h
  | ok a =>
      constructor
      · exact fun h => ⟨a, rfl, h⟩
      · rintro ⟨b, h, hRest⟩
        cases h
        exact hRest

/-- The steps of a computation that succeeded. -/
theorem ok_of_bind {x : Except ε α} {f : α → Except ε β} {b : β} (h : x >>= f = .ok b) :
    ∃ a, x = .ok a ∧ f a = .ok b := by
  cases x with
  | error e => cases h
  | ok a => exact ⟨a, rfl, h⟩

/-- A test that returns has returned on one of its branches. -/
theorem ok_of_ite {condition : Prop} [Decidable condition] {x y : Except ε α} {a : α}
    (h : (if condition then x else y) = .ok a) : x = .ok a ∨ y = .ok a := by
  split at h
  · exact Or.inl h
  · exact Or.inr h

/-- A result under a function comes from one. -/
theorem ok_of_map {x : Except ε α} {f : α → β} {b : β} (h : x.map f = .ok b) :
    ∃ a, x = .ok a ∧ f a = b := by
  cases x with
  | error e => cases h
  | ok a =>
      cases h
      exact ⟨a, rfl, rfl⟩

theorem Returns.bind {x : Except ε α} {f : α → Except ε β} (h : Returns x)
    (hRest : ∀ a, Returns (f a)) : Returns (x >>= f) := by
  obtain ⟨a, rfl⟩ := h
  exact hRest a

end Returns

theorem Json.returns_index {D : Type u} {root : Json D} {field : String}
    (h : root.contains field = true) : Returns (root.index field) := by
  obtain ⟨value, hValue⟩ := Option.isSome_iff_exists.mp h
  exact ⟨value, index_of_member hValue⟩

end Foundations
