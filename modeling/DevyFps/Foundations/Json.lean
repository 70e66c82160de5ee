import Mathlib.Data.List.Basic

/-! JSON values as a parser hands them out, with the number kept in the form in which
it was stored. -/

universe u v

namespace Foundations

/-- A JSON value over a type of doubles. Members of an object have distinct names; the
first one of a name is the one that is found. -/
inductive Json (D : Type u) where
  | null
  | boolean (value : Bool)
  | numberInteger (value : Int64)
  | numberUnsigned (value : UInt64)
  | numberFloat (value : D)
  | string (value : String)
  | array (values : List (Json D))
  | object (members : List (String × Json D))

namespace Json

variable {D : Type u}

def isObject : Json D → Bool
  | object _ => true
  | _ => false

def isArray : Json D → Bool
  | array _ => true
  | _ => false

/-- The member of an object; other values have no members. -/
def member (field : String) : Json D → Option (Json D)
  | object members => members.lookup field
  | _ => none

def contains (value : Json D) (field : String) : Bool := (value.member field).isSome

/-- `value(field, fallback)` and, where the member is known to exist, `operator[]`. -/
def value (root : Json D) (field : String) (fallback : Json D) : Json D :=
  (root.member field).getD fallback

/-- The elements that a loop over the value visits. -/
def elements : Json D → List (Json D)
  | array values => values
  | _ => []

@[simp] theorem member_object (members : List (String × Json D)) (field : String) :
    (object members).member field = members.lookup field := rfl

def isString : Json D → Bool
  | string _ => true
  | _ => false

def isBoolean : Json D → Bool
  | boolean _ => true
  | _ => false

/-- An unsigned number is an integer too. -/
def isNumberInteger : Json D → Bool
  | numberInteger _ => true
  | numberUnsigned _ => true
  | _ => false

def isNumberUnsigned : Json D → Bool
  | numberUnsigned _ => true
  | _ => false

def isNumberFloat : Json D → Bool
  | numberFloat _ => true
  | _ => false

def isNumber (value : Json D) : Bool := value.isNumberInteger || value.isNumberFloat

/-- The integer that is written, in whichever form it is stored. -/
def integer : Json D → Option Int
  | numberInteger raw => some raw.toInt
  | numberUnsigned raw => some raw.toNat
  | _ => none

/-- A value has an integer exactly if it is stored as one. -/
theorem isSome_integer (value : Json D) : value.integer.isSome = value.isNumberInteger := by
  cases value <;> rfl

/-- Only an object has members. -/
theorem isObject_of_member {root value : Json D} {field : String}
    (h : root.member field = some value) : root.isObject = true := by
  cases root with
  | object members => rfl
  | _ => cases h

/-- A signed number that is not negative is the same one when it is read as unsigned. -/
theorem toNat_toUInt64_of_nonneg {raw : Int64} (h : 0 ≤ raw.toInt) :
    (raw.toUInt64.toNat : Int) = raw.toInt := by
  rw [← Int64.toNat_toBitVec, ← Int64.toInt_toBitVec]
  rw [← Int64.toInt_toBitVec] at h
  rw [BitVec.toInt_eq_toNat_cond] at h ⊢
  split
  · rfl
  · omega

mutual

/-- The form in which a printed value is read again: an integer that is not negative is
stored as an unsigned one. -/
def canonical : Json D → Json D
  | null => null
  | boolean value => boolean value
  | numberInteger raw => if 0 ≤ raw.toInt then numberUnsigned raw.toUInt64 else numberInteger raw
  | numberUnsigned raw => numberUnsigned raw
  | numberFloat value => numberFloat value
  | string value => string value
  | array values => array (canonicalValues values)
  | object members => object (canonicalMembers members)

def canonicalValues : List (Json D) → List (Json D)
  | [] => []
  | value :: rest => value.canonical :: canonicalValues rest

def canonicalMembers : List (String × Json D) → List (String × Json D)
  | [] => []
  | (name, value) :: rest => (name, value.canonical) :: canonicalMembers rest

end

/-- `operator==`, as far as it goes by the stored values: the form of an integer does not
count. -/
def Equal (left right : Json D) : Prop := left.canonical = right.canonical

/-- Sorting the members of an object and dropping repeated ones changes no look-up. -/
theorem lookup_canonicalMembers (members : List (String × Json D)) (field : String) :
    (canonicalMembers members).lookup field = (members.lookup field).map canonical := by
  induction members with
  | nil => rfl
  | cons head rest ih =>
      obtain ⟨name, value⟩ := head
      unfold canonicalMembers
      rw [List.lookup_cons, List.lookup_cons, ih]
      cases field == name <;> rfl

/-- A member of the canonical form is the canonical form of the member. -/
theorem member_canonical (root : Json D) (field : String) :
    root.canonical.member field = (root.member field).map canonical := by
  cases root with
  | object members => exact lookup_canonicalMembers members field
  | numberInteger raw =>
      unfold canonical
      split <;> rfl
  | _ => rfl

/-- What depends neither on the form of an integer nor on the inside of an array or an object
is the same of the canonical form. -/
theorem canonical_invariant {β : Type v} {f : Json D → β}
    (hInteger : ∀ raw, 0 ≤ raw.toInt → f (numberUnsigned raw.toUInt64) = f (numberInteger raw))
    (hArray : ∀ values, f (array (canonicalValues values)) = f (array values))
    (hObject : ∀ members, f (object (canonicalMembers members)) = f (object members))
    (value : Json D) : f value.canonical = f value := by
  cases value with
  | numberInteger raw =>
      unfold canonical
      split
      · rename_i hNonneg
        exact hInteger raw hNonneg
      · rfl
  | array values => exact hArray values
  | object members => exact hObject members
  | _ => rfl

theorem isObject_canonical (value : Json D) : value.canonical.isObject = value.isObject :=
  canonical_invariant (fun _ _ => rfl) (fun _ => rfl) (fun _ => rfl) value

theorem isArray_canonical (value : Json D) : value.canonical.isArray = value.isArray :=
  canonical_invariant (fun _ _ => rfl) (fun _ => rfl) (fun _ => rfl) value

theorem isString_canonical (value : Json D) : value.canonical.isString = value.isString :=
  canonical_invariant (fun _ _ => rfl) (fun _ => rfl) (fun _ => rfl) value

theorem isBoolean_canonical (value : Json D) : value.canonical.isBoolean = value.isBoolean :=
  canonical_invariant (fun _ _ => rfl) (fun _ => rfl) (fun _ => rfl) value

theorem isNumberFloat_canonical (value : Json D) :
    value.canonical.isNumberFloat = value.isNumberFloat :=
  canonical_invariant (fun _ _ => rfl) (fun _ => rfl) (fun _ => rfl) value

/-- The canonical form stores the same integers. -/
theorem integer_canonical (value : Json D) : value.canonical.integer = value.integer :=
  canonical_invariant (f := integer)
    (fun _ hNonneg => congrArg some (toNat_toUInt64_of_nonneg hNonneg)) (fun _ => rfl)
    (fun _ => rfl) value

theorem isNumberInteger_canonical (value : Json D) :
    value.canonical.isNumberInteger = value.isNumberInteger := by
  rw [← isSome_integer, integer_canonical, isSome_integer]

theorem isNumber_canonical (value : Json D) : value.canonical.isNumber = value.isNumber := by
  unfold isNumber
  rw [isNumberInteger_canonical, isNumberFloat_canonical]

/-- A member of one of two equal values is a member of the other. -/
theorem Equal.member {left right : Json D} (h : left.Equal right) {field : String}
    {value : Json D} (hMember : right.member field = some value) :
    ∃ other, left.member field = some other ∧ other.Equal value := by
  have hFound := left.member_canonical field
  rw [h, member_canonical, hMember] at hFound
  exact Option.map_eq_some_iff.mp hFound.symm

/-- Equal documents are so in both directions. -/
theorem Equal.symm {left right : Json D} (h : left.Equal right) : right.Equal left := Eq.symm h

/-- Equal documents have the same members. -/
theorem Equal.contains {left right : Json D} (h : left.Equal right) (field : String) :
    left.contains field = right.contains field := by
  have hFound := congrArg (fun value => (Json.member field value).isSome) h
  simp only [member_canonical, Option.isSome_map] at hFound
  exact hFound

theorem Equal.isObject {left right : Json D} (h : left.Equal right) :
    left.isObject = right.isObject := by
  rw [← isObject_canonical, h, isObject_canonical]

/-- Equal documents hold the same integers. -/
theorem Equal.integer {left right : Json D} (h : left.Equal right) :
    left.integer = right.integer := by
  rw [← integer_canonical, h, integer_canonical]

end Json

end Foundations
