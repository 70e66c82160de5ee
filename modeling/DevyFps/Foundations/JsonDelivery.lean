import DevyFps.Foundations.Floating
import DevyFps.Foundations.Json

/-! A JSON value that is printed at one end of a connection and parsed at the other. -/

universe u v

namespace Foundations.Json

variable {D : Type u}

mutual

/-- What is parsed from the printed value: a number that is not finite is printed as `null`, and
an integer that is not negative is stored as an unsigned one. -/
def delivered (finite : D → Bool) : Json D → Json D
  | null => null
  | boolean value => boolean value
  | numberInteger raw => if 0 ≤ raw.toInt then numberUnsigned raw.toUInt64 else numberInteger raw
  | numberUnsigned raw => numberUnsigned raw
  | numberFloat value => if finite value then numberFloat value else null
  | string value => string value
  | array values => array (deliveredValues finite values)
  | object members => object (deliveredMembers finite members)

def deliveredValues (finite : D → Bool) : List (Json D) → List (Json D)
  | [] => []
  | value :: rest => value.delivered finite :: deliveredValues finite rest

def deliveredMembers (finite : D → Bool) : List (String × Json D) → List (String × Json D)
  | [] => []
  | (name, value) :: rest => (name, value.delivered finite) :: deliveredMembers finite rest

end

variable (finite : D → Bool)

theorem deliveredValues_eq (values : List (Json D)) :
    deliveredValues finite values = values.map (delivered finite) := by
  induction values with
  | nil => rfl
  | cons value rest ih =>
      unfold deliveredValues
      rw [ih]
      rfl

/-- What is found under a field arrives under it. -/
theorem lookup_deliveredMembers (members : List (String × Json D)) (field : String) :
    (deliveredMembers finite members).lookup field =
      (members.lookup field).map (delivered finite) := by
  induction members with
  | nil => rfl
  | cons head rest ih =>
      obtain ⟨name, value⟩ := head
      unfold deliveredMembers
      rw [List.lookup_cons, List.lookup_cons, ih]
      cases field == name <;> rfl

/-- A member that arrives is the member as it arrives. -/
@[simp] theorem member_delivered (root : Json D) (field : String) :
    (root.delivered finite).member field = (root.member field).map (delivered finite) := by
  cases root with
  | object members => exact lookup_deliveredMembers finite members field
  | numberInteger raw =>
      unfold delivered
      split <;> rfl
  | numberFloat raw =>
      unfold delivered
      split <;> rfl
  | _ => rfl

@[simp] theorem value_delivered (root : Json D) (field : String) :
    (root.delivered finite).value field .null = (root.value field .null).delivered finite := by
  unfold value
  rw [member_delivered]
  cases root.member field <;> rfl

@[simp] theorem contains_delivered (root : Json D) (field : String) :
    (root.delivered finite).contains field = root.contains field := by
  unfold contains
  rw [member_delivered, Option.isSome_map]

@[simp] theorem elements_delivered (value : Json D) :
    (value.delivered finite).elements = value.elements.map (delivered finite) := by
  cases value with
  | array values => exact deliveredValues_eq finite values
  | numberInteger raw =>
      unfold delivered
      split <;> rfl
  | numberFloat raw =>
      unfold delivered
      split <;> rfl
  | _ => rfl

/-- What depends neither on the form of an integer nor on the inside of an array or an object, and
takes a number that is not finite for `null`, is the same of a value that has arrived. -/
theorem delivered_invariant {β : Type v} {f : Json D → β}
    (hInteger : ∀ raw, 0 ≤ raw.toInt → f (numberUnsigned raw.toUInt64) = f (numberInteger raw))
    (hFloat : ∀ value, f null = f (numberFloat value))
    (hArray : ∀ values, f (array (deliveredValues finite values)) = f (array values))
    (hObject : ∀ members, f (object (deliveredMembers finite members)) = f (object members))
    (value : Json D) : f (value.delivered finite) = f value := by
  cases value with
  | numberInteger raw =>
      unfold delivered
      split
      · rename_i hNonneg
        exact hInteger raw hNonneg
      · rfl
  | numberFloat raw =>
      unfold delivered
      split
      · rfl
      · exact hFloat raw
  | array values => exact hArray values
  | object members => exact hObject members
  | _ => rfl

@[simp] theorem isObject_delivered (value : Json D) :
    (value.delivered finite).isObject = value.isObject :=
  delivered_invariant finite (fun _ _ => rfl) (fun _ => rfl) (fun _ => rfl) (fun _ => rfl) value

@[simp] theorem isArray_delivered (value : Json D) :
    (value.delivered finite).isArray = value.isArray :=
  delivered_invariant finite (fun _ _ => rfl) (fun _ => rfl) (fun _ => rfl) (fun _ => rfl) value

@[simp] theorem isString_delivered (value : Json D) :
    (value.delivered finite).isString = value.isString :=
  delivered_invariant finite (fun _ _ => rfl) (fun _ => rfl) (fun _ => rfl) (fun _ => rfl) value

@[simp] theorem isBoolean_delivered (value : Json D) :
    (value.delivered finite).isBoolean = value.isBoolean :=
  delivered_invariant finite (fun _ _ => rfl) (fun _ => rfl) (fun _ => rfl) (fun _ => rfl) value

/-- Integers arrive as they were sent, in whichever form. -/
@[simp] theorem integer_delivered (value : Json D) :
    (value.delivered finite).integer = value.integer :=
  delivered_invariant (f := integer) finite
    (fun _ hNonneg => congrArg some (toNat_toUInt64_of_nonneg hNonneg)) (fun _ => rfl)
    (fun _ => rfl) (fun _ => rfl) value

@[simp] theorem isNumberInteger_delivered (value : Json D) :
    (value.delivered finite).isNumberInteger = value.isNumberInteger := by
  rw [← isSome_integer, integer_delivered, isSome_integer]

/-- Texts and flags arrive as they were sent, and nothing else does as one. -/
theorem delivered_eq_string_iff {value : Json D} {text : String} :
    value.delivered finite = .string text ↔ value = .string text := by
  apply iff_of_eq
  apply delivered_invariant (f := fun other => other = .string text) finite
  all_goals simp

/-- A boolean arrives as itself, and nothing else arrives as one. -/
theorem delivered_eq_boolean_iff {value : Json D} {flag : Bool} :
    value.delivered finite = .boolean flag ↔ value = .boolean flag := by
  apply iff_of_eq
  apply delivered_invariant (f := fun other => other = .boolean flag) finite
  all_goals simp

end Foundations.Json
