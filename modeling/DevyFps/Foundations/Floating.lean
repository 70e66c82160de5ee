import Mathlib.Data.Rat.Floor
import Mathlib.Data.Rat.Sqrt

/-! Floating-point formats as a program uses them. No law is assumed of the
operations, so a result proved over a format holds of every rounding, and of
values that are not numbers. -/

namespace Foundations

/-- The operations of one floating-point type. Comparisons are Boolean tests,
false on unordered arguments where the format has such values. -/
class FloatFormat (F : Type) extends Add F, Sub F, Mul F, Div F where
  /-- The value that a literal or an integer is converted to. -/
  ofRat : ℚ → F
  lt : F → F → Bool
  le : F → F → Bool
  isFinite : F → Bool
  sqrt : F → F
  abs : F → F
  floor : F → F
  ceil : F → F
  /-- `lround`: the nearest integer, halves away from zero. -/
  lround : F → Int
  /-- Conversion to an integer type, towards zero. -/
  truncate : F → Int

/-- A single-precision format together with the double format its values are
promoted to. -/
class SingleFloat (F : Type) extends FloatFormat F where
  Double : Type
  double : FloatFormat Double
  /-- The promotion of a single-precision value. -/
  widen : F → Double
  /-- The conversion back to single precision. -/
  narrow : Double → F

attribute [reducible, instance] SingleFloat.double

namespace FloatFormat

variable {F : Type} [FloatFormat F]

def ofInt (n : Int) : F := ofRat n

/-- `std::max`: the first argument unless it is below the second. -/
def max (x y : F) : F := if lt x y then y else x

/-- `std::min`: the first argument unless the second is below it. -/
def min (x y : F) : F := if lt y x then y else x

/-- `std::clamp`. -/
def clamp (value low high : F) : F :=
  if lt value low then low else if lt high value then high else value

end FloatFormat

/-- Exact rational arithmetic, with the integer square root of the numerator and
of the denominator. A format in which every value is finite. -/
instance : FloatFormat ℚ where
  ofRat q := q
  lt x y := decide (x < y)
  le x y := decide (x ≤ y)
  isFinite _ := true
  sqrt := Rat.sqrt
  abs q := if q < 0 then -q else q
  floor q := (⌊q⌋ : ℤ)
  ceil q := (⌈q⌉ : ℤ)
  lround q := if q < 0 then -⌊-q + 1 / 2⌋ else ⌊q + 1 / 2⌋
  truncate q := if q < 0 then ⌈q⌉ else ⌊q⌋

instance : SingleFloat ℚ where
  Double := ℚ
  double := inferInstance
  widen q := q
  narrow q := q

end Foundations
