import Mathlib.Data.List.Basic

/-! Byte strings. -/

namespace Foundations

/-- The contents of a `std::string`. -/
abbrev Bytes := List UInt8

namespace Bytes

/-- The bytes of a literal. -/
def ofString (s : String) : Bytes := s.toUTF8.data.toList

/-- `std::tolower` in the default locale, which moves the ASCII capitals only. -/
def tolower (c : UInt8) : UInt8 := if 65 ≤ c && c ≤ 90 then c + 32 else c

def lowercase (value : Bytes) : Bytes := value.map tolower

end Bytes

end Foundations
