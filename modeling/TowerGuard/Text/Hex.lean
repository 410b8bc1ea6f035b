import Mathlib.Logic.Basic

/-!
# Hexadecimal digits

One reading of a digit by its code, for the texts whose escapes are hexadecimal: form encoding,
JSON strings, and the numbers of the standard library.
-/

namespace Text

/-- The value of the hexadecimal digit with this code, of either case. -/
def hexValue (code : Nat) : Option Nat :=
  if 0x30 ≤ code ∧ code ≤ 0x39 then some (code - 0x30)
  else if 0x41 ≤ code ∧ code ≤ 0x46 then some (code - 0x37)
  else if 0x61 ≤ code ∧ code ≤ 0x66 then some (code - 0x57)
  else none

theorem hexValue_lt {code n : Nat} (h : hexValue code = some n) : n < 16 := by
  unfold hexValue at h
  split at h
  · cases h; omega
  · split at h
    · cases h; omega
    · split at h
      · cases h; omega
      · cases h

theorem hexValue_ascii {code n : Nat} (h : hexValue code = some n) : 0x30 ≤ code ∧ code < 0x80 := by
  unfold hexValue at h
  split at h
  · omega
  · split at h
    · omega
    · split at h
      · omega
      · cases h

end Text
