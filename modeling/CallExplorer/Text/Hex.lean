/-
Hexadecimal digits.

Encoded octets of a reference, numbers in addresses and escapes in patterns are
written with digits to the base 16, in either case.
-/
namespace CallExplorer.Text

/-- The value of a hexadecimal digit. -/
def hexDigit? (c : Char) : Option Nat :=
  if c.isDigit then some (c.toNat - 48)
  else if 'a' ≤ c && c ≤ 'f' then some (c.toNat - 87)
  else if 'A' ≤ c && c ≤ 'F' then some (c.toNat - 55)
  else none

/-- Whether a character is a hexadecimal digit. -/
def isHexDigit (c : Char) : Bool := (hexDigit? c).isSome

/-- A hexadecimal digit is less than its base. -/
theorem hexDigit?_lt {c : Char} {n : Nat} (h : hexDigit? c = some n) : n < 16 := by
  unfold hexDigit? at h
  split at h
  · rename_i hd
    simp only [Char.isDigit, Bool.and_eq_true, decide_eq_true_eq, UInt32.le_iff_toNat_le] at hd
    have : c.toNat ≤ 57 := hd.2
    injection h; omega
  · split at h
    · rename_i hd
      simp only [Bool.and_eq_true, decide_eq_true_eq, Char.le_def, UInt32.le_iff_toNat_le] at hd
      have : c.toNat ≤ 102 := hd.2
      injection h; omega
    · split at h
      · rename_i hd
        simp only [Bool.and_eq_true, decide_eq_true_eq, Char.le_def, UInt32.le_iff_toNat_le] at hd
        have : c.toNat ≤ 70 := hd.2
        injection h; omega
      · cases h

end CallExplorer.Text
