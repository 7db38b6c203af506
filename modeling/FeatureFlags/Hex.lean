/-!
Hexadecimal digits.
-/
namespace FeatureFlags.Hex

def value? (c : Char) : Option Nat :=
  if '0' ≤ c ∧ c ≤ '9' then some (c.toNat - '0'.toNat)
  else if 'a' ≤ c ∧ c ≤ 'f' then some (c.toNat - 'a'.toNat + 10)
  else if 'A' ≤ c ∧ c ≤ 'F' then some (c.toNat - 'A'.toNat + 10)
  else none

def digit (n : Nat) : Char := Nat.digitChar n

def capital (n : Nat) : Char := (digit n).toUpper

theorem value?_digit {n : Nat} (h : n < 16) : value? (digit n) = some n := by
  revert n; decide

theorem value?_capital {n : Nat} (h : n < 16) : value? (capital n) = some n := by
  revert n; decide

end FeatureFlags.Hex
