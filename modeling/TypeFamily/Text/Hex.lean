/-!
Hexadecimal digits, in letters of either case.
-/

namespace TypeFamily.Text

/-- The value of a hexadecimal digit. -/
def hexValue? (c : Char) : Option Nat :=
  if '0' ≤ c ∧ c ≤ '9' then some (c.toNat - 0x30)
  else if 'a' ≤ c ∧ c ≤ 'f' then some (c.toNat - 0x57)
  else if 'A' ≤ c ∧ c ≤ 'F' then some (c.toNat - 0x37)
  else none

/-- The number that digits spell, the first the most significant. -/
def ofHexValues (values : List Nat) : Nat :=
  values.foldl (fun n d => 16 * n + d) 0

/-- The character whose code point digits spell. Surrogates are no characters. -/
def charOfHexValues? (values : List Nat) : Option Char :=
  let n := ofHexValues values
  if n.isValidChar then some (Char.ofNat n) else none

end TypeFamily.Text
