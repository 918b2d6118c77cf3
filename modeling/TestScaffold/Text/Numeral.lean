import TestScaffold.Text.Basic

/-!
Numbers as texts: decimal, and hexadecimal of a fixed width.
-/

namespace TestScaffold.Text

/-- The greatest number of decimal digits that a number is written with. -/
def numeralMax : Nat := 4300

/-- A natural number in decimal digits. -/
def ofNat (n : Nat) : Text := (Nat.toDigits 10 n).map char

/-- An integer in decimal digits, a minus sign before a negative one. -/
def ofInt : Int → Text
  | .ofNat n => ofNat n
  | .negSucc n => char '-' :: ofNat (n + 1)

/-- The last `width` hexadecimal digits of a number, in lower case. -/
def hex : Nat → Nat → Text
  | 0, _ => []
  | width + 1, n => hex width (n / 16) ++ [char (Nat.digitChar (n % 16))]

/-- A numeral is as wide as it is asked to be. -/
theorem length_hex (width n : Nat) : (hex width n).length = width := by
  induction width generalizing n with
  | zero => rfl
  | succ w ih => simp [hex, ih]

/-- The value of a hexadecimal digit of either case. -/
def hexValue? (c : CodePoint) : Option Nat :=
  if char '0' ≤ c ∧ c ≤ char '9' then some (c.toNat - '0'.toNat)
  else if char 'a' ≤ c ∧ c ≤ char 'f' then some (c.toNat - 'a'.toNat + 10)
  else if char 'A' ≤ c ∧ c ≤ char 'F' then some (c.toNat - 'A'.toNat + 10)
  else none

/-- The value of a text of digits of a base up to 16; every character counts
as a digit, so the text is checked before. -/
def value (base : Nat) (s : Text) : Nat :=
  s.foldl (fun n c => n * base + (hexValue? c).getD 0) 0

end TestScaffold.Text
