import TestScaffold.Text.Basic

/-!
Octets as letters of base 64, four letters for three octets. Characters that
are no letters are passed over. The padding signs are only looked at where
they complete a group of four; they end the text there.
-/

namespace TestScaffold.Base64

/-- The six bits of a letter. -/
def value? (c : CodePoint) : Option Nat :=
  if char 'A' ≤ c ∧ c ≤ char 'Z' then some (c.toNat - 'A'.toNat)
  else if char 'a' ≤ c ∧ c ≤ char 'z' then some (c.toNat - 'a'.toNat + 26)
  else if char '0' ≤ c ∧ c ≤ char '9' then some (c.toNat - '0'.toNat + 52)
  else if c = char '+' then some 62
  else if c = char '/' then some 63
  else none

/-- The octets of the rest of a text. `held` are the letters of the group
begun, and `pads` the padding signs met since the last of them. A group is not
left unfinished. -/
def decodeFrom : List Nat → Nat → Text → Option (List UInt8)
  | held, _, [] => if held = [] then some [] else none
  | held, pads, c :: s =>
    if c = char '=' then
      if 2 ≤ held.length then
        if 4 ≤ held.length + pads + 1 then
          match held with
          | [a, b] => some [UInt8.ofNat (a * 4 + b / 16)]
          | [a, b, d] =>
            some [UInt8.ofNat (a * 4 + b / 16), UInt8.ofNat (b * 16 + d / 4)]
          | _ => some []
        else decodeFrom held (pads + 1) s
      else decodeFrom held pads s
    else
      match value? c with
      | none => decodeFrom held pads s
      | some v =>
        match held with
        | [a, b, d] =>
          (decodeFrom [] 0 s).map fun more =>
            UInt8.ofNat (a * 4 + b / 16) :: UInt8.ofNat (b * 16 + d / 4) ::
              UInt8.ofNat (d * 64 + v) :: more
        | _ => decodeFrom (held ++ [v]) 0 s

/-- The octets of a text. -/
def decode (s : Text) : Option (List UInt8) := decodeFrom [] 0 s

end TestScaffold.Base64
