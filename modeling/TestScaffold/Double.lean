/-!
Numbers of double precision: 53 binary digits, and a least step between two
numbers that all others are multiples of.

* A finite number is given by how many of the least steps it is, so equal
  numbers are equal values, and their order is that of the integers.
* `round` gives the nearest number to a quotient, of two the one with an even
  last digit; what is too great becomes infinite. Sums and products are
  rounded once.
-/

namespace TestScaffold

/-- A number of double precision; zero has no sign here. -/
inductive Double
  | finite (steps : Int)
  | infinite (negative : Bool)
  | undefined
  deriving DecidableEq, Repr

namespace Double

/-- How many of the least steps one is. -/
def one : Nat := Nat.pow 2 1074

/-- The numbers from here on are infinite, in steps. -/
def bound : Nat := Nat.pow 2 2098

/-- The quotient rounded to the nearest integer, and to an even one if there
are two. -/
def nearest (n d : Nat) : Nat :=
  let q := n / d
  if d < 2 * (n % d) ∨ (d = 2 * (n % d) ∧ q % 2 = 1) then q + 1 else q

/-- A number of steps, given as a quotient, rounded to 53 binary digits. -/
def roundSteps (n d : Nat) : Nat :=
  let unit := Nat.pow 2 (Nat.log2 (n / d) - 52)
  nearest n (d * unit) * unit

/-- The nearest number to a quotient of steps. -/
def round (n : Int) (d : Nat) : Double :=
  let steps := roundSteps n.natAbs d
  if bound ≤ steps then .infinite (n < 0)
  else .finite (if n < 0 then -steps else steps)

/-- The nearest number to an integer. -/
def ofInt (n : Int) : Double := round (n * one) 1

/-- The powers of ten outside of which all numbers are zero or infinite. -/
def greatestPower : Int := 400

/-- The nearest number to `digits * 10 ^ exponent`, where there are `width`
digits. -/
def ofDecimal (digits width : Nat) (exponent : Int) : Double :=
  if digits = 0 ∨ exponent + width < -greatestPower then .finite 0
  else if greatestPower < exponent then .infinite false
  else
    match exponent with
    | .ofNat e => round (digits * Nat.pow 10 e * one) 1
    | .negSucc e => round (digits * one) (Nat.pow 10 (e + 1))

def negate : Double → Double
  | .finite n => .finite (-n)
  | .infinite b => .infinite (!b)
  | .undefined => .undefined

def add : Double → Double → Double
  | .finite m, .finite n => round (m + n) 1
  | .infinite a, .infinite b => if a = b then .infinite a else .undefined
  | .infinite a, .finite _ | .finite _, .infinite a => .infinite a
  | .undefined, _ | _, .undefined => .undefined

/-- Whether a number is less than another; one that is undefined is not. -/
def lt : Double → Double → Bool
  | .finite m, .finite n => m < n
  | .infinite a, .infinite b => a && !b
  | .infinite a, .finite _ => a
  | .finite _, .infinite b => !b
  | .undefined, _ | _, .undefined => false

/-- The product with a positive number of steps. -/
def scale (steps : Nat) : Double → Double
  | .finite n => round (n * steps) one
  | d => d

end Double

end TestScaffold
