/-!
Membership of a character in a set given by a table of code point ranges.
-/

namespace TestScaffold.Text

/-- A table of ranges of code points, both ends included, in ascending
order. -/
abbrev Ranges := List (Nat × Nat)

/-- Whether a code point lies in one of the ranges. The table is ascending,
so the search ends at the first range that begins above the code point. -/
def Ranges.covers : Ranges → Nat → Bool
  | [], _ => false
  | (lo, hi) :: rest, n => if n < lo then false else n ≤ hi || covers rest n

end TestScaffold.Text
