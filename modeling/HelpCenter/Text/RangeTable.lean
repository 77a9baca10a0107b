import HelpCenter.Text.Basic

/-!
# Tables of code point ranges

A property of characters is given as the sorted list of the ranges on which it holds.
-/

namespace HelpCenter

/-- Closed ranges in increasing order. -/
abbrev RangeTable := List (Nat × Nat)

/-- Whether a number lies in one of the ranges; the search stops at the first range above it. -/
def RangeTable.contains : RangeTable → Nat → Bool
  | [], _ => false
  | (lo, hi) :: rest, n => if n < lo then false else if n ≤ hi then true else contains rest n

end HelpCenter
