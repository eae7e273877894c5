/-!
Sets of code points, kept as sorted tables and searched by bisection.
-/

namespace Coffer.Text

/-- A set of code points, kept as the ascending list of points at which membership changes: the
points before the first are outside, those from the first up to the second inside, and so on. -/
structure CodePoints where
  changes : Array Nat

/-- The least index in `[lo, hi]` whose entry exceeds `n`, by bisection of a sorted table. -/
def bisect (table : Array Nat) (n : Nat) (lo hi : Nat) : Nat :=
  if h : lo < hi then
    let mid := (lo + hi) / 2
    if table.getD mid 0 ≤ n then bisect table n (mid + 1) hi else bisect table n lo mid
  else lo
termination_by hi - lo

/-- Membership: an odd number of changes lies at or below the character. -/
def CodePoints.contains (s : CodePoints) (c : Char) : Bool :=
  bisect s.changes c.toNat 0 s.changes.size % 2 == 1

end Coffer.Text
