/-!
# Sets of code points

A property of characters is a list of closed ranges of code points, ascending and apart.
-/

namespace Selectivity.Text

/-- Closed ranges of code points, ascending and apart. -/
abbrev CodeRanges := List (Nat × Nat)

/-- Membership; the search stops at the first range that starts above the point. -/
def CodeRanges.contains : CodeRanges → Nat → Bool
  | [], _ => false
  | (first, last) :: rest, point =>
      if point < first then false
      else if point ≤ last then true
      else CodeRanges.contains rest point

end Selectivity.Text
