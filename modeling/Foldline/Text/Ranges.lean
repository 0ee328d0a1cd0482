/-! # Sets of code points

A property of characters is a sorted list of inclusive ranges of code points. -/

namespace Foldline.Text

/-- Inclusive ranges of code points, ascending and apart. -/
abbrev Ranges := List (Nat × Nat)

/-- Membership; ascending order lets the search stop at the first range above `n`. -/
def Ranges.contains : Ranges → Nat → Bool
  | [], _ => false
  | (lo, hi) :: rest, n => if n < lo then false else n ≤ hi || Ranges.contains rest n

end Foldline.Text
