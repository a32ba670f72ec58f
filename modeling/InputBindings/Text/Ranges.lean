/-!
# Code point ranges

A class of characters is an ascending list of disjoint closed ranges of code points. The look-up
stops at the first range that ends at or after the code point it looks for.
-/

namespace InputBindings.Text

/-- Whether `n` lies in one of the ranges. -/
def inRanges : List (Nat × Nat) → Nat → Bool
  | [], _ => false
  | (lo, hi) :: rest, n => if n < lo then false else if n ≤ hi then true else inRanges rest n

end InputBindings.Text
