/-!
# Ranges of code points

Membership in a class of code points that is given by its ranges, in ascending order.
-/

namespace ConfigLocator

/-- First and last code points of runs, ascending. -/
abbrev Ranges := List (Nat × Nat)

/-- Stops at the first range that begins beyond the code point. -/
def Ranges.contain : Ranges → Nat → Bool
  | [], _ => false
  | (first, last) :: rest, c => first ≤ c && (c ≤ last || Ranges.contain rest c)

end ConfigLocator
