/-!
# Sets of code points written as boundaries

A property of characters is a set of code points, and almost always a union of a few hundred
intervals. Such a set is written here as the ascending list of the code points at which membership
changes: outside, then inside from the first boundary on, outside again from the second, and so on.
-/

namespace StyleConstants.Unicode

/-- Membership of `c` in the set whose ascending boundaries are given. -/
def within : List Nat → Nat → Bool
  | [], _ => false
  | first :: rest, c => decide (first ≤ c) && !within rest c

end StyleConstants.Unicode
