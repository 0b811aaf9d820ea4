/-!
# Sets of code points given by their bounds

A table of a Unicode property lists, in increasing order, the code points at which membership
changes, starting outside the set. A code point is a member when an odd number of bounds lie at
or below it.
-/

namespace RoleGraph

/-- Membership in the set whose changes happen at the given bounds. -/
def withinBounds (bounds : List Nat) (n : Nat) : Bool :=
  (bounds.takeWhile (· ≤ n)).length % 2 == 1

end RoleGraph
