/-!
# Machine integers

The bounds of integers of 64 bits, for numbers that have to fit into a word.
-/

namespace RoleGraph

namespace Word

/-- Signed integers are below this bound and not below its negative. -/
def signedBound : Int := 0x8000000000000000

/-- Unsigned integers are below this bound. -/
def unsignedBound : Nat := 0x10000000000000000

end Word

end RoleGraph
