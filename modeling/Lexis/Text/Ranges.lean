/-!
# Ranges of characters

A class of characters is given by ranges of their numbers, both ends included.
-/

namespace Lexis.Ranges

/-- The number lies in one of the ranges. -/
def contains (rs : List (Nat × Nat)) (n : Nat) : Bool := rs.any fun r => r.1 ≤ n && n ≤ r.2

end Lexis.Ranges
