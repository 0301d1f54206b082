/-!
# Sets of code points

A property of characters is given by the closed ranges of code points that
have it.
-/

namespace PortableDdl.Text

/-- Closed ranges of code points, in ascending order. -/
abbrev Ranges := List (Nat × Nat)

/-- Whether a code point lies in one of the ranges. -/
def Ranges.contains (rs : Ranges) (n : Nat) : Bool :=
  rs.any fun r => r.1 ≤ n && n ≤ r.2

end PortableDdl.Text
