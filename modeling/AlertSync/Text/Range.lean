/-!
# Ranges of code points

A class of characters is given by the ranges of its code points.
-/

namespace AlertSync.Text

/-- Whether a character lies in one of some ranges, both ends included. -/
def within (ranges : List (Nat × Nat)) (c : Char) : Bool :=
  ranges.any fun r => r.1 ≤ c.toNat && c.toNat ≤ r.2

end AlertSync.Text
