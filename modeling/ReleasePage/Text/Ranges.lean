/-!
# Ranges of code points

Character classes that no short rule describes are given as ranges of code
points, both ends included.
-/

namespace ReleasePage.Text

/-- A code point is in one of the ranges. -/
def inRanges (ranges : Array (Nat × Nat)) (n : Nat) : Bool :=
  ranges.any fun range => range.1 ≤ n && n ≤ range.2

end ReleasePage.Text
