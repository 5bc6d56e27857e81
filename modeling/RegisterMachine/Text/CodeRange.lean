/-!
# Ranges of code points

A property of characters that a standard gives as data is held as a list of inclusive ranges of
code points.
-/

namespace RegisterMachine.Text

/-- Whether a code point lies in one of the ranges, both ends included. -/
def inRanges (ranges : List (Nat × Nat)) (n : Nat) : Bool :=
  ranges.any fun r ↦ r.1 ≤ n && n ≤ r.2

end RegisterMachine.Text
