/-!
# Sets of characters

A set of characters is given by closed ranges of code points.
-/

namespace NodeSchema.Text

/-- Whether one of the closed ranges holds `n`. -/
def inRanges (ranges : List (Nat × Nat)) (n : Nat) : Bool :=
  ranges.any fun r => r.1 ≤ n && n ≤ r.2

end NodeSchema.Text
