set_option autoImplicit false

/-!
# Text: ranges of code points

Sets of code points, given by ascending ranges with both ends included.
-/

namespace TezosNode.Text

/-- Whether a code point lies in one of the ranges. -/
def inRanges (ranges : List (Nat × Nat)) (code : Nat) : Bool :=
  ranges.any fun r => r.1 ≤ code && code ≤ r.2

end TezosNode.Text
