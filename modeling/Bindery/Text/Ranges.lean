set_option autoImplicit false
set_option relaxedAutoImplicit false

/-!
Sets of code points given as ascending ranges.
-/

namespace Bindery.Text.Ranges

/-- Whether a code point lies in one of the ranges, both ends included. -/
def contains (ranges : List (Nat × Nat)) (n : Nat) : Bool :=
  ranges.any fun (low, high) => low ≤ n && n ≤ high

end Bindery.Text.Ranges
