set_option autoImplicit false

/-! # Ranges of characters

Sets of characters are given as ascending ranges of code points. -/

namespace CellScript

/-- Whether one of ascending ranges holds `n`. -/
def inRanges (n : Nat) : List (Nat × Nat) → Bool
  | [] => false
  | (lo, hi) :: rest => lo ≤ n && (n ≤ hi || inRanges n rest)

end CellScript
