/-!
Sets of characters given by ranges of code points, both ends included.
-/

set_option autoImplicit false

namespace StageGate.Text

def inRanges (ranges : Array (Nat × Nat)) (c : Char) : Bool :=
  ranges.any fun r => r.1 ≤ c.toNat && c.toNat ≤ r.2

end StageGate.Text
