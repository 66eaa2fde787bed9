/-!
# Ranges of characters

A class of characters is given by ranges of code points, both ends included.
-/

namespace Bytecode.Text

/-- Whether a character lies in one of some ranges. -/
def inRanges (ranges : List (Nat × Nat)) (c : Char) : Bool :=
  ranges.any fun range => range.1 ≤ c.toNat && c.toNat ≤ range.2

end Bytecode.Text
