/-!
Properties of characters that are given by a table of closed intervals of code points.
-/
namespace PageCheck.Text

def inRanges (ranges : List (Nat × Nat)) (c : Char) : Bool :=
  ranges.any fun range => range.1 ≤ c.toNat && c.toNat ≤ range.2

end PageCheck.Text
