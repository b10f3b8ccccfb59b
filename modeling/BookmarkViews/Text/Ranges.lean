/-!
Sets of characters given by ranges of code points.
-/

namespace BookmarkViews.Text

/-- Whether one of the closed ranges holds the code point of `c`. -/
def inRanges (ranges : Array (Nat × Nat)) (c : Char) : Bool :=
  ranges.any fun r => r.1 ≤ c.toNat && c.toNat ≤ r.2

end BookmarkViews.Text
