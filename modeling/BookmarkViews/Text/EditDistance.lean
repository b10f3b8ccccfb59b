/-!
The edit distance of two texts: the least number of single-character insertions,
deletions and substitutions that turn one into the other.

The distance is computed a row at a time. Row `i` holds, for every leading part
of the second text, its distance from the first `i` characters of the first.
-/

namespace BookmarkViews.Text

/-- The rest of the next row. `left` is the entry just computed, `c` the
character of the first text that the row adds, and the two lists run in step:
the second text, and the previous row from the entry above `left`. -/
def nextEntries (c : Char) : (left : Nat) → (other : List Char) → (above : List Nat) → List Nat
  | left, d :: other, diagonal :: up :: above =>
    let entry := min (min (diagonal + if c = d then 0 else 1) (up + 1)) (left + 1)
    entry :: nextEntries c entry other (up :: above)
  | _, _, _ => []

/-- The row after `row` when the first text goes on with `c`. -/
def nextRow (c : Char) (other : List Char) (row : List Nat) : List Nat :=
  let first := row.headD 0 + 1
  first :: nextEntries c first other row

/-- The edit distance of `a` and `b`. -/
def editDistance (a b : List Char) : Nat :=
  let firstRow := List.range (b.length + 1)
  (a.foldl (fun row c => nextRow c b row) firstRow).getLastD 0

end BookmarkViews.Text
