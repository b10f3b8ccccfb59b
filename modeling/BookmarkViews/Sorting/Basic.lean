import BookmarkViews.Sorting.Long

/-!
Stable sorting.

A comparison orders some items when it compares their ranks, the numbers of items before
each. Then there is one list in stable order, which merge sort gives. Where it does not
order them, what comes of the items depends on the steps of the sort, and the sort may give
up when its steps contradict each other.
-/

namespace BookmarkViews.Sorting

variable {α : Type} (cmp : α → α → Ordering)

/-- How many of the items come before one. -/
def rank (items : List α) (a : α) : Nat :=
  items.countP fun b => cmp b a == .lt

/-- Whether a comparison orders the items. -/
def isOrdered (items : List α) : Bool :=
  let ranked := items.map fun a => (a, rank cmp items a)
  ranked.all fun (a, m) => ranked.all fun (b, n) => cmp a b == compare m n

/-- The items in stable order, nothing when the sort gives up. -/
def stableSort? (items : List α) : Option (List α) :=
  if isOrdered cmp items then some (items.mergeSort fun a b => (cmp a b).isLE)
  else sortBySteps (fun a b => cmp a b == .lt) items

end BookmarkViews.Sorting
