/-!
Sorting a few items.

Up to twenty items are inserted one by one. More of them, as parts of longer lists, are
sorted in two halves, which are merged from both ends at once: each end takes as many items
as the shorter half has, and the two meet when the comparison is an order. When they do not
meet, items were taken twice or left out, and the sort gives up.
-/

namespace BookmarkViews.Sorting

variable {α : Type} (less : α → α → Bool)

/-! ### Insertion -/

/-- Put an item in front of a sorted list that is kept backwards, behind the items that it
is less than. -/
def insertBack (x : α) : List α → List α
  | [] => [x]
  | y :: back => if less x y then y :: insertBack x back else x :: y :: back

/-- Put items one after another into a sorted list. -/
def insertAll (sorted items : List α) : List α :=
  (items.foldl (fun back x => insertBack less x back) sorted.reverse).reverse

def insertionSort (items : List α) : List α :=
  insertAll less [] items

/-- Four items in order, by five comparisons. -/
def sortFour (a b c d : α) : List α :=
  let (a, b) := if less b a then (b, a) else (a, b)
  let (c, d) := if less d c then (d, c) else (c, d)
  let cFirst := less c a
  let bLast := less d b
  let least := if cFirst then c else a
  let greatest := if bLast then b else d
  -- The other two, in the order in which they stood.
  let left := if cFirst then a else if bLast then c else b
  let right := if bLast then d else if cFirst then b else c
  let between := if less right left then [right, left] else [left, right]
  least :: between ++ [greatest]

/-- A half of at least eight items: the first four in order, the others put in. -/
def sortHalf : List α → List α
  | a :: b :: c :: d :: rest => insertAll less (sortFour less a b c d) rest
  | items => insertionSort less items

/-! ### Halves -/

/-- Items taken from two lists, and how many of them from each. -/
structure Taken (α : Type) where
  items : List α := []
  left : Nat := 0
  right : Nat := 0

namespace Taken

def fromLeft (x : α) (t : Taken α) : Taken α :=
  { t with items := x :: t.items, left := t.left + 1 }

def fromRight (x : α) (t : Taken α) : Taken α :=
  { t with items := x :: t.items, right := t.right + 1 }

end Taken

/-- Take the least item of two sorted lists, some times. -/
def takeLeast : Nat → List α → List α → Taken α
  | n + 1, x :: left, y :: right =>
    if less y x then (takeLeast n (x :: left) right).fromRight y
    else (takeLeast n left (y :: right)).fromLeft x
  | _, _, _ => {}

/-- Take the greatest item of two sorted lists that are given backwards, some times. -/
def takeGreatest : Nat → List α → List α → Taken α
  | n + 1, x :: left, y :: right =>
    if less y x then (takeGreatest n left (y :: right)).fromLeft x
    else (takeGreatest n (x :: left) right).fromRight y
  | _, _, _ => {}

/-- The item that is left over between both ends, in the left half if there is any. -/
def takeOver (left right : List α) (low high : Taken α) : Taken α :=
  if low.left + high.left < left.length then
    { low with items := low.items ++ left[low.left]?.toList, left := low.left + 1 }
  else { low with items := low.items ++ right[low.right]?.toList, right := low.right + 1 }

/-- Merge two sorted halves from both ends; the right one may be longer by an item. -/
def mergeHalves (left right : List α) : Option (List α) :=
  let low := takeLeast less left.length left right
  let high := takeGreatest less left.length left.reverse right.reverse
  let low := if left.length = right.length then low else takeOver left right low high
  if low.left + high.left = left.length ∧ low.right + high.right = right.length then
    some (low.items ++ high.items.reverse)
  else none

/-- Sort at most thirty-two items. -/
def sortSmall (items : List α) : Option (List α) :=
  if items.length < 2 then some items
  else
    let (left, right) := items.splitAt (items.length / 2)
    if 8 ≤ items.length then mergeHalves less (sortHalf less left) (sortHalf less right)
    else mergeHalves less (insertionSort less left) (insertionSort less right)

end BookmarkViews.Sorting
