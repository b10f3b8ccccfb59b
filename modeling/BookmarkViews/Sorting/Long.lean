import BookmarkViews.Sorting.Small

/-!
Sorting many items.

A list is cut into runs. A run that stands in order already is kept; other items are sorted
at once in short lists, and in longer ones are left unsorted as long as their neighbours are
unsorted too. Runs are merged along a tree that depends on their places only. What is left
unsorted is partitioned by pivots down to thirty-two items, which are sorted in halves.
Pivots that are bad too often are given up for short runs.

Every step gives a permutation of its items, or nothing when the sort of a few items gives up.
-/

namespace BookmarkViews.Sorting

variable {α : Type} (less : α → α → Bool)

/-- As many items are sorted in halves. -/
def smallLength : Nat :=
  32

/-! ### Runs -/

/-- Items next to each other, in order or not yet. -/
structure Run (α : Type) where
  items : List α
  sorted : Bool

namespace Run

def length (r : Run α) : Nat :=
  r.items.length

/-- The items of a run in order. `later?` sorts the runs that are left unsorted; there are
none without it. -/
def settle (later? : Option (List α → Option (List α))) (r : Run α) : Option (List α) :=
  match r.sorted, later? with
  | false, some sort => sort r.items
  | _, _ => some r.items

end Run

/-- Merge two sorted runs, the shorter one into the longer one. -/
def mergeRuns (left right : List α) : List α :=
  if left.length ≤ right.length then left.merge right fun x y => !less y x
  else (right.reverse.merge left.reverse fun y x => !less y x).reverse

/-- Make one run of two neighbours. Two unsorted ones stay so, as long as the memory that
sorts them has room. -/
def joinRuns (later? : Option (List α → Option (List α))) (room : Nat) (left right : Run α) :
    Option (Run α) := do
  if left.sorted || right.sorted || room < left.length + right.length then
    return ⟨mergeRuns less (← left.settle later?) (← right.settle later?), true⟩
  return ⟨left.items ++ right.items, false⟩

/-- How many items stand in one order with the last one. -/
def runLength (goesOn : α → α → Bool) : α → List α → Nat
  | _, [] => 0
  | last, x :: rest => if goesOn last x then runLength goesOn x rest + 1 else 0

/-- The length of the run at the front, and whether it descends strictly. -/
def frontRun : List α → Nat × Bool
  | x :: y :: rest =>
    let descends := less y x
    (2 + runLength (fun last x => less x last == descends) y rest, descends)
  | items => (items.length, false)

/-- The first run of a list and the items behind it. -/
def cutRun (later : Bool) (goodLength : Nat) (items : List α) : Option (Run α × List α) :=
  let (length, descends) := frontRun less items
  if goodLength ≤ items.length ∧ goodLength ≤ length then
    let (run, rest) := items.splitAt length
    some (⟨if descends then run.reverse else run, true⟩, rest)
  else if later then
    let (run, rest) := items.splitAt goodLength
    some (⟨run, false⟩, rest)
  else do
    let (run, rest) := items.splitAt smallLength
    return (⟨← sortSmall less run, true⟩, rest)

/-- The runs of a list. It has at most as many of them as items. -/
def cutRuns (later : Bool) (goodLength : Nat) : Nat → List α → Option (List (Run α))
  | _, [] => some []
  | 0, _ => some []
  | n + 1, items => do
    let (run, rest) ← cutRun less later goodLength items
    return run :: (← cutRuns later goodLength n rest)

/-! ### The tree of runs -/

/-- The depth of the place between two runs in the tree of runs of `n` items: how many bits
the middles of both runs share, as parts of the whole. -/
def depthBetween (n first between last : Nat) : Nat :=
  let scale := ((1 <<< 62) + n - 1) / n
  let difference := (scale * (first + between)) ^^^ (scale * (between + last))
  if difference = 0 then 64 else 63 - difference.log2

/-- Join the last run with those before it that lie as deep in the tree, or deeper. -/
def joinDeeper (join : Run α → Run α → Option (Run α)) (depth : Nat) :
    List (Nat × Run α) → Run α → Option (List (Nat × Run α) × Run α)
  | (deep, left) :: before, last =>
    if depth ≤ deep then do joinDeeper join depth before (← join left last)
    else some ((deep, left) :: before, last)
  | [], last => some ([], last)

/-- Join runs along their tree; `place` is the place behind the last one of them. -/
def joinAlong (join : Run α → Run α → Option (Run α)) (n : Nat) :
    List (Nat × Run α) → (place : Nat) → Run α → List (Run α) → Option (Run α)
  | before, _, last, [] => (joinDeeper join 0 before last).map (·.2)
  | before, place, last, next :: runs => do
    let depth := depthBetween n (place - last.length) place (place + next.length)
    let (before, last) ← joinDeeper join depth before last
    joinAlong join n ((depth, last) :: before) (place + next.length) next runs

/-- Half the bits of a number make about its root. -/
def rootOf (n : Nat) : Nat :=
  let half := (1 + n.log2) / 2
  ((1 <<< half) + (n >>> half)) / 2

/-- Sort by runs. -/
def sortRuns (later? : Option (List α → Option (List α))) (room : Nat) (items : List α) :
    Option (List α) := do
  let n := items.length
  let goodLength := if n ≤ 64 * 64 then min (n - n / 2) 64 else rootOf n
  match ← cutRuns less later?.isSome goodLength n items with
  | [] => return []
  | first :: runs =>
    (← joinAlong (joinRuns less later? room) n [] first.length first runs).settle later?

/-! ### Pivots -/

/-- The place of the median of the items in three places. -/
def medianOf (item : Nat → α) (a b c : Nat) : Nat :=
  let below := less (item a) (item b)
  if less (item a) (item c) = below then
    if less (item b) (item c) = below then b else c
  else a

/-- A median of medians around three places, each the first of `n` places. -/
def medianAround (item : Nat → α) (n a b c : Nat) : Nat :=
  if 8 ≤ n then
    let around (place : Nat) :=
      medianAround item (n / 8) place (place + n / 8 * 4) (place + n / 8 * 7)
    medianOf less item (around a) (around b) (around c)
  else medianOf less item a b c
termination_by n
decreasing_by all_goals omega

/-- The place of the pivot of a list. -/
def pivotPlace (item : Nat → α) (length : Nat) : Nat :=
  let eighth := length / 8
  medianAround less item eighth 0 (eighth * 4) (eighth * 7)

/-- The items that go before the rest, and the rest; the pivot is not compared. -/
def partitionAt (goesBefore : α → Bool) (place : Nat) (pivotBefore : Bool) (items : List α) :
    List α × List α :=
  let (before, rest) := items.zipIdx.partition fun (x, i) =>
    if i = place then pivotBefore else goesBefore x
  (before.map (·.1), rest.map (·.1))

/-- Sort by pivots, so many times. A list behind a pivot that is not less than it begins
with items that are equal to the pivot. -/
def sortByPivots (room : Nat) : Nat → Option α → List α → Option (List α)
  | _, _, [] => some []
  | 0, _, items =>
    if items.length ≤ smallLength then sortSmall less items
    else sortRuns less none room items
  | limit + 1, ancestor?, first :: rest => do
    let items := first :: rest
    if items.length ≤ smallLength then return ← sortSmall less items
    let array := items.toArray
    let item (i : Nat) := array.getD i first
    let place := pivotPlace less item items.length
    let pivot := item place
    let (before, behind) := partitionAt (less · pivot) place false items
    if before.isEmpty || ancestor?.any (!less · pivot) then
      let (equal, behind) := partitionAt (!less pivot ·) place true items
      return equal ++ (← sortByPivots room limit none behind)
    let behind ← sortByPivots room limit (some pivot) behind
    return (← sortByPivots room limit ancestor? before) ++ behind

/-! ### All lists -/

/-- How many items the sort has room for besides the list, with rows of 72 bytes: all of
them, as long as they take 8 MB at most, and half of them in any case. -/
def roomFor (n : Nat) : Nat :=
  max (max (n - n / 2) (min n (8000000 / 72))) 48

/-- Sort a list by the steps of a stable sort, which may give up where `less` is no order. -/
def sortBySteps (items : List α) : Option (List α) :=
  let n := items.length
  let room := roomFor n
  let byPivots (items : List α) := sortByPivots less room (2 * items.length.log2) none items
  if n ≤ 20 then some (insertionSort less items)
  else sortRuns less (if n ≤ 2 * smallLength then none else some byPivots) room items

end BookmarkViews.Sorting
