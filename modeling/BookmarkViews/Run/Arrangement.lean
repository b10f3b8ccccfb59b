import BookmarkViews.Schema.Basic
import BookmarkViews.Sorting.Basic
import BookmarkViews.Value.Order
import BookmarkViews.View.Sorting

/-!
Sorting rows and cutting out a page.

Sorting is stable. Rows without a value go first or last as the key says, in
either direction. Numbers that are equal as doubles may differ as integers, so there are
rows that their keys do not order, and on some of these the sort gives up.
-/

namespace BookmarkViews

/-- The value to sort by, nothing when it is null. -/
def Row.sortValue? (row : Row) (field : FieldPath) : Option Value :=
  (Row.lookup row field).filter (!·.isNull)

namespace SortKey

/-- The order of two rows by one key. -/
def compareRows (key : SortKey) (type : Option FieldType) (a b : Row) : Ordering :=
  match Row.sortValue? a key.field, Row.sortValue? b key.field with
  | none, none => .eq
  | none, some _ => if key.nulls = .first then .lt else .gt
  | some _, none => if key.nulls = .first then .gt else .lt
  | some x, some y =>
    let order := Value.order type x y
    if key.direction = .ascending then order else order.swap

/-- The order of two rows by all keys, the first key first. -/
def compareAll (schema : Schema) : List SortKey → Row → Row → Ordering
  | [], _, _ => .eq
  | key :: keys, a, b =>
    (key.compareRows (schema.typeOf key.field) a b).then (compareAll schema keys a b)

end SortKey

/-- Rows in the order of the keys, nothing when the sort gives up. Rows that are equal keep
their order, and without keys all do. -/
def sortRows (schema : Schema) (keys : List SortKey) (rows : List Row) : Option (List Row) :=
  if keys.isEmpty then some rows
  else Sorting.stableSort? (SortKey.compareAll schema keys) rows

@[simp] theorem sortRows_nil (schema : Schema) (rows : List Row) :
    sortRows schema [] rows = some rows := rfl

/-- Leave out the first rows and keep at most so many. -/
def page (offset : Nat) (limit : Option Nat) (rows : List Row) : List Row :=
  match limit with
  | some n => (rows.drop offset).take n
  | none => rows.drop offset

@[simp] theorem page_zero_none (rows : List Row) : page 0 none rows = rows := rfl

end BookmarkViews
