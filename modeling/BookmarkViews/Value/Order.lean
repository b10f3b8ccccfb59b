import BookmarkViews.Field
import BookmarkViews.Text.Order
import BookmarkViews.Value.Instant
import BookmarkViews.Value.Json

/-!
The order of the values of one field, which sorting and the extremes of a group
use.

Values of the field's type come in the order of that type. Values that have no
place in it are ordered by kind and then by their JSON text.
-/

namespace BookmarkViews.Value

/-- The type that a value shows by itself. -/
def ownType? : Value → Option FieldType
  | .number n => some (if n.int64?.isSome then .int else .float)
  | .text _ => some .text
  | .bool _ => some .bool
  | _ => none

/-- The place of a kind of value among all kinds. -/
def rank : Value → Nat
  | .null => 0
  | .bool _ => 1
  | .number _ => 2
  | .text _ => 3
  | .list _ => 4
  | .object _ => 5

/-- The order by kind and then by JSON text. -/
def looseOrder (a b : Value) : Ordering :=
  (compare a.rank b.rank).then (Text.order a.compact b.compact)

/-- The order of two numbers: exact among integers of 64 bits, else of the nearest
doubles. -/
def numberOrder (a b : Number) : Ordering :=
  match a.int64?, b.int64? with
  | some i, some j => compare i j
  | _, _ => a.toFloat.totalCompare b.toFloat

/-- The order of two values by date; what is not a date comes last. -/
def dateOrder (a b : Value) : Ordering :=
  match a.instant?, b.instant? with
  | some s, some t => s.compare t
  | some _, none => .lt
  | none, some _ => .gt
  | none, none => looseOrder a b

/-- The order of two values of a field of the given type, or of the first value's
own type. -/
def order (type : Option FieldType) (a b : Value) : Ordering :=
  match type.or a.ownType? with
  | some .date => dateOrder a b
  | some .int | some .float =>
    match a, b with
    | .number m, .number n => numberOrder m n
    | a, b => looseOrder a b
  | some .text =>
    match a, b with
    | .text s, .text t => Text.order s t
    | a, b => looseOrder a b
  | some .bool =>
    match a, b with
    | .bool s, .bool t => compare s t
    | a, b => looseOrder a b
  | _ => looseOrder a b

end BookmarkViews.Value
