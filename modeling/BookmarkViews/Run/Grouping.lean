import BookmarkViews.Schema.Shape
import BookmarkViews.Value.Order

/-!
Grouping rows and computing columns.

Two rows belong to one group when their values of the grouping fields have the
same JSON text; a missing value counts as null. Groups come in the order of their
first rows. Without grouping fields all rows are one group, also when there are
none.
-/

namespace BookmarkViews

namespace Grouping

/-- The values by which a row is grouped. -/
def keyOf (fields : List FieldPath) (row : Row) : List Value :=
  fields.map (Row.at row)

/-- The text of the values by which a row is grouped. -/
def keyText (fields : List FieldPath) (row : Row) : String :=
  (Value.list (keyOf fields row)).compact

/-- The groups of rows: the key of each group and its rows in order. -/
def groups (fields : List FieldPath) (rows : List Row) : List (List Value × List Row) :=
  if fields.isEmpty then [([], rows)]
  else
    let labelled := rows.map fun row => (keyText fields row, row)
    let texts := (labelled.map (·.1)).eraseDups
    texts.map fun text =>
      let members := (labelled.filter (·.1 == text)).map (·.2)
      (keyOf fields (members.headD []), members)

/-! ### Columns -/

/-- The values of a field that are not null. -/
def presentValues (field : FieldPath) (rows : List Row) : List Value :=
  (rows.filterMap fun row => Row.lookup row field).filter (!·.isNull)

/-- The sum of integers as long as it has 64 bits. -/
def intTotal? (total : Option Int) (n : Number) : Option Int :=
  match total, n.int64? with
  | some t, some i => if Decimal.fits64 (t + i) then some (t + i) else none
  | _, _ => none

/-- The numbers among values. -/
def numbers (values : List Value) : List Number :=
  values.filterMap fun
    | .number n => some n
    | _ => none

/-- The sum of the numbers: an integer while all are integers, else a double. -/
def sum (values : List Value) : Value :=
  let ns := numbers values
  match ns.foldl intTotal? (some 0) with
  | some total => .ofInt total
  | none => .ofFloat (ns.foldl (fun x n => x.add n.toFloat) Binary64.zero)

/-- The mean of the numbers, null when there are none. -/
def mean (values : List Value) : Value :=
  let xs := (numbers values).map Number.toFloat
  if xs.isEmpty then .null
  else
    let total := xs.foldl Binary64.add Binary64.zero.neg
    if total.isFinite then .ofFloat (total.div (Binary64.ofInt xs.length)) else .null

/-- The first of the values that stands in the wanted order to all others, null
when there are none. -/
def extreme (type : Option FieldType) (wanted : Ordering) : List Value → Value
  | [] => .null
  | v :: vs => vs.foldl (fun best w => if Value.order type w best = wanted then w else best) v

/-- The value of a computed column for the rows of a group. -/
def computeOne (input : Schema) (rows : List Row) (a : Aggregate) : Value :=
  match a.field with
  | none => .ofInt rows.length
  | some field =>
    let values := presentValues field rows
    match a.fn with
    | .count => .ofInt values.length
    | .sum => sum values
    | .avg => mean values
    | .min => extreme (input.typeOf field) .lt values
    | .max => extreme (input.typeOf field) .gt values

/-- The row of a group: the grouping columns, then the computed ones. -/
def rowOf (fields : List FieldPath) (compute : List Aggregate) (input : Schema)
    (group : List Value × List Row) : Row :=
  Keyed.insertAll
    (Keyed.ofEntries ((fields.map FieldPath.text).zip group.1))
    (compute.map fun a => (a.name, computeOne input group.2 a))

/-- The rows of all groups. -/
def aggregate (fields : List FieldPath) (compute : List Aggregate) (input : Schema)
    (rows : List Row) : List Row :=
  (groups fields rows).map (rowOf fields compute input)

end Grouping

end BookmarkViews
