import BookmarkViews.Field

/-!
Aggregates: the columns that a grouping computes, and the texts that write them,
such as `sum(stars)`.
-/

namespace BookmarkViews

inductive AggregateFn where
  | count
  | sum
  | avg
  | min
  | max
deriving DecidableEq, Repr

namespace AggregateFn

def name : AggregateFn → String
  | .count => "count"
  | .sum => "sum"
  | .avg => "avg"
  | .min => "min"
  | .max => "max"

/-- The function of a name, in any case. -/
def ofName? (s : String) : Option AggregateFn :=
  match Text.asciiLowered (Text.trimmed s) with
  | "count" => some .count
  | "sum" => some .sum
  | "avg" => some .avg
  | "min" => some .min
  | "max" => some .max
  | _ => none

end AggregateFn

/-- A column computed from the rows of a group. -/
structure Aggregate where
  name : String
  fn : AggregateFn
  field : Option FieldPath := none
deriving DecidableEq, Repr

/-- Why the text of an aggregate cannot be read. -/
inductive AggregateFault where
  | unclosed
  | unknown (name : String)
  | field (fault : Fault)
deriving DecidableEq, Repr

def AggregateFault.text : AggregateFault → String
  | .unclosed => "expected closing ')'"
  | .unknown name => s!"unknown aggregate '{name}' (count, sum, avg, min, max)"
  | .field fault => fault.text

namespace Aggregate

/-- The number of rows. -/
def count (name : String) : Aggregate :=
  { name, fn := .count }

/-- The name of a column without one of its own. -/
def defaultName (fn : AggregateFn) : Option FieldPath → String
  | none => fn.name
  | some field => fn.name ++ "_" ++ "_".intercalate field.segments

/-- The text of an aggregate with its name. -/
def text (a : Aggregate) : String :=
  match a.field with
  | some field => s!"{a.name}: {a.fn.name}({field.text})"
  | none => s!"{a.name}: {a.fn.name}()"

/-- The function part and the operand part of a text. -/
def split? (cs : List Char) : Except AggregateFault (List Char × List Char) :=
  match Text.breakAt (· == '(') cs with
  | (fn, []) => .ok (fn, [])
  | (fn, _ :: rest) =>
    match Text.before? [')'] rest with
    | some inner => .ok (fn, Text.trim inner)
    | none => .error .unclosed

/-- Read a function and its field, if there is one. -/
def read? (s : String) : Except AggregateFault (AggregateFn × Option FieldPath) := do
  let (fn, inner) ← split? (Text.trim s.toList)
  match AggregateFn.ofName? (String.ofList fn) with
  | none => .error (.unknown (String.ofList (Text.trim fn)))
  | some fn =>
    if inner.isEmpty then return (fn, none)
    else
      let field ← (FieldPath.read? (String.ofList inner)).mapError fun m => .field m.fault
      return (fn, some field)

end Aggregate

end BookmarkViews
