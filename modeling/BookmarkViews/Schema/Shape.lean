import BookmarkViews.Run.Error
import BookmarkViews.Schema.Basic

/-!
The shape of a view: the kind of rows it yields, and the columns before and after
grouping.

`Shape.resolve` finds the shape from those of the views referred to, and
`Shape.checkFields` refuses fields that do not exist where they are used.
-/

namespace BookmarkViews

structure Shape where
  entity : Entity
  input : Schema
  output : Schema
  /-- The columns to compute; none when the view does not group. -/
  compute : List Aggregate
deriving DecidableEq, Repr

namespace Shape

/-- Whether the rows are grouped. -/
def isAggregate (s : Shape) : Bool :=
  !s.compute.isEmpty

/-- The type of a computed column. -/
def typeOfAggregate (input : Schema) (a : Aggregate) : Option FieldType :=
  let type := a.field.bind input.typeOf
  match a.fn with
  | .count => some .int
  | .avg => some .float
  | .sum => type.filter FieldType.isNumeric
  | .min | .max => type

/-- The columns to compute; rows are counted where nothing else is asked. -/
def effectiveCompute (v : View) : List Aggregate :=
  if v.compute.isEmpty then [Aggregate.count "count"] else v.compute

/-- The columns after grouping. -/
def grouped (v : View) (input : Schema) : Schema :=
  let withGroups := v.groupBy.foldl (fun s g => s.withColumn g.text (input.typeOf g)) (Schema.of .stats)
  (effectiveCompute v).foldl (fun s a => s.withColumn a.name (typeOfAggregate input a)) withGroups

/-- The entity of a view, given the shape of the view it refers to first. -/
def entityOf (v : View) (source : Option Shape) : Entity :=
  match v.entity with
  | some e => e
  | none => if v.isAggregate then .stats else (source.map Shape.entity).getD .bookmark

/-- The columns before grouping. -/
def inputOf (entity : Entity) (source : Option Shape) : Schema :=
  match entity, source with
  | .stats, some s => s.output
  | .stats, none => Schema.of .bookmark
  | other, _ => Schema.of other

/-- Whether rows are grouped: statistics are, unless they are passed on as they
come. -/
def groups (v : View) (entity : Entity) (input : Schema) : Bool :=
  entity = .stats && !(input.entity = .stats && !v.isAggregate)

/-- The shape of a view before its references are checked. -/
def ofView (v : View) (shapeOf : String → Option Shape) : Shape :=
  let source := v.mentions.head?.bind shapeOf
  let entity := entityOf v source
  let input := inputOf entity source
  if groups v entity input then
    { entity, input, output := grouped v input, compute := effectiveCompute v }
  else
    { entity, input, output := input, compute := [] }

/-- Check that every view referred to yields the rows that are read. -/
def checkReferences (view : String) (expected : Entity) (shapeOf : String → Option Shape) :
    List String → Except RunError Unit
  | [] => .ok ()
  | name :: rest =>
    match shapeOf name with
    | none => checkReferences view expected shapeOf rest
    | some s =>
      if s.entity = expected then checkReferences view expected shapeOf rest
      else .error (.entityMismatch view name expected s.entity)

/-- The shape of a view, given the shapes of the views that are known. -/
def resolve (v : View) (shapeOf : String → Option Shape) : Except RunError Shape :=
  let shape := ofView v shapeOf
  (checkReferences v.name shape.input.entity shapeOf v.references).map fun _ => shape

/-- Check that fields exist in a schema. -/
def checkKnown (view : String) (schema : Schema) : List FieldPath → Except RunError Unit
  | [] => .ok ()
  | field :: rest =>
    if schema.contains field then checkKnown view schema rest
    else .error (.unknownField view field.text schema.entity)

/-- Check that the operands of aggregates exist. -/
def checkOperands (view : String) (schema : Schema) : List Aggregate → Except RunError Unit
  | [] => .ok ()
  | a :: rest =>
    match a.field with
    | none => checkOperands view schema rest
    | some field =>
      if schema.contains field then checkOperands view schema rest
      else .error (.unknownOperand view a.name field.text)

/-- The fields that are read before grouping. -/
def inputFields (v : View) : List FieldPath :=
  v.filters.map Requirement.field ++ v.exclude.map Requirement.field ++ v.groupBy

/-- The fields that are read after grouping. -/
def outputFields (v : View) : List FieldPath :=
  v.having.map Requirement.field ++ v.sort.map SortKey.field

/-- Check that every field that a view names exists where it is used. -/
def checkFields (s : Shape) (v : View) : Except RunError Unit := do
  checkKnown v.name s.input (inputFields v)
  checkOperands v.name s.input v.compute
  checkKnown v.name s.output (outputFields v)

end Shape

end BookmarkViews
