import BookmarkViews.Run.Arrangement
import BookmarkViews.Run.Composition
import BookmarkViews.Run.Grouping
import BookmarkViews.Run.Plan

/-!
Running a query.

After preparation every view is run once, in the order in which it was prepared,
and its rows are kept for the views after it. Only views that do not refer to
others ask the store, so there are at most as many requests as such views.
-/

namespace BookmarkViews

variable [PatternEngine]

/-- What a run reads besides the store. -/
structure RunContext where
  store : Store
  now : Instant
  /-- Whether filters may be pushed to the store. -/
  pushdown : Bool := true

/-- The rows of a query and the kind of rows they are. -/
structure QueryRows where
  entity : Entity
  rows : List Row
  groupColumns : List String

namespace PreparedView

/-- Whether a row passes all tests. -/
def passesAll (now : Instant) (schema : Schema) (tests : List FieldTest) (row : Row) : Bool :=
  tests.all (FieldTest.passes now schema row)

/-- Whether a row passes one of the tests. -/
def passesAny (now : Instant) (schema : Schema) (tests : List FieldTest) (row : Row) : Bool :=
  tests.any (FieldTest.passes now schema row)

/-- What becomes of the rows that pass the filters: exclusion, grouping, and the
conditions on groups. -/
def selected (p : PreparedView) (now : Instant) (rows : List Row) : List Row :=
  let kept := rows.filter fun row => !passesAny now p.shape.input p.exclude row
  let grouped :=
    if p.shape.isAggregate then
      Grouping.aggregate p.view.groupBy p.shape.compute p.shape.input kept
    else kept
  grouped.filter (passesAll now p.shape.output p.having)

/-- The rows that a view answers, from those that pass its filters: what is selected, in
order, and a page of it. -/
def finish (p : PreparedView) (now : Instant) (rows : List Row) : Except RunFailure (List Row) :=
  match sortRows p.shape.output p.view.sort (p.selected now rows) with
  | some sorted => .ok (page p.view.offset p.view.limit sorted)
  | none => .error .disorder

/-- The stored entity whose rows a view reads. -/
def storedEntity (p : PreparedView) : Entity :=
  p.shape.input.entity.stored

/-- How the filters of a view are split. -/
def plan (p : PreparedView) (ctx : RunContext) : FetchPlan :=
  FetchPlan.of ctx.pushdown ctx.store p.storedEntity p.filters

/-- The rows of a view that refers to others. -/
def runComposed (p : PreparedView) (now : Instant) (views : PreparedViews)
    (table : Composition.RowTable) : Except RunFailure (List Row) :=
  let rows := Composition.compose views table p.view
  p.finish now (rows.filter (passesAll now p.shape.input p.filters))

/-- The rows of a view that reads the store. -/
def runStored (p : PreparedView) (ctx : RunContext) : Fetching (List Row) := do
  let plan := p.plan ctx
  let fetched ← ctx.store.request p.storedEntity plan.pushed
  .given (p.finish ctx.now (fetched.filter (passesAll ctx.now p.shape.input plan.residual)))

/-- The rows of a view, given the rows of the views it refers to. -/
def run (p : PreparedView) (ctx : RunContext) (views : PreparedViews)
    (table : Composition.RowTable) : Fetching (List Row) :=
  if p.view.isComposed then .given (p.runComposed ctx.now views table) else p.runStored ctx

end PreparedView

/-- Run views one after another and keep the rows of each. -/
def runViews (ctx : RunContext) (views : PreparedViews) :
    (rest : PreparedViews) → (table : Composition.RowTable) → Fetching Composition.RowTable
  | [], table => pure table
  | (name, p) :: rest, table => do
    let rows ← p.run ctx views table
    runViews ctx views rest (table ++ [(name, rows)])

/-- Run a prepared query. -/
def runPrepared (ctx : RunContext) (top : PreparedView) (views : PreparedViews) :
    Fetching (List Row) := do
  let table ← runViews ctx views views []
  top.run ctx views table

/-- The answer of an execution, and the requests it made. -/
structure Execution where
  result : Except QueryError QueryRows
  requests : List FetchRequest := []

/-- Execute a query. Nothing is asked of the store unless preparation succeeds. -/
def execute (ctx : RunContext) (r : Registry) (supplied : Params) (v : View) : Execution :=
  match r.prepare supplied v with
  | .error e => { result := .error e }
  | .ok (top, views) =>
    let (rows, requests) := (runPrepared ctx top views).run.run []
    { result := (rows.mapError .failed).map fun rows =>
        ⟨top.shape.entity, rows, top.groupColumns⟩
      requests }

/-- Execute the registered view of a name. -/
def executeNamed (ctx : RunContext) (r : Registry) (supplied : Params) (name : String) :
    Execution :=
  match r.find? name with
  | some v => execute ctx r supplied v
  | none => { result := .error (.run (.missingView name name)) }

end BookmarkViews
