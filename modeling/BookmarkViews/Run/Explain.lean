import BookmarkViews.Run.Execute

/-!
What an execution would do, told without asking the store.
-/

namespace BookmarkViews

variable [PatternEngine]

structure Explanation where
  prepared : PreparedView
  /-- The views that run first, each after those it refers to. -/
  views : List String
  /-- How the filters are split; nothing when the rows come from views. -/
  plan : Option FetchPlan

/-- Prepare a query and tell what its execution would do. -/
def explain (ctx : RunContext) (r : Registry) (supplied : Params) (v : View) :
    Except QueryError Explanation := do
  let (top, views) ← r.prepare supplied v
  let plan := if v.isComposed then none else some (top.plan ctx)
  return { prepared := top, views := Keyed.keys views, plan }

namespace Explanation

/-- The names of the columns of the result. -/
def columns (e : Explanation) : List String :=
  e.prepared.shape.output.names

/-- A line that is left out when there is nothing to list. -/
def listLine (label separator : String) (items : List String) : String :=
  if items.isEmpty then "" else label ++ ": " ++ separator.intercalate items ++ "\n"

/-- A block of tests that is left out when there are none. -/
def testBlock (label : String) (tests : List FieldTest) : String :=
  if tests.isEmpty then "" else FetchPlan.listing label (tests.map FieldTest.text)

/-- The text of an explanation. -/
def text (e : Explanation) : String :=
  let v := e.prepared.view
  let shape := e.prepared.shape
  let filters := match e.plan with
    | some plan => plan.text
    | none => FetchPlan.listing "in-memory filters" (e.prepared.filters.map FieldTest.text)
  let cut := match v.limit with
    | some limit => s!"limit {limit}"
    | none => "no limit"
  let columns := ", ".intercalate e.columns
  s!"query: {v.name}\n" ++
    s!"entity: {shape.entity.name} (input: {shape.input.entity.name})\n" ++
    s!"columns: {columns}\n" ++
    listLine "compute" ", " (shape.compute.map Aggregate.text) ++
    listLine "views" " -> " e.views ++
    filters ++
    testBlock "exclude" e.prepared.exclude ++
    testBlock "having" e.prepared.having ++
    listLine "sort" ", " (v.sort.map SortKey.text) ++
    s!"page: offset {v.offset}, {cut}\n"

end Explanation

end BookmarkViews
