import BookmarkViews.Schema.Shape
import BookmarkViews.Store.Basic
import BookmarkViews.View.Registry

/-!
Preparing a query: everything that can fail before the store is asked.

The views that the query refers to, directly or through others, are prepared first
and listed once each, every one after those it refers to. The names on the way
down are kept, so a circle is found when a name comes up again. The way can only
grow by registered views that are not on it yet, which is why preparation ends.
-/

namespace BookmarkViews

/-- A view ready to run. -/
structure PreparedView where
  view : View
  shape : Shape
  /-- The columns that tell rows of statistics apart. -/
  groupColumns : List String
  filters : List FieldTest
  exclude : List FieldTest
  having : List FieldTest

/-- Prepared views by name, each after those it refers to. -/
abbrev PreparedViews := List (String × PreparedView)

/-- The shape of a prepared view. -/
def PreparedViews.shape? (views : PreparedViews) (name : String) : Option Shape :=
  (Keyed.get? views name).map PreparedView.shape

namespace View

/-- Bind the declared parameters to supplied values or defaults. -/
def bindParams? (view : String) (supplied : Params) :
    List (String × ParamSpec) → Except RunError Params
  | [] => .ok []
  | (name, spec) :: rest =>
    match (Keyed.get? supplied name).or spec.default with
    | none => .error (.missingParam view name)
    | some v =>
      match spec.coerce? v with
      | .error fault => .error (.badParam view name fault)
      | .ok v => do
        let bound ← bindParams? view supplied rest
        return (name, v) :: bound

/-- The test that a requirement becomes once its parameters are bound. -/
def resolve? [PatternEngine] (view : String) (params : Params) (r : Requirement) :
    Except ViewError FieldTest :=
  match r.draft.resolve? params with
  | .ok c => .ok ⟨r.field, c⟩
  | .error m => .error (.condition view r.field.text m)

/-- The columns that tell the rows of a view apart, when they are statistics. -/
def groupColumnsOf (v : View) (shape : Shape) (views : PreparedViews) : List String :=
  if shape.isAggregate then v.groupBy.map FieldPath.text
  else if shape.entity = .stats then
    ((v.references.head?.bind (Keyed.get? views)).map PreparedView.groupColumns).getD []
  else []

/-- Prepare a view whose references are prepared. -/
def prepareAlone [PatternEngine] (v : View) (supplied : Params) (views : PreparedViews) :
    Except QueryError PreparedView := do
  let shape ← (Shape.resolve v views.shape?).mapError .run
  (shape.checkFields v).mapError .run
  let params ← (bindParams? v.name supplied v.params).mapError .run
  let filters ← (v.filters.mapM (resolve? v.name params)).mapError .view
  let exclude ← (v.exclude.mapM (resolve? v.name params)).mapError .view
  let having ← (v.having.mapM (resolve? v.name params)).mapError .view
  return { view := v, shape, groupColumns := groupColumnsOf v shape views, filters, exclude, having }

end View

namespace Registry

/-- The registered names that are not on the way. -/
def unvisited (r : Registry) (way : List String) : List String :=
  r.names.filter fun name => !way.contains name

/-- The part of the way from a name on, closed by the name itself. -/
def circle (way : List String) (name : String) : List String :=
  way.dropWhile (· != name) ++ [name]

theorem length_unvisited_append_lt {r : Registry} {way : List String} {name : String}
    (registered : r.contains name = true) (new : way.contains name = false) :
    (r.unvisited (way ++ [name])).length < (r.unvisited way).length := by
  have h : name ∈ r.unvisited way := by
    simp only [unvisited, List.mem_filter]
    exact ⟨contains_iff.1 registered, by simpa using new⟩
  have hsub : r.unvisited (way ++ [name]) = (r.unvisited way).filter fun n => n != name := by
    simp only [unvisited, List.filter_filter]
    apply List.filter_congr
    intro n _
    by_cases hn : n = name <;> simp [hn, List.contains_eq_mem]
  rw [hsub]
  exact List.length_filter_lt_length_iff_exists.2 ⟨name, h, by simp⟩

theorem contains_of_find? {r : Registry} {name : String} {v : View}
    (h : r.find? name = some v) : r.contains name = true := by
  have := List.find?_some h
  exact List.any_eq_true.2 ⟨v, List.mem_of_find?_eq_some h, this⟩

/-- Prepare the views that a view refers to, in order, after the views prepared so
far. -/
def prepareReferences [PatternEngine] (r : Registry) (supplied : Params) (view : String)
    (way names : List String) (views : PreparedViews) : Except QueryError PreparedViews :=
  match names with
  | [] => .ok views
  | name :: rest =>
    if _new : way.contains name = false then
      if Keyed.has views name then prepareReferences r supplied view way rest views
      else match _found : r.find? name with
        | none => .error (.run (.missingView view name))
        | some v => do
          let below ← prepareReferences r supplied v.name (way ++ [name]) v.references views
          let prepared ← v.prepareAlone supplied below
          prepareReferences r supplied view way rest (below ++ [(name, prepared)])
    else .error (.run (.cycle (circle way name)))
termination_by ((r.unvisited way).length, names.length)
decreasing_by
  · exact Prod.Lex.right _ (by simp)
  · exact Prod.Lex.left _ _ (length_unvisited_append_lt (contains_of_find? _found) _new)
  · exact Prod.Lex.right _ (by simp)

/-- Prepare a query: the query itself, and the views it needs. -/
def prepare [PatternEngine] (r : Registry) (supplied : Params) (v : View) :
    Except QueryError (PreparedView × PreparedViews) := do
  let views ← prepareReferences r supplied v.name [v.name] v.references []
  let top ← v.prepareAlone supplied views
  return (top, views)

end Registry

end BookmarkViews
