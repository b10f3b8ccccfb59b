import BookmarkViews.Param.Spec
import BookmarkViews.View.Aggregate
import BookmarkViews.View.Sorting

/-!
Views: named queries.

A view takes the rows of an entity or of other views, keeps those that meet its
conditions, and may group, sort and cut them.
-/

namespace BookmarkViews

/-- A condition on one field. -/
structure Requirement where
  field : FieldPath
  draft : Draft
deriving DecidableEq

/-- The text of a requirement. -/
def Requirement.text [PatternEngine] (r : Requirement) : String :=
  s!"{r.field.text}: {r.draft.text}"

/-- A named query. -/
structure View where
  name : String := "<anonymous>"
  description : Option String := none
  entity : Option Entity := none
  source : Option String := none
  filters : List Requirement := []
  sort : List SortKey := []
  limit : Option Nat := none
  offset : Nat := 0
  groupBy : List FieldPath := []
  compute : List Aggregate := []
  having : List Requirement := []
  exclude : List Requirement := []
  union : List String := []
  intersect : List String := []
  params : List (String × ParamSpec) := []
deriving DecidableEq

namespace View

/-- Whether a view computes statistics. -/
def isAggregate (v : View) : Bool :=
  !v.groupBy.isEmpty || !v.compute.isEmpty

/-- Whether a view takes its rows from other views. -/
def isComposed (v : View) : Bool :=
  v.source.isSome || !v.union.isEmpty || !v.intersect.isEmpty

/-- All mentions of other views. -/
def mentions (v : View) : List String :=
  v.source.toList ++ v.union ++ v.intersect

/-- The views that a view refers to, each once, in the order of first mention. -/
def references (v : View) : List String :=
  v.mentions.eraseDups

theorem mem_references {v : View} {name : String} : name ∈ v.references ↔ name ∈ v.mentions := by
  rw [references, List.mem_eraseDups]

/-- A view mentions others when it is composed of them. -/
theorem mentions_eq_nil_iff {v : View} : v.mentions = [] ↔ v.isComposed = false := by
  simp [mentions, isComposed, and_assoc]

end View

end BookmarkViews
