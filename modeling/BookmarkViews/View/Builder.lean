import BookmarkViews.View.Check

/-!
Building views clause by clause.

A clause that cannot be read is left out and remembered as the reason why no view
can be built; the first such reason counts. A reason names the view as it is
called when the clause is added.
-/

namespace BookmarkViews

variable [PatternEngine]

/-- A view under construction. -/
structure ViewBuilder where
  view : View := {}
  error : Option ViewError := none

namespace ViewBuilder

/-- Remember why no view can be built. -/
def fail (b : ViewBuilder) (e : ViewError) : ViewBuilder :=
  { b with error := b.error.or (some e) }

/-- Change the view under construction. -/
def change (b : ViewBuilder) (f : View → View) : ViewBuilder :=
  { b with view := f b.view }

def named (b : ViewBuilder) (name : String) : ViewBuilder :=
  b.change ({ · with name })

def describe (b : ViewBuilder) (text : String) : ViewBuilder :=
  b.change ({ · with description := some text })

/-- Set the entity; it may be set again only to the same. -/
def entity (b : ViewBuilder) (e : Entity) : ViewBuilder :=
  let b := if b.view.entity.any (· != e) then
      b.fail (.definition b.view.name .conflictingEntities)
    else b
  b.change ({ · with entity := some e })

/-- Take the rows of an entity or of a view. -/
def source (b : ViewBuilder) (name : String) : ViewBuilder :=
  match Entity.ofName? name with
  | some e => b.entity e
  | none => b.change ({ · with source := some (Text.trimmed name) })

/-- The requirement that a field meets a condition. -/
def requirement? (field : String) (draft : Except Malformed Draft) :
    Except Malformed Requirement := do
  let path ← FieldPath.read? field
  let draft ← draft
  return ⟨path, draft⟩

/-- Add a requirement, or remember why it cannot be read. -/
def require (b : ViewBuilder) (field : String) (draft : Except Malformed Draft)
    (add : Requirement → View → View) : ViewBuilder :=
  match requirement? field draft with
  | .ok r => b.change (add r)
  | .error m => b.fail (.condition b.view.name field m)

def filter (b : ViewBuilder) (field text : String) : ViewBuilder :=
  b.require field (Draft.ofText? text) fun r v => { v with filters := v.filters ++ [r] }

/-- Add a condition that is read already. -/
def filterBy (b : ViewBuilder) (field : String) (c : Condition) : ViewBuilder :=
  b.require field (.ok (.ready c)) fun r v => { v with filters := v.filters ++ [r] }

def having (b : ViewBuilder) (field text : String) : ViewBuilder :=
  b.require field (Draft.ofText? text) fun r v => { v with having := v.having ++ [r] }

def exclude (b : ViewBuilder) (field text : String) : ViewBuilder :=
  b.require field (Draft.ofText? text) fun r v => { v with exclude := v.exclude ++ [r] }

/-- Add the sort keys that a text writes. -/
def sort (b : ViewBuilder) (text : String) : ViewBuilder :=
  match SortKey.readAll? text with
  | .ok keys => b.change fun v => { v with sort := v.sort ++ keys }
  | .error fault => b.fail (.sort b.view.name text fault)

def sortBy (b : ViewBuilder) (key : SortKey) : ViewBuilder :=
  b.change fun v => { v with sort := v.sort ++ [key] }

def limit (b : ViewBuilder) (n : Nat) : ViewBuilder :=
  b.change ({ · with limit := some n })

def offset (b : ViewBuilder) (n : Nat) : ViewBuilder :=
  b.change ({ · with offset := n })

/-- Group by one more field. -/
def groupByOne (b : ViewBuilder) (field : String) : ViewBuilder :=
  match FieldPath.read? field with
  | .ok path => b.change fun v => { v with groupBy := v.groupBy ++ [path] }
  | .error m => b.fail (.definition b.view.name (.groupField m))

def groupBy (b : ViewBuilder) (fields : List String) : ViewBuilder :=
  fields.foldl groupByOne b

/-- Compute a column. -/
def compute (b : ViewBuilder) (name text : String) : ViewBuilder :=
  match Aggregate.read? text with
  | .ok (fn, field) => b.change fun v => { v with compute := v.compute ++ [⟨name, fn, field⟩] }
  | .error fault => b.fail (.compute b.view.name text (.unreadable fault))

def union (b : ViewBuilder) (view : String) : ViewBuilder :=
  b.change fun v => { v with union := v.union ++ [Text.trimmed view] }

def intersect (b : ViewBuilder) (view : String) : ViewBuilder :=
  b.change fun v => { v with intersect := v.intersect ++ [Text.trimmed view] }

def param (b : ViewBuilder) (name : String) (spec : ParamSpec) : ViewBuilder :=
  b.change fun v => { v with params := Keyed.insert v.params name spec }

/-- The view, if every clause could be read and the whole passes its checks. -/
def build? (b : ViewBuilder) : Except ViewError View :=
  match b.error with
  | some e => .error e
  | none => b.view.checked?

end ViewBuilder

end BookmarkViews
