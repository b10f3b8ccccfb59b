import BookmarkViews.Run.Explain
import BookmarkViews.Store.Memory

/-!
Checking the views of a registry without records.

A view is checked by explaining it with no parameters. That a required parameter is
missing says nothing against it, and references to views that do not exist are
listed on their own.
-/

namespace BookmarkViews

variable [PatternEngine]

/-- What is wrong with a view. -/
inductive Finding where
  | unresolved (view reference : String)
  | query (view : String) (e : QueryError)
deriving DecidableEq, Repr

def Finding.message : Finding → String
  | .unresolved view reference => s!"view '{view}': unresolved view reference '{reference}'"
  | .query view e => s!"view '{view}': {e.message}"

/-- Whether an error of a check is no finding. -/
def QueryError.isForgiven : QueryError → Bool
  | .run (.missingParam _ _) | .run (.missingView _ _) => true
  | _ => false

namespace RunContext

/-- A context without records. -/
def withoutRecords : RunContext :=
  { store := ({} : MemoryRecords).store, now := ⟨0, 0⟩ }

end RunContext

namespace Registry

/-- The references to views that do not exist. -/
def unresolvedReferences (r : Registry) : List Finding :=
  r.views.flatMap fun v =>
    (v.references.filter (!r.contains ·)).map (.unresolved v.name)

/-- What a check finds in one view. -/
def check? (r : Registry) (v : View) : Option Finding :=
  match explain .withoutRecords r [] v with
  | .ok _ => none
  | .error e => if e.isForgiven then none else some (.query v.name e)

/-- What is wrong with the views of a registry. -/
def findings (r : Registry) : List Finding :=
  r.unresolvedReferences ++ r.views.filterMap r.check?

/-- The entity of the rows of a view: the declared one where the view cannot be
explained. -/
def entityOf? (r : Registry) (v : View) : Option Entity :=
  match explain .withoutRecords r [] v with
  | .ok e => some e.prepared.shape.entity
  | .error _ => v.entity

end Registry

end BookmarkViews
