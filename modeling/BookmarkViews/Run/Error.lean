import BookmarkViews.View.Error

/-!
Why a query cannot run.
-/

namespace BookmarkViews

/-- Why a well-formed view cannot run. -/
inductive RunError where
  | unknownField (view field : String) (entity : Entity)
  | missingView (view reference : String)
  | missingParam (view param : String)
  | badParam (view param : String) (fault : ParamFault)
  | unknownOperand (view compute field : String)
  | entityMismatch (view reference : String) (expected found : Entity)
  | cycle (path : List String)
deriving DecidableEq, Repr

def RunError.message : RunError → String
  | .unknownField view field entity =>
    s!"query '{view}': unknown field '{field}' for {entity.name}"
  | .missingView view reference => s!"query '{view}': view '{reference}' is not registered"
  | .missingParam view name => s!"query '{view}': required parameter '{name}' was not supplied"
  | .badParam view name fault => s!"query '{view}': parameter '{name}': {fault.text name}"
  | .unknownOperand view compute field =>
    s!"query '{view}': compute '{compute}' references unknown field '{field}'"
  | .entityMismatch view reference expected found =>
    s!"query '{view}': view '{reference}' yields {found.name}, expected {expected.name}"
  | .cycle path => "cyclic view reference: " ++ " -> ".intercalate path

/-- Why a store gives no rows. -/
inductive StoreError where
  | database (reason : String)
  | access (path reason : String)
  | snapshot (path reason : String)
  /-- A clause that the store does not apply. -/
  | unsupported (clause : String)
deriving DecidableEq, Repr

def StoreError.message : StoreError → String
  | .database reason => s!"sqlite: {reason}"
  | .access path reason => s!"cannot access {path}: {reason}"
  | .snapshot path reason => s!"invalid snapshot {path}: {reason}"
  | .unsupported clause => s!"clause not supported by sqlite: {clause}"

/-- Why a prepared query gives no rows. -/
inductive RunFailure where
  | store (e : StoreError)
  /-- The sort of rows that their keys do not order gave up. -/
  | disorder
deriving DecidableEq, Repr

def RunFailure.message : RunFailure → String
  | .store e => e.message
  | .disorder => "user-provided comparison function does not correctly implement a total order"

/-- Why a query gives no result. -/
inductive QueryError where
  | view (e : ViewError)
  | run (e : RunError)
  | failed (f : RunFailure)
deriving DecidableEq, Repr

def QueryError.message : QueryError → String
  | .view e => e.message
  | .run e => e.message
  | .failed f => f.message

end BookmarkViews
