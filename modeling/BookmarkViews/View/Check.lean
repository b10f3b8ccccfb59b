import BookmarkViews.View.Error

/-!
The checks that every view passes, however it was made.

They look at the view alone: the columns of a grouping have different names, the
declarations of the parameters fit their defaults, and every slot names a declared
parameter.
-/

namespace BookmarkViews.View

variable [PatternEngine]

/-- Only statistics may be grouped and computed. -/
def checkEntity (v : View) : Except ViewError Unit :=
  match v.entity with
  | some e =>
    if e != .stats && v.isAggregate then .error (.definition v.name (.groupNeedsStats e))
    else .ok ()
  | none => .ok ()

/-- Whether an aggregate may stand after columns named `seen`, in a grouping by
`groups`. -/
def aggregateFault? (groups seen : List String) (a : Aggregate) : Option ComputeFault :=
  if a.fn = .count && a.field.isSome then some .countTakesNoField
  else if a.fn != .count && a.field.isNone then some .needsField
  else if seen.contains a.name then some .repeatedName
  else if groups.contains a.name then some .nameOfGroup
  else none

/-- The computed columns have names of their own. -/
def checkAggregates (view : String) (groups : List String) :
    (seen : List String) → List Aggregate → Except ViewError Unit
  | _, [] => .ok ()
  | seen, a :: rest =>
    match aggregateFault? groups seen a with
    | some fault => .error (.compute view a.text fault)
    | none => checkAggregates view groups (a.name :: seen) rest

/-- No field is grouped by twice. -/
def checkGroups (view : String) : (seen : List FieldPath) → List FieldPath → Except ViewError Unit
  | _, [] => .ok ()
  | seen, g :: rest =>
    if seen.contains g then .error (.definition view (.repeatedGroup g.text))
    else checkGroups view (g :: seen) rest

/-- The declarations of the parameters are in order. -/
def checkParams (view : String) : List (String × ParamSpec) → Except ViewError Unit
  | [] => .ok ()
  | (name, spec) :: rest =>
    match spec.check name with
    | .error fault => .error (.param view name (.spec fault))
    | .ok () => checkParams view rest

/-- Every name is among the declared ones. -/
def checkDeclared (view : String) (declared : List String) :
    List String → Except ViewError Unit
  | [] => .ok ()
  | name :: rest =>
    if declared.contains name then checkDeclared view declared rest
    else .error (.param view name .undeclared)

/-- The slots of a requirement name declared parameters. -/
def checkSlots (view : String) (declared : List String) (r : Requirement) :
    Except ViewError Unit :=
  match r.draft with
  | .ready _ => .ok ()
  | .template n =>
    match n.parameters? with
    | .error fault => .error (.condition view r.field.text ⟨r.draft.text, fault⟩)
    | .ok names => checkDeclared view declared names

/-- The slots of all requirements name declared parameters. -/
def checkAllSlots (view : String) (declared : List String) :
    List Requirement → Except ViewError Unit
  | [] => .ok ()
  | r :: rest =>
    match checkSlots view declared r with
    | .error e => .error e
    | .ok () => checkAllSlots view declared rest

/-- All requirements of a view. -/
def requirements (v : View) : List Requirement :=
  v.filters ++ v.having ++ v.exclude

/-- Check a view by itself. -/
def check (v : View) : Except ViewError Unit := do
  v.checkEntity
  checkAggregates v.name (v.groupBy.map FieldPath.text) [] v.compute
  checkGroups v.name [] v.groupBy
  checkParams v.name v.params
  checkAllSlots v.name (Keyed.keys v.params) v.requirements

/-- A view that passes its checks. -/
def checked? (v : View) : Except ViewError View :=
  v.check.map fun _ => v

end BookmarkViews.View
