import BookmarkViews.Fault
import BookmarkViews.Text.Blank
import BookmarkViews.Value.Basic

/-!
Entities, the types of their fields, and paths into a row.
-/

namespace BookmarkViews

/-! ### Entities -/

/-- The kinds of record that a query answers. -/
inductive Entity where
  | bookmark
  | tag
  | stats
  | edge
deriving DecidableEq, Repr, Inhabited

namespace Entity

def name : Entity → String
  | .bookmark => "bookmark"
  | .tag => "tag"
  | .stats => "stats"
  | .edge => "edge"

/-- The entity of a name, singular or plural, in any case. -/
def ofName? (s : String) : Option Entity :=
  match Text.asciiLowered (Text.trimmed s) with
  | "bookmark" | "bookmarks" => some .bookmark
  | "tag" | "tags" => some .tag
  | "stats" | "stat" => some .stats
  | "edge" | "edges" => some .edge
  | _ => none

/-- The entity whose stored rows feed this one: statistics are computed from
bookmarks. -/
def stored : Entity → Entity
  | .stats => .bookmark
  | e => e

@[simp] theorem stored_stored (e : Entity) : e.stored.stored = e.stored := by
  cases e <;> rfl

end Entity

/-! ### Types of fields -/

inductive FieldType where
  | int
  | float
  | text
  | bool
  | date
  | list
  | object
deriving DecidableEq, Repr

namespace FieldType

def name : FieldType → String
  | .int => "int"
  | .float => "float"
  | .text => "text"
  | .bool => "bool"
  | .date => "date"
  | .list => "list"
  | .object => "object"

def isNumeric : FieldType → Bool
  | .int | .float => true
  | _ => false

end FieldType

/-! ### Paths -/

/-- A path into a row: a field, and the names to follow inside its value. -/
structure FieldPath where
  head : String
  inner : List String := []
deriving DecidableEq, Repr, Inhabited

namespace FieldPath

def segments (p : FieldPath) : List String :=
  p.head :: p.inner

def isNested (p : FieldPath) : Bool :=
  !p.inner.isEmpty

/-- The path in one text, with dots between the segments. -/
def text (p : FieldPath) : String :=
  ".".intercalate p.segments

/-- Read a path; blanks around a segment do not count. -/
def read? (s : String) : Except Malformed FieldPath :=
  let cs := Text.trim s.toList
  if cs.isEmpty then .error ⟨"", .emptyPath⟩
  else
    let segments := (cs.splitOn '.').map fun part => String.ofList (Text.trim part)
    if segments.any String.isEmpty then .error ⟨String.ofList cs, .emptySegment⟩
    else match segments with
      | head :: inner => .ok ⟨head, inner⟩
      | [] => .error ⟨"", .emptyPath⟩

end FieldPath

namespace Value

/-- Follow names through nested objects. -/
def descend? : (names : List String) → Value → Option Value
  | [], v => some v
  | name :: names, .object fields => (Keyed.get? fields name).bind (descend? names)
  | _ :: _, _ => none

end Value

/-- The value at a path. A nested path that leads nowhere falls back to the field
named by its whole text, where grouped rows keep the value. -/
def Row.lookup (row : Row) (path : FieldPath) : Option Value :=
  match (Keyed.get? row path.head).bind (Value.descend? path.inner) with
  | some v => some v
  | none => if path.isNested then Keyed.get? row path.text else none

/-- The value at a path, null where there is none. -/
def Row.at (row : Row) (path : FieldPath) : Value :=
  (Row.lookup row path).getD .null

end BookmarkViews
