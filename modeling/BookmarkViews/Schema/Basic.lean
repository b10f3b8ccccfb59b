import BookmarkViews.Field

/-!
The columns of the rows of an entity.

A field exists when it names a column or lies inside a column of objects. A column
without a type takes the types of its values.
-/

namespace BookmarkViews

/-- The columns of rows. -/
structure Schema where
  entity : Entity
  columns : List (String × Option FieldType)
deriving DecidableEq, Repr

namespace Schema

/-- The stored columns of an entity. -/
def columnsOf : Entity → List (String × FieldType)
  | .bookmark =>
    [("id", .int), ("url", .text), ("title", .text), ("description", .text), ("domain", .text),
      ("tags", .list), ("stars", .int), ("visit_count", .int), ("created_at", .date),
      ("updated_at", .date), ("last_visited", .date), ("archived", .bool), ("pinned", .bool),
      ("http_status", .int), ("notes", .text), ("content", .object)]
  | .tag =>
    [("name", .text), ("count", .int), ("depth", .int), ("parent", .text), ("first_used", .date),
      ("last_used", .date)]
  | .edge =>
    [("source", .int), ("target", .int), ("relation", .text), ("weight", .float),
      ("created_at", .date)]
  | .stats => []

/-- The schema of an entity; statistics have no columns of their own. -/
def of (entity : Entity) : Schema :=
  { entity, columns := (columnsOf entity).map fun c => (c.1, some c.2) }

/-- The declared type of a field. -/
def typeOf (s : Schema) (field : FieldPath) : Option FieldType :=
  (Keyed.get? s.columns field.text).join

/-- Whether a field exists. -/
def contains (s : Schema) (field : FieldPath) : Bool :=
  Keyed.has s.columns field.text ||
    (field.isNested && Keyed.get? s.columns field.head == some (some .object))

/-- Set the type of a column, or append a column. -/
def withColumn (s : Schema) (name : String) (type : Option FieldType) : Schema :=
  { s with columns := Keyed.insert s.columns name type }

/-- The names of the columns. -/
def names (s : Schema) : List String :=
  Keyed.keys s.columns

end Schema

end BookmarkViews
