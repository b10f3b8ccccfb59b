import BookmarkViews.Run.Error
import BookmarkViews.Store.Cell

/-!
The tables of a relational store: bookmarks with their tags, and edges.

Every bookmark has an id of its own; the table is kept in the order of ids. An
insertion that breaks a rule of the tables fails and changes nothing.
-/

namespace BookmarkViews

/-- A column of a table. -/
structure Column where
  name : String
  affinity : Affinity
  required : Bool := false

namespace Column

/-- The columns of bookmarks after the id, in table order. -/
def bookmarks : List Column :=
  [⟨"url", .text, true⟩, ⟨"title", .text, false⟩, ⟨"description", .text, false⟩,
    ⟨"domain", .text, false⟩, ⟨"stars", .integer, false⟩, ⟨"visit_count", .integer, false⟩,
    ⟨"created_at", .text, false⟩, ⟨"updated_at", .text, false⟩, ⟨"last_visited", .text, false⟩,
    ⟨"archived", .integer, false⟩, ⟨"pinned", .integer, false⟩, ⟨"http_status", .integer, false⟩,
    ⟨"notes", .text, false⟩, ⟨"content", .text, false⟩]

/-- The columns of edges, in table order. -/
def edges : List Column :=
  [⟨"source", .integer, true⟩, ⟨"target", .integer, true⟩, ⟨"relation", .text, true⟩,
    ⟨"weight", .real, false⟩, ⟨"created_at", .text, false⟩]

/-- The type of a column that clauses may test. Dates, objects and what is derived
from the name of a tag have none. -/
def type? (entity : Entity) (name : String) : Option FieldType :=
  match entity.stored with
  | .bookmark =>
    if ["id", "stars", "visit_count", "http_status"].contains name then some .int
    else if ["url", "title", "description", "domain", "notes"].contains name then some .text
    else if ["archived", "pinned"].contains name then some .bool
    else if name = "tags" then some .list
    else none
  | .tag =>
    if name = "name" then some .text else if name = "count" then some .int else none
  | .edge =>
    if ["source", "target"].contains name then some .int
    else if name = "relation" then some .text
    else if name = "weight" then some .float
    else none
  | .stats => none

end Column

/-- The cells of a record by column, in table order. -/
abbrev Cells := List (String × Cell)

/-- A bookmark as the table keeps it. -/
structure StoredBookmark where
  id : Int
  cells : Cells
  tags : List String
deriving DecidableEq

/-- The tables. -/
structure Tables where
  bookmarks : List StoredBookmark := []
  edges : List Cells := []
deriving DecidableEq

namespace Tables

/-- The cell that a column keeps for a field of a row. -/
def cellFor (entity : Entity) (row : Row) (c : Column) : Cell :=
  c.affinity.keep
    (Cell.prepare (Column.type? entity c.name) ((Keyed.get? row c.name).getD .null))

/-- The cells that columns keep for a row, unless a required one stays empty. -/
def cellsFor? (entity : Entity) (row : Row) (columns : List Column) :
    Except StoreError Cells :=
  columns.mapM fun c =>
    let cell := cellFor entity row c
    if c.required && cell = .null then
      .error (.database s!"NOT NULL constraint failed: {c.name}")
    else .ok (c.name, cell)

/-- The greatest id. -/
def greatestId? (t : Tables) : Option Int :=
  t.bookmarks.getLast?.map StoredBookmark.id

/-- The id after the greatest. -/
def nextId (t : Tables) : Int :=
  match t.greatestId? with
  | some n => n + 1
  | none => 1

/-- The id that a row asks for, or the next one when it asks for none. -/
def idFor? (t : Tables) (row : Row) : Except StoreError Int :=
  match Affinity.keep .integer (Cell.prepare (some .int) ((Keyed.get? row "id").getD .null)) with
  | .null => .ok t.nextId
  | .integer n =>
    if t.bookmarks.any (·.id == n) then .error (.database "UNIQUE constraint failed: bookmarks.id")
    else .ok n
  | .real _ | .text _ => .error (.database "datatype mismatch")

/-- The tags that a row lists. -/
def tagsOf (row : Row) : List String :=
  match Keyed.get? row "tags" with
  | some (.list items) => items.filterMap Value.text?
  | _ => []

/-- Put a bookmark into its place in the order of ids. -/
def place (b : StoredBookmark) : List StoredBookmark → List StoredBookmark
  | [] => [b]
  | c :: cs => if b.id < c.id then b :: c :: cs else c :: place b cs

/-- Insert a bookmark and its tags. -/
def insertBookmark? (t : Tables) (row : Row) : Except StoreError (Int × Tables) := do
  let id ← t.idFor? row
  let cells ← cellsFor? .bookmark row Column.bookmarks
  return (id, { t with bookmarks := place ⟨id, cells, tagsOf row⟩ t.bookmarks })

/-- Insert an edge. -/
def insertEdge? (t : Tables) (row : Row) : Except StoreError Tables := do
  let cells ← cellsFor? .edge row Column.edges
  return { t with edges := t.edges ++ [cells] }

end Tables

end BookmarkViews
