import BookmarkViews.Store.Fragment
import BookmarkViews.Store.Tags
import BookmarkViews.Value.JsonReading

/-!
A relational store: the tables, read as rows.

Bookmarks come in the order of ids, tags in the order of names and edges in the
order of insertion. The tags of a bookmark travel in one text between separators,
flags come back as truth values, and contents that are JSON text as the value that
the text writes.
-/

namespace BookmarkViews

variable [PatternEngine]

/-- A record that clauses are tested on. -/
structure StoredRecord where
  cells : Cells
  tags : List String := []

namespace StoredRecord

/-- The cell of a column, empty where there is none. -/
def cell (r : StoredRecord) (name : String) : Cell :=
  (Keyed.get? r.cells name).getD .null

/-- Whether a test holds of the record. -/
def passes (r : StoredRecord) (test : String × CellTest) : Bool :=
  test.2.holds r.tags (r.cell test.1)

/-- The cells that hold something, as a row. -/
def filledRow (r : StoredRecord) : Row :=
  r.cells.filterMap fun c => c.2.toValue?.map fun v => (c.1, v)

end StoredRecord

namespace Tables

/-! ### Bookmarks -/

/-- The character between the tags of a bookmark. -/
def tagSeparator : Char := '\x1f'

/-- The tags of a bookmark after they travelled in one text. -/
def travelled (tags : List String) : List String :=
  if tags.isEmpty then []
  else
    let joined := [tagSeparator].intercalate (tags.map String.toList)
    (joined.splitOn tagSeparator).map String.ofList

/-- The record of a bookmark. -/
def bookmarkRecord (b : StoredBookmark) : StoredRecord :=
  { cells := ("id", .integer b.id) :: b.cells, tags := b.tags }

/-- A value as a flag: an integer is whether it is not zero. -/
def flagOf : Value → Value
  | .number n =>
    match n.int64? with
    | some i => .bool (i != 0)
    | none => .number n
  | v => v

/-- A value as a content: a text that is JSON is what it writes. -/
def contentOf : Value → Value
  | .text s => (Json.read? s.toList).getD (.text s)
  | v => v

/-- The value that a column of bookmarks shows. -/
def shown (name : String) (v : Value) : Value :=
  if name = "archived" || name = "pinned" then flagOf v
  else if name = "content" then contentOf v
  else v

/-- The row of a bookmark. -/
def bookmarkRow (r : StoredRecord) : Row :=
  (r.filledRow.map fun f => (f.1, shown f.1 f.2)) ++
    [("tags", .list ((travelled r.tags).map .text))]

/-! ### Tags -/

/-- The text of a cell. -/
def cellText? : Cell → Option String
  | .text s => some s
  | _ => none

/-- The text of when a bookmark was created. -/
def createdText? (b : StoredBookmark) : Option String :=
  ((Keyed.get? b.cells "created_at").bind cellText?)

/-- Every tag of every bookmark, with the creation text of the bookmark. -/
def tagUses (t : Tables) : List (String × Option String) :=
  t.bookmarks.flatMap fun b => b.tags.map fun tag => (tag, createdText? b)

/-- A text or an empty cell. -/
def cellOf? : Option String → Cell
  | some s => .text s
  | none => .null

/-- The record of a tag with these uses. -/
def tagRecord (uses : List (String × Option String)) (name : String) : StoredRecord :=
  let own := (uses.filter (·.1 == name)).map (·.2)
  let dates := own.filterMap id
  { cells := [("name", .text name), ("count", .integer own.length),
      ("first_used", cellOf? (Tags.least? dates)), ("last_used", cellOf? (Tags.greatest? dates))] }

/-- The records of all tags, in the order of names. -/
def tagRecords (t : Tables) : List StoredRecord :=
  let uses := t.tagUses
  let names := ((uses.map (·.1)).eraseDups).mergeSort fun a b => (Text.order a b).isLE
  names.map (tagRecord uses)

/-- The row of a tag. -/
def tagRow (r : StoredRecord) : Row :=
  let count : Int := match r.cell "count" with
    | .integer n => n
    | _ => 0
  Tags.row ((cellText? (r.cell "name")).getD "") count (cellText? (r.cell "first_used"))
    (cellText? (r.cell "last_used"))

/-! ### The store -/

/-- The records of an entity and the rows they become. -/
def records (t : Tables) (entity : Entity) : List StoredRecord × (StoredRecord → Row) :=
  match entity.stored with
  | .tag => (t.tagRecords, tagRow)
  | .edge => (t.edges.map fun cells => { cells }, StoredRecord.filledRow)
  | .bookmark | .stats => (t.bookmarks.map bookmarkRecord, bookmarkRow)

/-- The test of a clause, or the failure that there is none. -/
def testOf? (entity : Entity) (c : StoreClause) : Except StoreError (String × CellTest) :=
  match CellTest.ofClause? entity c with
  | some test => .ok test
  | none => .error (.unsupported c.text)

/-- The failure of a query that is too large. -/
def tooLarge : StoreError :=
  .database "query is too large"

/-- The rows of an entity that meet all clauses. Clauses that each have a test may still
make too large a query together. -/
def fetch (t : Tables) (entity : Entity) (clauses : List StoreClause) :
    Except StoreError (List Row) := do
  let tests ← clauses.mapM (testOf? entity)
  if CellTest.areRefused entity (tests.map (·.2)) then throw tooLarge
  let (records, toRow) := t.records entity
  return (records.filter fun r => tests.all r.passes).map toRow

/-- The tables as a store. -/
def store (t : Tables) : Store where
  accepts entity c := (CellTest.ofClause? entity c).isSome
  fetch := t.fetch

end Tables

/-- The database of a relational store. One that cannot be used says why at every
use. -/
inductive Database where
  | unusable (reason : String)
  | tables (t : Tables)
deriving DecidableEq

namespace Database

/-- A database whose tables have not been made. -/
def withoutTables : Database :=
  .unusable "no such table"

/-- A file that holds something else. -/
def notDatabase : Database :=
  .unusable "file is not a database"

/-- Insert a bookmark. -/
def insertBookmark? (row : Row) : Database → Except StoreError (Int × Database)
  | .unusable reason => .error (.database reason)
  | .tables t => (t.insertBookmark? row).map fun (id, t) => (id, .tables t)

/-- Insert an edge. -/
def insertEdge? (row : Row) : Database → Except StoreError Database
  | .unusable reason => .error (.database reason)
  | .tables t => (t.insertEdge? row).map .tables

/-- The rows of an entity that meet all clauses. -/
def fetch (d : Database) (entity : Entity) (clauses : List StoreClause) :
    Except StoreError (List Row) :=
  match d with
  | .tables t => t.fetch entity clauses
  | .unusable reason => do
    let _ ← clauses.mapM (Tables.testOf? entity)
    .error (.database reason)

/-- The database as a store. -/
def store (d : Database) : Store where
  accepts entity c := (CellTest.ofClause? entity c).isSome
  fetch := d.fetch

end Database

end BookmarkViews
