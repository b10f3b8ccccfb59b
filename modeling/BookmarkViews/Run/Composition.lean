import BookmarkViews.Run.Prepare
import BookmarkViews.Value.Json

/-!
Composing the rows of views: a source, a union and an intersection.

Rows are the same when their identities are: bookmarks by id or else by address,
tags by name, edges by their ends and relation, statistics by the columns they are
grouped by, and all else by the whole row. Of equal rows in a union the first
stays, and an intersection keeps rows of what comes first.
-/

namespace BookmarkViews

namespace Row

/-- Whether a field is there and not null. -/
def hasValue (row : Row) (name : String) : Bool :=
  (Keyed.get? row name).any (!·.isNull)

/-- The values of some fields as a list, null for those that are missing. -/
def pick (row : Row) (names : List String) : Value :=
  .list (names.map fun name => (Keyed.get? row name).getD .null)

/-- The value by which rows of an entity are told apart. -/
def identityValue (entity : Entity) (groupColumns : List String) (row : Row) : Value :=
  match entity with
  | .bookmark =>
    if hasValue row "id" then pick row ["id"]
    else if hasValue row "url" then pick row ["url"]
    else .object row
  | .tag => if hasValue row "name" then pick row ["name"] else .object row
  | .edge => pick row ["source", "target", "relation"]
  | .stats => pick row groupColumns

/-- The text by which rows are told apart. -/
def identity (entity : Entity) (groupColumns : List String) (row : Row) : String :=
  s!"{entity.name}:{(identityValue entity groupColumns row).compact}"

end Row

namespace Composition

/-- A row and its identity. -/
abbrev Identified := String × Row

/-- The rows of the views that have run. -/
abbrev RowTable := List (String × List Row)

/-- The rows of a view with the identities that they have there. -/
def identified (views : PreparedViews) (table : RowTable) (name : String) : List Identified :=
  let entity := ((PreparedViews.shape? views name).map Shape.entity).getD .bookmark
  let columns := ((Keyed.get? views name).map PreparedView.groupColumns).getD []
  ((Keyed.get? table name).getD []).map fun row => (Row.identity entity columns row, row)

/-- Keep the first row of every identity; `seen` lists the identities met
before. -/
def dedup (seen : List String) : List Identified → List Identified
  | [] => []
  | e :: es => if seen.contains e.1 then dedup seen es else e :: dedup (e.1 :: seen) es

/-- Keep the rows whose identity occurs among others. -/
def keepCommon (rows others : List Identified) : List Identified :=
  let keys := others.map (·.1)
  rows.filter fun e => keys.contains e.1

/-- The rows of source and union; nothing when the view has neither. -/
def base? (rowsOf : String → List Identified) (v : View) : Option (List Identified) :=
  let source := v.source.map rowsOf
  if v.union.isEmpty then source
  else some (dedup [] (source.getD [] ++ v.union.flatMap rowsOf))

/-- The identified rows that a view composes. -/
def composeIdentified (rowsOf : String → List Identified) (v : View) : List Identified :=
  match base? rowsOf v, v.intersect with
  | some rows, members => (members.map rowsOf).foldl keepCommon rows
  | none, first :: members => (members.map rowsOf).foldl keepCommon (rowsOf first)
  | none, [] => []

/-- The rows that a view composes from the rows of other views. -/
def compose (views : PreparedViews) (table : RowTable) (v : View) : List Row :=
  (composeIdentified (identified views table) v).map (·.2)

end Composition

end BookmarkViews
