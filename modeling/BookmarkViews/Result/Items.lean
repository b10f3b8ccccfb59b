import BookmarkViews.Field

/-!
Results with typed fields.

An item keeps every field of its row. A field that the item knows goes into its
typed slot when the value has the slot's type; all other fields stay in `extra`.
So `toRow` gives the row back, its typed fields first.
-/

namespace BookmarkViews

/-! ### Slots -/

/-- Take a field out of a row when its value can be read. -/
def Row.take {α : Type} (read : Value → Option α) (name : String) (row : Row) : Option α × Row :=
  match (Keyed.get? row name).bind read with
  | some a => (some a, Keyed.erase row name)
  | none => (none, row)

/-- The field of a slot, if it is filled. -/
def Row.slot {α : Type} (write : α → Value) (name : String) : Option α → Row
  | some a => [(name, write a)]
  | none => []

namespace Value

/-- The truth value that a value is. -/
def bool? : Value → Option Bool
  | .bool b => some b
  | _ => none

/-- The double that a value is; an integer is none. -/
def float? : Value → Option Binary64
  | .number (.float x) => some x
  | _ => none

/-- The texts that a list holds, if it holds nothing else. -/
def texts? : Value → Option (List String)
  | .list items => items.mapM text?
  | _ => none

/-- A list of texts as a value. -/
def ofTexts (texts : List String) : Value :=
  .list (texts.map .text)

end Value

/-! ### Items -/

structure BookmarkItem where
  id : Option Int
  url : Option String
  title : Option String
  domain : Option String
  tags : Option (List String)
  stars : Option Int
  createdAt : Option String
  archived : Option Bool
  extra : Row
deriving DecidableEq

namespace BookmarkItem

def ofRow (row : Row) : BookmarkItem :=
  let (id, row) := Row.take Value.int64? "id" row
  let (url, row) := Row.take Value.text? "url" row
  let (title, row) := Row.take Value.text? "title" row
  let (domain, row) := Row.take Value.text? "domain" row
  let (tags, row) := Row.take Value.texts? "tags" row
  let (stars, row) := Row.take Value.int64? "stars" row
  let (createdAt, row) := Row.take Value.text? "created_at" row
  let (archived, row) := Row.take Value.bool? "archived" row
  { id, url, title, domain, tags, stars, createdAt, archived, extra := row }

/-- The filled slots, in the order of the item. -/
def slots (b : BookmarkItem) : Row :=
  Row.slot .ofInt "id" b.id ++ Row.slot .text "url" b.url ++ Row.slot .text "title" b.title ++
    Row.slot .text "domain" b.domain ++ Row.slot .ofTexts "tags" b.tags ++
    Row.slot .ofInt "stars" b.stars ++ Row.slot .text "created_at" b.createdAt ++
    Row.slot .bool "archived" b.archived

def toRow (b : BookmarkItem) : Row :=
  b.slots ++ b.extra

/-- The tags, none when the row has no list of texts. -/
def tagList (b : BookmarkItem) : List String :=
  b.tags.getD []

end BookmarkItem

structure TagItem where
  name : Option String
  count : Option Int
  extra : Row
deriving DecidableEq

namespace TagItem

def ofRow (row : Row) : TagItem :=
  let (name, row) := Row.take Value.text? "name" row
  let (count, row) := Row.take Value.int64? "count" row
  { name, count, extra := row }

/-- The filled slots, in the order of the item. -/
def slots (t : TagItem) : Row :=
  Row.slot .text "name" t.name ++ Row.slot .ofInt "count" t.count

def toRow (t : TagItem) : Row :=
  t.slots ++ t.extra

/-- The parts of a name with slashes; a name without has none. -/
def segments? (t : TagItem) : Option (List String) :=
  match t.name with
  | some name =>
    if name.toList.contains '/' then some ((name.toList.splitOn '/').map String.ofList) else none
  | none => none

end TagItem

structure EdgeItem where
  source : Option Int
  target : Option Int
  relation : Option String
  weight : Option Binary64
  extra : Row
deriving DecidableEq

namespace EdgeItem

def ofRow (row : Row) : EdgeItem :=
  let (source, row) := Row.take Value.int64? "source" row
  let (target, row) := Row.take Value.int64? "target" row
  let (relation, row) := Row.take Value.text? "relation" row
  let (weight, row) := Row.take Value.float? "weight" row
  { source, target, relation, weight, extra := row }

/-- The filled slots, in the order of the item. -/
def slots (e : EdgeItem) : Row :=
  Row.slot .ofInt "source" e.source ++ Row.slot .ofInt "target" e.target ++
    Row.slot .text "relation" e.relation ++
    Row.slot (fun x => .number (.float x)) "weight" e.weight

def toRow (e : EdgeItem) : Row :=
  e.slots ++ e.extra

end EdgeItem

/-- A row of statistics: the grouping columns and the computed ones. -/
structure StatsItem where
  group : Row
  values : Row
deriving DecidableEq

namespace StatsItem

def ofRow (groupColumns : List String) (row : Row) : StatsItem :=
  let (group, values) := row.partition fun f => groupColumns.contains f.1
  { group, values }

def toRow (s : StatsItem) : Row :=
  s.group ++ s.values

/-- The value of a column. -/
def get? (s : StatsItem) (name : String) : Option Value :=
  (Keyed.get? s.group name).or (Keyed.get? s.values name)

end StatsItem

/-! ### Results -/

/-- The rows of a result as items of its entity. -/
inductive QueryResult where
  | bookmarks (items : List BookmarkItem)
  | tags (items : List TagItem)
  | stats (items : List StatsItem)
  | edges (items : List EdgeItem)
deriving DecidableEq

namespace QueryResult

def ofRows (entity : Entity) (rows : List Row) (groupColumns : List String) : QueryResult :=
  match entity with
  | .bookmark => .bookmarks (rows.map BookmarkItem.ofRow)
  | .tag => .tags (rows.map TagItem.ofRow)
  | .stats => .stats (rows.map (StatsItem.ofRow groupColumns))
  | .edge => .edges (rows.map EdgeItem.ofRow)

def entity : QueryResult → Entity
  | .bookmarks _ => .bookmark
  | .tags _ => .tag
  | .stats _ => .stats
  | .edges _ => .edge

/-- The rows of a result, typed fields first. -/
def rows : QueryResult → List Row
  | .bookmarks items => items.map BookmarkItem.toRow
  | .tags items => items.map TagItem.toRow
  | .stats items => items.map StatsItem.toRow
  | .edges items => items.map EdgeItem.toRow

def size (r : QueryResult) : Nat :=
  r.rows.length

/-- The result as one value: a list of objects. -/
def toValue (r : QueryResult) : Value :=
  .list (r.rows.map .object)

end QueryResult

end BookmarkViews
