import BookmarkViews.Proofs.Store.Kept
import BookmarkViews.Proofs.Store.NumberCells

/-!
The columns that clauses may test: what they keep, and what rows show of them.

* `Column.typeOf_column`: conditions read such a column with the type that tables give
  it;
* `Tables.Kept.at_column`: a row shows the cell of the column, a flag as a truth value;
* `Tables.KeptFrom.origin_of_column`: tables make the cell themselves, or a column keeps
  it of a row that was inserted.
-/

namespace BookmarkViews

namespace Column

/-- The columns that clauses may test, with their types. -/
def typed : List (Entity × String × FieldType) :=
  [(.bookmark, "id", .int), (.bookmark, "stars", .int), (.bookmark, "visit_count", .int),
    (.bookmark, "http_status", .int), (.bookmark, "url", .text), (.bookmark, "title", .text),
    (.bookmark, "description", .text), (.bookmark, "domain", .text), (.bookmark, "notes", .text),
    (.bookmark, "archived", .bool), (.bookmark, "pinned", .bool), (.bookmark, "tags", .list),
    (.tag, "name", .text), (.tag, "count", .int), (.edge, "source", .int), (.edge, "target", .int),
    (.edge, "relation", .text), (.edge, "weight", .float)]

variable {entity : Entity} {name : String} {type : FieldType}

/-- There are no others. -/
theorem mem_typed (column : type? entity name = some type) :
    (entity.stored, name, type) ∈ typed := by
  unfold type? at column
  cases stored : entity.stored with
  | bookmark =>
    rw [stored] at column
    dsimp only at column
    split_ifs at column with number text flag tags <;> obtain rfl := Option.some_inj.mp column
    · have all : ∀ n ∈ ["id", "stars", "visit_count", "http_status"],
          (Entity.bookmark, n, FieldType.int) ∈ typed := by decide
      exact all name (List.contains_iff_mem.mp number)
    · have all : ∀ n ∈ ["url", "title", "description", "domain", "notes"],
          (Entity.bookmark, n, FieldType.text) ∈ typed := by decide
      exact all name (List.contains_iff_mem.mp text)
    · have all : ∀ n ∈ ["archived", "pinned"],
          (Entity.bookmark, n, FieldType.bool) ∈ typed := by decide
      exact all name (List.contains_iff_mem.mp flag)
    · rw [tags]
      decide
  | tag =>
    rw [stored] at column
    dsimp only at column
    split_ifs at column with isName isCount <;> obtain rfl := Option.some_inj.mp column
    · rw [isName]
      decide
    · rw [isCount]
      decide
  | edge =>
    rw [stored] at column
    dsimp only at column
    split_ifs at column with ends relation weight <;> obtain rfl := Option.some_inj.mp column
    · have all : ∀ n ∈ ["source", "target"], (Entity.edge, n, FieldType.int) ∈ typed := by decide
      exact all name (List.contains_iff_mem.mp ends)
    · rw [relation]
      decide
    · rw [weight]
      decide
  | stats =>
    rw [stored] at column
    exact nomatch column

theorem type?_stored (entity : Entity) (name : String) :
    type? entity.stored name = type? entity name := by
  rw [type?, type?, Entity.stored_stored]

/-- **Conditions read a column with the type that tables give it.** -/
theorem typeOf_column (column : type? entity name = some type) :
    (Schema.of entity.stored).typeOf ⟨name, []⟩ = some type := by
  have all : ∀ c ∈ typed, (Schema.of c.1).typeOf ⟨c.2.1, []⟩ = some c.2.2 := by decide
  exact all _ (mem_typed column)

/-- The columns that tables keep of the rows of an entity. -/
def kept : Entity → List Column
  | .bookmark => bookmarks
  | .edge => edges
  | .tag | .stats => []

end Column

/-- What a cell shows in a column of a type. -/
def Cell.shownIn (type : FieldType) (c : Cell) : Value :=
  if type = .bool then Tables.flagOf c.shown else c.shown

namespace Tables

variable {t : Tables} {entity : Entity} {name : String} {type : FieldType} {ok : Row → Prop}

/-! ### What rows show -/

/-- A column of bookmarks shows a flag as a truth value, and all else as it is. -/
theorem shown_column (listed : (.bookmark, name, type) ∈ Column.typed) (single : type ≠ .list) :
    name ≠ "tags" ∧ ∀ v, shown name v = if type = .bool then flagOf v else v := by
  have all : ∀ c ∈ Column.typed, c.1 = .bookmark → c.2.2 ≠ .list → c.2.1 ≠ "tags" ∧
      c.2.1 ≠ "content" ∧ ((c.2.1 = "archived" ∨ c.2.1 = "pinned") ↔ c.2.2 = .bool) := by
    decide
  obtain ⟨notTags, notContent, flag⟩ := all _ listed rfl single
  refine ⟨notTags, fun v => ?_⟩
  by_cases isFlag : type = .bool
  · rw [if_pos isFlag, shown, if_pos (by simpa using flag.mpr isFlag)]
  · rw [if_neg isFlag, shown, if_neg (by simpa using fun is => isFlag (flag.mp is)),
      if_neg notContent]

/-- Only bookmarks have flags. -/
theorem ne_bool_of_typed (listed : (entity, name, type) ∈ Column.typed)
    (other : entity ≠ .bookmark) : type ≠ .bool := by
  have all : ∀ c ∈ Column.typed, c.1 ≠ .bookmark → c.2.2 ≠ .bool := by decide
  exact all _ listed other

/-- **A row shows the cell of a column.** -/
theorem Kept.at_column (kept : t.Kept) (column : Column.type? entity name = some type)
    (single : type ≠ .list) {r : StoredRecord} (mem : r ∈ (t.records entity).1) :
    ((t.records entity).2 r).at ⟨name, []⟩ = (r.cell name).shownIn type := by
  have listed := Column.mem_typed column
  rw [Row.at_single, Cell.shownIn, Cell.shown]
  unfold records at mem ⊢
  cases stored : entity.stored with
  | bookmark =>
    rw [stored] at mem listed
    obtain ⟨b, stored, rfl⟩ := List.mem_map.mp mem
    obtain ⟨notTags, shown⟩ := shown_column listed single
    rw [get?_bookmarkRow (kept.nodup_bookmarkRecord stored), if_neg notTags, Option.or_none,
      funext shown]
    cases ((bookmarkRecord b).cell name).toValue? with
    | none => split_ifs <;> rfl
    | some v => rfl
  | tag =>
    rw [stored] at mem listed
    obtain ⟨own, -, rfl⟩ := List.mem_map.mp mem
    rw [if_neg (ne_bool_of_typed listed (by decide))]
    have names : name = "name" ∨ name = "count" := by
      have all : ∀ c ∈ Column.typed, c.1 = .tag → c.2.1 = "name" ∨ c.2.1 = "count" := by decide
      exact all _ listed rfl
    rcases names with rfl | rfl <;> rfl
  | edge =>
    rw [stored] at mem listed
    obtain ⟨cells, stored, rfl⟩ := List.mem_map.mp mem
    obtain ⟨row, rfl⟩ := kept.edges cells stored
    have distinct : (Keyed.keys (keptCells .edge row Column.edges)).Nodup := by
      rw [keys_keptCells]
      decide
    rw [if_neg (ne_bool_of_typed listed (by decide)), StoredRecord.get?_filledRow distinct]
  | stats =>
    have none : ∀ c ∈ Column.typed, c.1 ≠ .stats := by decide
    exact absurd stored (none _ listed)

/-! ### What columns keep -/

/-- Where the cell of a column comes from: tables make ids, names and counts, and the
columns keep the others of a row. -/
inductive Origin (ok : Row → Prop) (entity : Entity) (name : String) (type : FieldType) :
    Cell → Prop where
  | empty : Origin ok entity name type .null
  | number (n : Int) (numeric : type.isNumeric = true) : Origin ok entity name type (.integer n)
  | text (s : String) (texts : type = .text) : Origin ok entity name type (.text s)
  | row {row : Row} {c : Column} (kind : entity = .bookmark → ok row)
    (mem : c ∈ Column.kept entity) (named : c.name = name) :
    Origin ok entity name type (cellFor entity row c)

/-- A cell that columns keep is kept of the row. -/
theorem origin_of_keptCells {row : Row} (kind : entity = .bookmark → ok row) :
    Origin ok entity name type
      ((Keyed.get? (keptCells entity row (Column.kept entity)) name).getD .null) := by
  cases found : Keyed.get? (keptCells entity row (Column.kept entity)) name with
  | none => exact .empty
  | some cell =>
    obtain ⟨c, mem, entry⟩ := List.mem_map.mp (Keyed.mem_of_get? found)
    obtain ⟨named, rfl⟩ := Prod.mk.inj entry
    exact .row kind mem named

/-- **The cell of a column is made by the tables, or kept of an inserted row.** -/
theorem KeptFrom.origin_of_column (kept : t.KeptFrom ok)
    (column : Column.type? entity name = some type) {r : StoredRecord}
    (mem : r ∈ (t.records entity).1) : Origin ok entity.stored name type (r.cell name) := by
  have listed := Column.mem_typed column
  unfold records at mem
  cases stored : entity.stored with
  | bookmark =>
    rw [stored] at mem listed
    obtain ⟨b, stored, rfl⟩ := List.mem_map.mp mem
    obtain ⟨row, kind, cells⟩ := kept.bookmarks b stored
    rw [StoredRecord.cell, bookmarkRecord, Keyed.get?_cons]
    split_ifs with isId
    · have numeric : ∀ c ∈ Column.typed, c.2.1 = "id" → c.2.2.isNumeric = true := by decide
      exact .number b.id (numeric _ listed isId)
    · rw [cells]
      exact origin_of_keptCells fun _ => kind
  | tag =>
    rw [stored] at mem listed
    obtain ⟨own, -, rfl⟩ := List.mem_map.mp mem
    have kinds : ∀ c ∈ Column.typed, c.1 = .tag →
        c.2 = ("name", .text) ∨ c.2 = ("count", .int) := by decide
    rcases kinds _ listed rfl with same | same <;> obtain ⟨rfl, rfl⟩ := Prod.mk.inj same
    · exact .text own rfl
    · exact .number _ rfl
  | edge =>
    rw [stored] at mem
    obtain ⟨cells, stored, rfl⟩ := List.mem_map.mp mem
    obtain ⟨row, rfl⟩ := kept.edges cells stored
    exact origin_of_keptCells fun same => absurd same (by decide)
  | stats =>
    have none : ∀ c ∈ Column.typed, c.1 ≠ .stats := by decide
    exact absurd stored (none _ listed)

end Tables

end BookmarkViews
