import BookmarkViews.Proofs.Sequencing
import BookmarkViews.Store.Relational
import Mathlib.Data.List.Nodup

/-!
What tables keep of the rows that were inserted, and what they show of it.

* `Tables.BuiltFrom.kept`: every record of tables that were built by insertions holds,
  column by column, what the column keeps of one row;
* `StoredRecord.get?_filledRow`: a row shows under a name what the cell of that name
  holds, and nothing for an empty cell;
* `Tables.get?_bookmarkRow`: so do the rows of bookmarks, apart from tags, flags and
  contents.
-/

namespace BookmarkViews

/-! ### Lookups -/

namespace Keyed

variable {κ α β : Type} [DecidableEq κ]

/-- Where no key is there twice, dropping entries only loses their values. -/
theorem get?_filterMap {f : α → Option β} {entries : List (κ × α)} (distinct : (keys entries).Nodup)
    (k : κ) :
    get? (entries.filterMap fun e => (f e.2).map fun b => (e.1, b)) k =
      (get? entries k).bind f := by
  induction entries with
  | nil => rfl
  | cons e entries ih =>
    obtain ⟨a, v⟩ := e
    obtain ⟨new, distinct⟩ := List.nodup_cons.mp distinct
    have rest := ih distinct
    rw [get?_cons]
    cases kept : f v with
    | none =>
      rw [List.filterMap_cons_none (by simp [kept]), rest]
      split_ifs with same
      · rw [same, get?_eq_none_of_notMem new, Option.bind_some, kept]
        rfl
      · rfl
    | some b =>
      rw [List.filterMap_cons_some (b := (a, b)) (by simp [kept]), get?_cons, rest]
      split_ifs
      · rw [Option.bind_some, kept]
      · rfl

end Keyed

/-! ### Insertions -/

namespace Tables

/-- What columns keep of a row. -/
def keptCells (entity : Entity) (row : Row) (columns : List Column) : Cells :=
  columns.map fun c => (c.name, cellFor entity row c)

theorem keys_keptCells (entity : Entity) (row : Row) (columns : List Column) :
    Keyed.keys (keptCells entity row columns) = columns.map Column.name := by
  rw [Keyed.keys, keptCells, List.map_map]
  rfl

/-- What a column keeps is found under its name. -/
theorem get?_keptCells {entity : Entity} (row : Row) {columns : List Column}
    (distinct : (columns.map Column.name).Nodup) {c : Column} (mem : c ∈ columns) :
    Keyed.get? (keptCells entity row columns) c.name = some (cellFor entity row c) := by
  rw [← keys_keptCells entity row] at distinct
  have entry : (c.name, cellFor entity row c) ∈ keptCells entity row columns :=
    List.mem_map_of_mem mem
  exact Keyed.get?_of_mem distinct entry

theorem keptCells_of_cellsFor? {entity : Entity} {row : Row} {columns : List Column}
    {cells : Cells} (h : cellsFor? entity row columns = .ok cells) :
    cells = keptCells entity row columns := by
  have single {c : Column} {cell : String × Cell}
      (h : (if c.required && cellFor entity row c = .null then
          .error (.database s!"NOT NULL constraint failed: {c.name}")
        else .ok (c.name, cellFor entity row c) : Except StoreError (String × Cell)) =
        .ok cell) : cell = (c.name, cellFor entity row c) := by
    split_ifs at h
    exact (Except.ok.inj h).symm
  have each := mapM_eq_ok_iff.mp h
  clear h
  induction each with
  | nil => rfl
  | cons first _ ih =>
    rw [keptCells, List.map_cons, single first, ih]
    rfl

/-- Tables that insertions make from empty ones. -/
inductive Built : Tables → Prop where
  | empty : Built {}
  | bookmark {t t' : Tables} {row : Row} {id : Int} :
    Built t → t.insertBookmark? row = .ok (id, t') → Built t'
  | edge {t t' : Tables} {row : Row} : Built t → t.insertEdge? row = .ok t' → Built t'

/-- Tables that insertions make from empty ones, when the rows of bookmarks are of some
kind. -/
inductive BuiltFrom (ok : Row → Prop) : Tables → Prop where
  | empty : BuiltFrom ok {}
  | bookmark {t t' : Tables} {row : Row} {id : Int} :
    BuiltFrom ok t → ok row → t.insertBookmark? row = .ok (id, t') → BuiltFrom ok t'
  | edge {t t' : Tables} {row : Row} :
    BuiltFrom ok t → t.insertEdge? row = .ok t' → BuiltFrom ok t'

theorem Built.builtFrom {t : Tables} (h : t.Built) : t.BuiltFrom fun _ => True := by
  induction h with
  | empty => exact .empty
  | bookmark _ inserted ih => exact .bookmark ih trivial inserted
  | edge _ inserted ih => exact .edge ih inserted

/-- Every record holds what its columns keep of a row. -/
structure Kept (t : Tables) : Prop where
  bookmarks : ∀ b ∈ t.bookmarks, ∃ row, b.cells = keptCells .bookmark row Column.bookmarks
  edges : ∀ cells ∈ t.edges, ∃ row, cells = keptCells .edge row Column.edges

/-- Every record holds what its columns keep of a row, and the rows of bookmarks are of
some kind. -/
structure KeptFrom (ok : Row → Prop) (t : Tables) : Prop where
  bookmarks : ∀ b ∈ t.bookmarks, ∃ row, ok row ∧ b.cells = keptCells .bookmark row Column.bookmarks
  edges : ∀ cells ∈ t.edges, ∃ row, cells = keptCells .edge row Column.edges

section Insertions

variable {ok : Row → Prop} {t t' : Tables} {row : Row}

theorem KeptFrom.kept (h : t.KeptFrom ok) : t.Kept where
  bookmarks b mem := by
    obtain ⟨row, -, cells⟩ := h.bookmarks b mem
    exact ⟨row, cells⟩
  edges := h.edges

theorem Kept.keptFrom (h : t.Kept) : t.KeptFrom fun _ => True where
  bookmarks b mem := by
    obtain ⟨row, cells⟩ := h.bookmarks b mem
    exact ⟨row, trivial, cells⟩
  edges := h.edges

theorem mem_place {b c : StoredBookmark} {bookmarks : List StoredBookmark} :
    c ∈ place b bookmarks ↔ c = b ∨ c ∈ bookmarks := by
  induction bookmarks with
  | nil => simp [place]
  | cons d ds ih =>
    unfold place
    split
    · simp
    · simp [ih, or_left_comm]

theorem KeptFrom.insertBookmark? (h : t.KeptFrom ok) (kind : ok row) {id : Int}
    (inserted : t.insertBookmark? row = .ok (id, t')) : t'.KeptFrom ok := by
  obtain ⟨_, -, inserted⟩ := bind_eq_ok.mp inserted
  obtain ⟨cells, kept, inserted⟩ := bind_eq_ok.mp inserted
  obtain ⟨rfl, rfl⟩ := Prod.mk.inj (Except.ok.inj inserted)
  refine ⟨fun b mem => ?_, h.edges⟩
  rcases mem_place.mp mem with rfl | old
  · exact ⟨row, kind, keptCells_of_cellsFor? kept⟩
  · exact h.bookmarks b old

theorem KeptFrom.insertEdge? (h : t.KeptFrom ok) (inserted : t.insertEdge? row = .ok t') :
    t'.KeptFrom ok := by
  obtain ⟨cells, kept, inserted⟩ := bind_eq_ok.mp inserted
  obtain rfl := Except.ok.inj inserted
  refine ⟨h.bookmarks, fun cells' mem => ?_⟩
  rcases List.mem_append.mp mem with old | last
  · exact h.edges cells' old
  · rw [List.mem_singleton.mp last]
    exact ⟨row, keptCells_of_cellsFor? kept⟩

/-- **Every record of built tables is what the columns keep of a row.** -/
theorem BuiltFrom.kept (h : t.BuiltFrom ok) : t.KeptFrom ok := by
  induction h with
  | empty => exact ⟨nofun, nofun⟩
  | bookmark _ kind inserted ih => exact ih.insertBookmark? kind inserted
  | edge _ inserted ih => exact ih.insertEdge? inserted

theorem Built.kept (h : t.Built) : t.Kept :=
  h.builtFrom.kept.kept

end Insertions

/-- The record of a bookmark has the columns of bookmarks. -/
theorem Kept.keys_bookmarkRecord {t : Tables} (h : t.Kept) {b : StoredBookmark}
    (mem : b ∈ t.bookmarks) :
    Keyed.keys (bookmarkRecord b).cells = "id" :: Column.bookmarks.map Column.name := by
  obtain ⟨row, cells⟩ := h.bookmarks b mem
  rw [← keys_keptCells .bookmark row, ← cells]
  rfl

theorem Kept.nodup_bookmarkRecord {t : Tables} (h : t.Kept) {b : StoredBookmark}
    (mem : b ∈ t.bookmarks) : (Keyed.keys (bookmarkRecord b).cells).Nodup := by
  rw [h.keys_bookmarkRecord mem]
  decide

end Tables

/-! ### Rows -/

/-- A row shows under a name what the cell of that name holds. -/
theorem StoredRecord.get?_filledRow {r : StoredRecord} (distinct : (Keyed.keys r.cells).Nodup)
    (name : String) : Keyed.get? r.filledRow name = (r.cell name).toValue? := by
  rw [filledRow, Keyed.get?_filterMap distinct, cell]
  cases Keyed.get? r.cells name <;> rfl

/-- A row of a bookmark shows its cells, flags and contents as they are shown, and its
tags behind them. -/
theorem Tables.get?_bookmarkRow {r : StoredRecord} (distinct : (Keyed.keys r.cells).Nodup)
    (name : String) :
    Keyed.get? (bookmarkRow r) name = ((r.cell name).toValue?.map (shown name)).or
      (if name = "tags" then some (.list ((travelled r.tags).map .text)) else none) := by
  rw [bookmarkRow, Keyed.get?_append_single, Keyed.get?_map Tables.shown,
    StoredRecord.get?_filledRow distinct]

/-- The value at a path that is not nested is the value of a field. -/
theorem Row.at_single (row : Row) (name : String) :
    row.at ⟨name, []⟩ = (Keyed.get? row name).getD .null := by
  rw [Row.at, Row.lookup]
  cases Keyed.get? row name <;> rfl

end BookmarkViews
