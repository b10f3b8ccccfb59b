import BookmarkViews.Pattern.Standard
import BookmarkViews.Proofs.Store.KeptRows
import BookmarkViews.Proofs.Store.TagUses

/-!
The tags of tables and the tags that are derived from rows.

* `Tables.insertAll_tagged`: bookmarks with different ids are all inserted;
* `Tables.Holds.tagUses_perm`: tables know the uses of tags of the rows they hold, in the order
  of ids;
* `Tables.derived_tags`: so both say the same of every tag.
-/

namespace BookmarkViews

/-- A row of a bookmark that can be inserted: with an id, an address, and a text as the date it
was created, if any. Its tags may be anything. -/
structure Row.Tagged (row : Row) : Prop where
  id : row.HasId
  url : ∃ s, Keyed.get? row "url" = some (.text s)
  created : ∀ v, Keyed.get? row "created_at" = some v → v = .null ∨ ∃ s, v = .text s

/-- Two rows have different ids. -/
def Row.Apart (row other : Row) : Prop :=
  Keyed.get? row "id" ≠ Keyed.get? other "id"

namespace Tags

/-- The name that the row of a tag says. -/
def nameOf (row : Row) : String :=
  ((Keyed.get? row "name").bind Value.text?).getD ""

/-- Rows of tags in the order of their names. -/
def byName (rows : List Row) : List Row :=
  rows.mergeSort fun a b => (Text.order (nameOf a) (nameOf b)).isLE

theorem nameOf_rowOfUses (uses : List (String × Option String)) (name : String) :
    nameOf (rowOfUses uses name) = name :=
  rfl

/-- Rows of some names are in the order of names when the names are. -/
theorem byName_map_rowOfUses (uses : List (String × Option String)) (names : List String) :
    byName (names.map (rowOfUses uses)) = (Text.sorted names).map (rowOfUses uses) := by
  symm
  apply List.map_mergeSort
  intro a _ b _
  rw [nameOf_rowOfUses, nameOf_rowOfUses]

/-- The rows of derived tags are sorted by strictly ascending names. -/
theorem pairwise_byName_derive (bookmarks : List Row) :
    (byName (derive bookmarks)).Pairwise fun a b => Text.order (nameOf a) (nameOf b) = .lt := by
  rw [derive, byName_map_rowOfUses, List.pairwise_map]
  exact Text.strictly_sorted (nodup_eraseDups _)

/-- Rows of tags by name do not depend on the order of their uses. -/
theorem byName_perm {uses uses' : List (String × Option String)} (perm : uses.Perm uses') :
    (Text.sorted (uses.map Prod.fst).eraseDups).map (rowOfUses uses) =
      (Text.sorted (uses'.map Prod.fst).eraseDups).map (rowOfUses uses') := by
  have names : Text.sorted (uses.map Prod.fst).eraseDups =
      Text.sorted (uses'.map Prod.fst).eraseDups := by
    apply Text.eq_of_strictly_ordered
    · exact Text.strictly_sorted (nodup_eraseDups _)
    · exact Text.strictly_sorted (nodup_eraseDups _)
    · simp [(perm.map Prod.fst).mem_iff]
  rw [names]
  exact List.map_congr_left fun name _ => rowOfUses_perm perm name

end Tags

namespace Tables

variable {t : Tables} {row : Row} {rows before : List Row}

/-! ### All are inserted -/

/-- A tagged row with a new id is inserted. -/
theorem not_refused (h : t.Holds before) (ids : ∀ other ∈ before, other.HasId)
    (tagged : row.Tagged) (new : ∀ other ∈ before, row.Apart other) :
    ¬ t.Refused (.bookmark row) := by
  obtain ⟨n, cell, own⟩ := idCell_of_hasId tagged.id
  intro refused
  cases refused with
  | duplicate mem asked =>
    obtain ⟨other, held, keeps⟩ := h.exists_row mem
    apply new other held
    rw [own, keeps.get?_id (ids other held), Cell.integer.inj (cell.symm.trans asked)]
  | noInteger _ none => exact none n cell
  | noUrl lacks =>
    obtain ⟨s, url⟩ := tagged.url
    simp [Lacks, url] at lacks

/-- Bookmarks with different ids are all inserted. -/
theorem insertAll_tagged (h : t.Holds before) (ids : ∀ other ∈ before, other.HasId)
    (tagged : ∀ row ∈ rows, row.Tagged) (apart : rows.Pairwise Row.Apart)
    (new : ∀ row ∈ rows, ∀ other ∈ before, row.Apart other) :
    (t.insertAll (rows.map .bookmark)).1 = rows.map .bookmark := by
  induction rows generalizing t before with
  | nil => rfl
  | cons row rows ih =>
    obtain ⟨first, tagged⟩ := List.forall_mem_cons.mp tagged
    obtain ⟨own, apart⟩ := List.pairwise_cons.mp apart
    obtain ⟨fresh, new⟩ := List.forall_mem_cons.mp new
    obtain ⟨t', inserted⟩ := exists_insert?_iff.mpr (not_refused h ids first fresh)
    obtain ⟨⟨id, _⟩, made, rfl⟩ := map_eq_ok_iff.mp inserted
    have ids : ∀ other ∈ row :: before, other.HasId :=
      List.forall_mem_cons.mpr ⟨first.id, ids⟩
    have new : ∀ later ∈ rows, ∀ other ∈ row :: before, later.Apart other := fun later mem =>
      List.forall_mem_cons.mpr ⟨(own later mem).symm, new later mem⟩
    rw [List.map_cons, insertAll, inserted]
    exact congrArg _ (ih (h.insertBookmark? made) ids tagged apart new)

/-! ### Their uses of tags -/

/-- A record has the date of its row. -/
theorem createdText?_recordOf (tagged : row.Tagged) (id : Int) :
    createdText? (recordOf id row) = (Keyed.get? row "created_at").bind Value.text? := by
  have column : (⟨"created_at", .text, false⟩ : Column) ∈ Column.bookmarks := by
    simp [Column.bookmarks]
  have kept : Keyed.get? (keptCells .bookmark row Column.bookmarks) "created_at" =
      some (cellFor .bookmark row ⟨"created_at", .text, false⟩) :=
    get?_keptCells row (by decide) column
  change (Keyed.get? (keptCells .bookmark row Column.bookmarks) "created_at").bind cellText? = _
  rw [kept, Option.bind_some, cellFor]
  cases found : Keyed.get? row "created_at" with
  | none => rfl
  | some v =>
    rcases tagged.created v found with rfl | ⟨s, rfl⟩
    · rfl
    · rfl

/-- The uses of tags of a record are those of its row. -/
theorem Keeps.usesOf {b : StoredBookmark} (keeps : Keeps b row) (tagged : row.Tagged) :
    (b.tags.map fun tag => (tag, createdText? b)) = Tags.usesOf row := by
  rw [keeps.record, createdText?_recordOf tagged]
  change (tagsOf row).map _ = _
  rw [tagsOf, Tags.usesOf]
  cases Keyed.get? row "tags" with
  | none => rfl
  | some v => cases v <;> rfl

/-- **Tables know the uses of tags of the rows they hold.** -/
theorem Holds.tagUses_perm (h : t.Holds rows) (tagged : ∀ row ∈ rows, row.Tagged) :
    t.tagUses.Perm (rows.flatMap Tags.usesOf) := by
  obtain ⟨listed, each, perm⟩ := h.listed_and tagged
  have uses : t.bookmarks.map (fun b => b.tags.map fun tag => (tag, createdText? b)) =
      listed.map Tags.usesOf := by
    rw [← List.forall₂_eq_eq_eq, List.forall₂_map_left_iff, List.forall₂_map_right_iff]
    exact each.imp fun b row ⟨tagged, keeps⟩ => keeps.usesOf tagged
  rw [tagUses, List.flatMap_def, uses, ← List.flatMap_def]
  exact perm.flatMap_right _

/-! ### Their rows of tags -/

theorem cellText?_cellOf? (text : Option String) : cellText? (cellOf? text) = text := by
  cases text <;> rfl

theorem tagRow_tagRecord (uses : List (String × Option String)) (name : String) :
    tagRow (tagRecord uses name) = Tags.rowOfUses uses name := by
  have first : (tagRecord uses name).cell "first_used" =
      cellOf? (Tags.least? (Tags.datesOf uses name)) := rfl
  have last : (tagRecord uses name).cell "last_used" =
      cellOf? (Tags.greatest? (Tags.datesOf uses name)) := rfl
  rw [tagRow, first, last, cellText?_cellOf?, cellText?_cellOf?]
  rfl

/-- The rows of tags of tables are the rows of their uses, by name. -/
theorem fetch_tag [PatternEngine] (t : Tables) :
    t.fetch .tag [] = .ok ((Text.sorted (t.tagUses.map Prod.fst).eraseDups).map
      (Tags.rowOfUses t.tagUses)) := by
  have rows : t.tagRecords.map tagRow = (Text.sorted (t.tagUses.map Prod.fst).eraseDups).map
      (Tags.rowOfUses t.tagUses) := by
    rw [tagRecords, List.map_map]
    exact List.map_congr_left fun name _ => tagRow_tagRecord _ name
  rw [← rows]
  exact t.fetch_nil .tag

/-- **Tables and rows have the same tags.** Bookmarks with different ids are all inserted, and
the rows of tags that are fetched then are those derived from the bookmarks, in the order of
their names, one for each. -/
theorem derived_tags [PatternEngine] (tagged : ∀ row ∈ rows, row.Tagged)
    (apart : rows.Pairwise Row.Apart) :
    ∃ t, insertAll {} (rows.map .bookmark) = (rows.map .bookmark, t) ∧
      t.fetch .tag [] = .ok (Tags.byName (Tags.derive rows)) ∧
      (Tags.byName (Tags.derive rows)).Pairwise fun a b =>
        Text.order (Tags.nameOf a) (Tags.nameOf b) = .lt := by
  have all := insertAll_tagged holds_empty nofun tagged apart fun _ _ => nofun
  have holds : (insertAll {} (rows.map .bookmark)).2.Holds rows := by
    have given : bookmarkRows (rows.map .bookmark) = rows := by
      rw [bookmarkRows, List.filterMap_map]
      exact List.filterMap_some
    simpa [all, given] using holds_empty.insertAll (rows.map .bookmark)
  refine ⟨_, Prod.ext all rfl, ?_, Tags.pairwise_byName_derive rows⟩
  rw [fetch_tag, Tags.byName_perm (holds.tagUses_perm tagged), Tags.derive,
    Tags.byName_map_rowOfUses]

open StandardPatterns

/-- A tag that is listed twice, and tags of bookmarks with an empty date and with none. -/
theorem derived_tags_repeated :
    let rows : List Row :=
      [[("id", .ofInt 2), ("url", .text "https://b.example"), ("created_at", .text "2024-01-02"),
          ("tags", .list [.text "rust", .text "ai/nlp", .text "rust"])],
        [("id", .ofInt 1), ("url", .text "https://a.example"), ("created_at", .text ""),
          ("tags", .list [.text "rust", .ofInt 3])],
        [("id", .ofInt 7), ("url", .text "https://c.example"), ("tags", .list [.text "zig"])]]
    Tags.derive rows = [Tags.row "rust" 3 (some "") (some "2024-01-02"),
        Tags.row "ai/nlp" 1 (some "2024-01-02") (some "2024-01-02"), Tags.row "zig" 1 none none] ∧
      ∃ t, insertAll {} (rows.map .bookmark) = (rows.map .bookmark, t) ∧
        t.fetch .tag [] = .ok (Tags.byName (Tags.derive rows)) ∧
        (Tags.byName (Tags.derive rows)).Pairwise fun a b =>
          Text.order (Tags.nameOf a) (Tags.nameOf b) = .lt := by
  intro rows
  have tagged : ∀ row ∈ rows, row.Tagged := by
    have text {row : Row} {s : String} (found : Keyed.get? row "created_at" = some (.text s)) :
        ∀ v, Keyed.get? row "created_at" = some v → v = .null ∨ ∃ s, v = .text s :=
      fun v same => .inr ⟨s, Option.some_inj.mp (same.symm.trans found)⟩
    intro row mem
    simp only [rows, List.mem_cons, List.not_mem_nil, or_false] at mem
    rcases mem with rfl | rfl | rfl
    · exact ⟨⟨2, by decide, rfl⟩, ⟨_, rfl⟩, text rfl⟩
    · exact ⟨⟨1, by decide, rfl⟩, ⟨_, rfl⟩, text rfl⟩
    · exact ⟨⟨7, by decide, rfl⟩, ⟨_, rfl⟩, nofun⟩
  have apart : rows.Pairwise Row.Apart := by
    simp [rows, Row.Apart, Keyed.get?, List.lookup, Value.ofInt]
  exact ⟨by decide, derived_tags tagged apart⟩

end Tables

end BookmarkViews
