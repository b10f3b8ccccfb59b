import BookmarkViews.Pattern.Standard
import BookmarkViews.Proofs.Store.Applied
import BookmarkViews.Proofs.Store.Insertions
import BookmarkViews.Proofs.Store.TagSets

/-!
What tables return of the rows that were inserted.

* `Tables.get?_recordOf`: a typed row comes back as it was inserted, name by name;
* `Tables.kept_rows`: after any insertions the rows of those that succeeded come back, in the
  order of their ids, and the failures have changed nothing.
-/

namespace BookmarkViews

/-- Dropping entries only loses keys. -/
theorem Keyed.keys_filterMap_sublist {κ α β : Type} {f : α → Option β} (entries : List (κ × α)) :
    (keys (entries.filterMap fun e => (f e.2).map fun b => (e.1, b))).Sublist (keys entries) := by
  induction entries with
  | nil => exact .slnil
  | cons e entries ih =>
    cases kept : f e.2 with
    | none =>
      rw [List.filterMap_cons_none (by rw [kept, Option.map_none])]
      exact ih.cons e.1
    | some b =>
      rw [List.filterMap_cons_some (by rw [kept, Option.map_some])]
      exact ih.cons_cons e.1

/-! ### Typed rows -/

namespace Column

/-- The columns of bookmarks that hold texts and dates. -/
def texts : List String :=
  ["url", "title", "description", "domain", "created_at", "updated_at", "last_visited", "notes"]

/-- The columns of bookmarks that hold integers, besides the id. -/
def integers : List String :=
  ["stars", "visit_count", "http_status"]

/-- The columns of bookmarks that hold flags. -/
def flags : List String :=
  ["archived", "pinned"]

/-- Every column of bookmarks is of one of four kinds. -/
theorem kinds : ∀ c ∈ bookmarks,
    (c.name ∈ texts ∧ c.affinity = .text ∧
      (type? .bookmark c.name = none ∨ type? .bookmark c.name = some .text)) ∨
    (c.name ∈ integers ∧ c.affinity = .integer ∧ type? .bookmark c.name = some .int) ∨
    (c.name ∈ flags ∧ c.affinity = .integer ∧ type? .bookmark c.name = some .bool) ∨
    (c.name = "content" ∧ c.affinity = .text ∧ type? .bookmark c.name = none) := by
  decide

end Column

/-- A row of a bookmark whose values are of the types of their columns: an id and an address,
texts, integers and flags that may be null or absent, tags without separators, and an object
as its content. -/
structure Row.Typed (row : Row) : Prop where
  id : row.HasId
  url : ∃ s, Keyed.get? row "url" = some (.text s)
  texts : ∀ name ∈ Column.texts, ∀ v, Keyed.get? row name = some v →
    v = .null ∨ ∃ s, v = .text s
  integers : ∀ name ∈ Column.integers, ∀ v, Keyed.get? row name = some v →
    v = .null ∨ ∃ n, Decimal.fits64 n = true ∧ v = .ofInt n
  flags : ∀ name ∈ Column.flags, ∀ v, Keyed.get? row name = some v →
    v = .null ∨ ∃ b, v = .bool b
  tags : ∀ v, Keyed.get? row "tags" = some v →
    ∃ tags : List String, v = .list (tags.map .text) ∧
      ∀ tag ∈ tags, Tables.tagSeparator ∉ tag.toList
  content : ∀ v, Keyed.get? row "content" = some v → ∃ fields, v = .object fields

/-- The content of a row is read back from its JSON text. -/
def Row.ReadBack (row : Row) : Prop :=
  ∀ fields, Keyed.get? row "content" = some (.object fields) →
    Json.read? (Value.object fields).compactChars = some (.object fields)

/-- What is kept of a row under a name: its tags, also where it has none, and the values of
columns that are not null. -/
def Row.kept? (row : Row) (name : String) : Option Value :=
  if name = "tags" then some ((Keyed.get? row "tags").getD (.list []))
  else if name = "id" ∨ name ∈ Column.bookmarks.map Column.name then
    (Keyed.get? row name).filter (!·.isNull)
  else none

namespace Tables

variable {row : Row} {c : Column}

/-! ### One column -/

theorem exists_of_not_lacks {name : String} (something : ¬ Lacks row name) :
    ∃ v, Keyed.get? row name = some v ∧ v ≠ .null := by
  unfold Lacks at something
  cases found : Keyed.get? row name with
  | none => simp [found] at something
  | some v => exact ⟨v, rfl, by simpa [found] using something⟩

theorem filter_of_lacks {name : String} (lacks : Lacks row name) :
    (Keyed.get? row name).filter (!·.isNull) = none := by
  unfold Lacks at lacks
  cases found : Keyed.get? row name with
  | none => rfl
  | some v =>
    rw [found, Option.getD_some] at lacks
    rw [lacks]
    rfl

theorem filter_of_ne_null {v : Value} (something : v ≠ .null) :
    (some v).filter (!·.isNull) = some v := by
  cases v with
  | null => exact absurd rfl something
  | bool b | number n | text s | list items | object fields => rfl

/-- Apart from flags and contents, values are shown as they are. -/
theorem shown_of_mem {name : String} (plain : name ∈ Column.texts ∨ name ∈ Column.integers)
    (v : Value) : shown name v = v := by
  have other : ∀ name ∈ Column.texts ++ Column.integers,
      name ≠ "archived" ∧ name ≠ "pinned" ∧ name ≠ "content" := by
    decide
  obtain ⟨archived, pinned, content⟩ := other name (List.mem_append.mpr plain)
  simp [shown, archived, pinned, content]

theorem prepare_flag (b : Bool) :
    Cell.prepare (some .bool) (.bool b) = .integer (if b then 1 else 0) :=
  rfl

theorem prepare_object (fields : List (String × Value)) :
    Cell.prepare none (.object fields) = .text (Value.object fields).compact :=
  rfl

theorem shown_flag {name : String} (flag : name ∈ Column.flags) (b : Bool) :
    shown name (.ofInt (if b then 1 else 0)) = .bool b := by
  have named : name = "archived" ∨ name = "pinned" := by
    simpa [Column.flags] using flag
  rw [shown, if_pos (by simpa using named)]
  cases b <;> rfl

theorem shown_content {v : Value} (back : Json.read? v.compactChars = some v) :
    shown "content" (.text v.compact) = v := by
  change contentOf (.text v.compact) = v
  rw [contentOf, Value.compact, String.toList_ofList, back, Option.getD_some]

/-- **A column shows the value of a typed row**, and nothing where the value is null or
absent. -/
theorem shown_cellFor (typed : row.Typed) (back : row.ReadBack) (mem : c ∈ Column.bookmarks) :
    (cellFor .bookmark row c).toValue?.map (shown c.name) =
      (Keyed.get? row c.name).filter (!·.isNull) := by
  by_cases lacks : Lacks row c.name
  · rw [cellFor_eq_null_iff.mpr lacks, filter_of_lacks lacks]
    rfl
  obtain ⟨v, found, something⟩ := exists_of_not_lacks lacks
  rw [cellFor, found, Option.getD_some, filter_of_ne_null something]
  rcases Column.kinds c mem with ⟨kind, affinity, type⟩ | ⟨kind, affinity, type⟩ |
    ⟨kind, affinity, type⟩ | ⟨kind, affinity, type⟩
  · -- texts and dates
    obtain ⟨s, rfl⟩ := (typed.texts _ kind v found).resolve_left something
    have cell : Cell.prepare (Column.type? .bookmark c.name) (.text s) = .text s := by
      rcases type with type | type <;> rw [type] <;> rfl
    rw [affinity, cell, Affinity.keep, Cell.toValue?, Option.map_some, shown_of_mem (.inl kind)]
  · -- integers
    obtain ⟨n, fits, rfl⟩ := (typed.integers _ kind v found).resolve_left something
    rw [affinity, type, prepare_int fits, Affinity.keep, Cell.toValue?, Option.map_some,
      shown_of_mem (.inr kind)]
  · -- flags
    obtain ⟨b, rfl⟩ := (typed.flags _ kind v found).resolve_left something
    rw [affinity, type, prepare_flag, Affinity.keep, Cell.toValue?, Option.map_some,
      shown_flag kind]
  · -- the content
    rw [kind] at found
    obtain ⟨fields, rfl⟩ := typed.content v found
    rw [affinity, type, kind, prepare_object, Affinity.keep, Cell.toValue?, Option.map_some,
      shown_content (back fields found)]

/-! ### One row -/

/-- The cell of a column in the record of a row. -/
theorem cell_recordOf (id : Int) (mem : c ∈ Column.bookmarks) :
    (bookmarkRecord (recordOf id row)).cell c.name = cellFor .bookmark row c := by
  have notId : ∀ c ∈ Column.bookmarks, c.name ≠ "id" := by decide
  change ((Keyed.get? (("id", Cell.integer id) :: keptCells .bookmark row Column.bookmarks)
    c.name).getD .null) = _
  rw [Keyed.get?_cons, if_neg (notId c mem), get?_keptCells row (by decide) mem,
    Option.getD_some]

theorem keys_recordOf (id : Int) (row : Row) :
    Keyed.keys (bookmarkRecord (recordOf id row)).cells =
      "id" :: Column.bookmarks.map Column.name := by
  rw [← keys_keptCells .bookmark row]
  rfl

theorem nodup_recordOf (id : Int) (row : Row) :
    (Keyed.keys (bookmarkRecord (recordOf id row)).cells).Nodup := by
  rw [keys_recordOf]
  decide

/-- The row of a record has every name once. -/
theorem nodup_bookmarkRow (id : Int) (row : Row) :
    (Keyed.keys (bookmarkRow (bookmarkRecord (recordOf id row)))).Nodup := by
  have names : (Keyed.keys ((bookmarkRecord (recordOf id row)).filledRow.map
      fun f => (f.1, shown f.1 f.2))).Sublist ("id" :: Column.bookmarks.map Column.name) := by
    rw [← keys_recordOf id row, Keyed.keys, List.map_map]
    exact Keyed.keys_filterMap_sublist _
  rw [bookmarkRow, Keyed.keys_append]
  exact ((names.append_right ["tags"]).nodup) (by decide)

/-- The tags of a typed row come back, and no tags where it has none. -/
theorem travelled_tagsOf (typed : row.Typed) :
    Value.list ((travelled (tagsOf row)).map .text) =
      (Keyed.get? row "tags").getD (.list []) := by
  rw [tagsOf]
  cases found : Keyed.get? row "tags" with
  | none => rfl
  | some v =>
    obtain ⟨tags, rfl, clean⟩ := typed.tags v found
    have listed : (tags.map Value.text).filterMap Value.text? = tags := by
      rw [List.filterMap_map]
      exact List.filterMap_some
    simp only [listed, travelled_eq_iff.mpr clean, Option.getD_some]

/-- **A typed row comes back as it was inserted.** -/
theorem get?_recordOf (typed : row.Typed) (back : row.ReadBack) {id : Int}
    (asked : Keyed.get? row "id" = some (.ofInt id)) (name : String) :
    Keyed.get? (bookmarkRow (bookmarkRecord (recordOf id row))) name = row.kept? name := by
  rw [get?_bookmarkRow (nodup_recordOf id row), Row.kept?]
  have noCell (other : name ∉ "id" :: Column.bookmarks.map Column.name) :
      (bookmarkRecord (recordOf id row)).cell name = .null := by
    rw [← keys_recordOf id row] at other
    rw [StoredRecord.cell, Keyed.get?_eq_none_of_notMem other, Option.getD_none]
  by_cases tags : name = "tags"
  · rw [noCell (by rw [tags]; decide), if_pos tags, if_pos tags, ← travelled_tagsOf typed]
    rfl
  rw [if_neg tags, if_neg tags, Option.or_none]
  by_cases isId : name = "id"
  · rw [if_pos (.inl isId), isId, asked]
    rfl
  by_cases column : name ∈ Column.bookmarks.map Column.name
  · rw [if_pos (.inr column)]
    obtain ⟨c, mem, rfl⟩ := List.mem_map.mp column
    rw [cell_recordOf id mem, shown_cellFor typed back mem]
  · rw [if_neg (not_or.mpr ⟨isId, column⟩), noCell (by simp [isId, column])]
    rfl

/-- A row is what is kept of another, as a mapping. -/
structure Shows (shown row : Row) : Prop where
  distinct : (Keyed.keys shown).Nodup
  values : ∀ name, Keyed.get? shown name = row.kept? name

theorem shows_recordOf (typed : row.Typed) (back : row.ReadBack) {id : Int}
    (asked : Keyed.get? row "id" = some (.ofInt id)) :
    Shows (bookmarkRow (bookmarkRecord (recordOf id row))) row :=
  ⟨nodup_bookmarkRow id row, get?_recordOf typed back asked⟩

/-! ### Many insertions -/

variable {t : Tables} {rows : List Row}

/-- A row comes before another in the order of ids. -/
def Before (row other : Row) : Prop :=
  ∃ m n, Keyed.get? row "id" = some (.ofInt m) ∧ Keyed.get? other "id" = some (.ofInt n) ∧ m < n

/-- What is in order on one list is in order on a list that is related to it. -/
theorem pairwise_of_forall₂ {α β : Type} {R : α → β → Prop} {S : α → α → Prop} {T : β → β → Prop}
    {as : List α} {bs : List β} (each : List.Forall₂ R as bs) (ordered : as.Pairwise S)
    (carry : ∀ a a' b b', R a b → R a' b' → S a a' → T b b') : bs.Pairwise T := by
  obtain ⟨length, each⟩ := List.forall₂_iff_get.mp each
  refine List.pairwise_iff_getElem.mpr fun i j hi hj lt => ?_
  have before := List.pairwise_iff_getElem.mp ordered i j (length ▸ hi) (length ▸ hj) lt
  exact carry _ _ _ _ (each i (length ▸ hi) hi) (each j (length ▸ hj) hj) before

/-- **What tables return of the bookmarks they hold.** -/
theorem Holds.fetch [PatternEngine] (h : t.Holds rows) (typed : ∀ row ∈ rows, row.Typed)
    (back : ∀ row ∈ rows, row.ReadBack) :
    ∃ listed shown, t.fetch .bookmark [] = .ok shown ∧ listed.Perm rows ∧
      listed.Pairwise Before ∧ List.Forall₂ Shows shown listed := by
  have both : ∀ row ∈ rows, row.Typed ∧ row.ReadBack :=
    fun row mem => ⟨typed row mem, back row mem⟩
  obtain ⟨listed, each, perm⟩ := h.listed_and both
  refine ⟨listed, _, t.fetch_nil .bookmark, perm, ?_, ?_⟩
  · refine pairwise_of_forall₂ each h.ordered ?_
    rintro b b' row row' ⟨⟨typed, -⟩, keeps⟩ ⟨⟨typed', -⟩, keeps'⟩ before
    exact ⟨b.id, b'.id, keeps.get?_id typed.id, keeps'.get?_id typed'.id, before⟩
  · change List.Forall₂ Shows ((t.bookmarks.map bookmarkRecord).map bookmarkRow) listed
    rw [List.map_map, List.forall₂_map_left_iff]
    refine each.imp ?_
    rintro b row ⟨⟨typed, back⟩, keeps⟩
    change Shows (bookmarkRow (bookmarkRecord b)) row
    rw [keeps.record]
    exact shows_recordOf typed back (keeps.get?_id typed.id)

theorem insertAll_sublist (t : Tables) (is : List Insertion) : (t.insertAll is).1.Sublist is := by
  induction is generalizing t with
  | nil => exact .slnil
  | cons i is ih =>
    rw [insertAll]
    cases t.insert? i with
    | error e => exact (ih t).cons i
    | ok t' => exact (ih t').cons_cons i

theorem mem_bookmarkRows {is : List Insertion} : row ∈ bookmarkRows is ↔ .bookmark row ∈ is := by
  rw [bookmarkRows, List.mem_filterMap]
  constructor
  · rintro ⟨i, mem, found⟩
    cases i with
    | bookmark row' =>
      obtain rfl := Option.some_inj.mp found
      exact mem
    | edge row' => exact nomatch found
  · intro mem
    exact ⟨.bookmark row, mem, rfl⟩

/-- **Tables keep what they are given.** After any insertions into empty tables, one more
fails exactly when it is refused, and then nothing that can be fetched changes. When the rows of
bookmarks are typed and their contents are read back from JSON text, the rows of the insertions
that succeeded come back, in the order of their ids, each as it was inserted. -/
theorem kept_rows [PatternEngine] (is : List Insertion) :
    (∀ i, (∃ e, (insertAll {} is).2.insert? i = .error e) ↔ (insertAll {} is).2.Refused i) ∧
    (∀ i e, (insertAll {} is).2.insert? i = .error e → ∀ entity clauses,
      (insertAll {} (is ++ [i])).2.fetch entity clauses =
        (insertAll {} is).2.fetch entity clauses) ∧
    ((∀ row, .bookmark row ∈ is → row.Typed) → (∀ row, .bookmark row ∈ is → row.ReadBack) →
      ∃ listed shown, (insertAll {} is).2.fetch .bookmark [] = .ok shown ∧
        listed.Perm (bookmarkRows (insertAll {} is).1) ∧
        listed.Pairwise Before ∧ List.Forall₂ Shows shown listed) := by
  refine ⟨fun i => refused_iff, fun i e failed entity clauses => ?_, fun typed back => ?_⟩
  · rw [insertAll_refused (refused_iff.mp ⟨e, failed⟩)]
  · have holds : (insertAll {} is).2.Holds (bookmarkRows (insertAll {} is).1) := by
      simpa using holds_empty.insertAll is
    have given : ∀ row ∈ bookmarkRows (insertAll {} is).1, .bookmark row ∈ is := fun row mem =>
      (insertAll_sublist {} is).subset (mem_bookmarkRows.mp mem)
    exact holds.fetch (fun row mem => typed row (given row mem))
      (fun row mem => back row (given row mem))

open StandardPatterns

/-- A bookmark that is inserted twice, an edge that leads nowhere, and an earlier bookmark. -/
theorem kept_rows_mixed :
    let early : Row := [("id", .ofInt 1), ("url", .text "https://a.example")]
    let late : Row := [("id", .ofInt 2), ("url", .text "https://b.example"), ("title", .null),
      ("stars", .ofInt 5), ("archived", .bool true), ("tags", .list [.text "ai/nlp", .text ""]),
      ("content", .object [("summary", .text "s")]), ("colour", .text "red")]
    let is : List Insertion :=
      [.bookmark late, .bookmark late, .edge [("source", .ofInt 1)], .bookmark early]
    (insertAll {} is).1 = [.bookmark late, .bookmark early] ∧
      (insertAll {} (is ++ [.bookmark early])).2.fetch .bookmark [] =
        (insertAll {} is).2.fetch .bookmark [] ∧
      ∃ listed shown, (insertAll {} is).2.fetch .bookmark [] = .ok shown ∧
        listed.Perm [late, early] ∧ listed.Pairwise Before ∧
        List.Forall₂ Shows shown listed := by
  intro early late is
  have typedEarly : early.Typed :=
    { id := ⟨1, by decide, rfl⟩
      url := ⟨_, rfl⟩
      texts := by simp [early, Column.texts, Keyed.get?, List.lookup]
      integers := by simp [early, Column.integers, Keyed.get?, List.lookup]
      flags := by simp [early, Column.flags, Keyed.get?, List.lookup]
      tags := by simp [early, Keyed.get?, List.lookup]
      content := by simp [early, Keyed.get?, List.lookup] }
  have typedLate : late.Typed :=
    { id := ⟨2, by decide, rfl⟩
      url := ⟨_, rfl⟩
      texts := by simp [late, Column.texts, Keyed.get?, List.lookup]
      integers := by
        have five : Decimal.fits64 5 = true := by decide
        simp [late, Column.integers, Keyed.get?, List.lookup, Value.ofInt, five]
      flags := by simp [late, Column.flags, Keyed.get?, List.lookup]
      tags := fun v found => ⟨["ai/nlp", ""], (Option.some_inj.mp found).symm, by decide⟩
      content := fun v found => ⟨_, (Option.some_inj.mp found).symm⟩ }
  have backLate : late.ReadBack := by
    intro fields found
    obtain rfl := Value.object.inj (Option.some_inj.mp found)
    decide +kernel
  have backEarly : early.ReadBack := by
    simp [early, Row.ReadBack, Keyed.get?, List.lookup]
  have rows : ∀ row, .bookmark row ∈ is → row = late ∨ row = early := by
    simp [is]
  obtain ⟨-, unchanged, kept⟩ := kept_rows is
  refine ⟨by decide, unchanged (.bookmark early)
    (.database "UNIQUE constraint failed: bookmarks.id") (by decide) .bookmark [], kept ?_ ?_⟩
  · intro row mem
    rcases rows row mem with rfl | rfl
    · exact typedLate
    · exact typedEarly
  · intro row mem
    rcases rows row mem with rfl | rfl
    · exact backLate
    · exact backEarly

end Tables

end BookmarkViews
