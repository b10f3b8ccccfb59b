import BookmarkViews.Proofs.Condition.Hierarchies
import BookmarkViews.Proofs.Store.TagSets
import BookmarkViews.Proofs.Store.TextColumns

/-!
Stores that keep paths in a field and look for patterns in it.

`Store.Files` asks of one field what a hierarchy needs: it shows paths, and a set of patterns
that is asked for besides other clauses leaves the rows that meet it. Honest stores file by
every field of paths (`Store.Honest.files`), and so do tables where no tag has a separator in
it, apart from queries that are too large (`Tables.Kept.files`). Where one has, tables do not
find it by the path that they show it under (`Tables.finds_under_iff`).
-/

namespace BookmarkViews

/-- A store that keeps paths in a field, and leaves of its rows those that meet a set of
patterns there when the set is asked for as well. It fails in some ways only, and never
because less is asked for. -/
structure Store.Files (s : Store) (entity : Entity) (field : FieldPath)
    (mayFail : StoreError → Prop) : Prop where
  shows : ∀ clauses rows, (∀ c ∈ clauses, s.accepts entity c = true) →
    s.fetch entity clauses = .ok rows → ∀ row ∈ rows, (Row.at row field).IsPathSet
  narrows : ∀ patterns before after, s.accepts entity ⟨field, .anyOf patterns⟩ = true →
    (∀ c ∈ before ++ after, s.accepts entity c = true) →
    (∃ rows, s.fetch entity (before ++ after) = .ok rows ∧
      s.fetch entity (before ++ ⟨field, .anyOf patterns⟩ :: after) =
        .ok (rows.filter fun row => Quantifier.any.holdsOf patterns (Row.at row field))) ∨
    ∃ e, mayFail e ∧ s.fetch entity (before ++ ⟨field, .anyOf patterns⟩ :: after) = .error e

/-- Tables in which no tag has a separator in it. -/
def Tables.CleanTags (t : Tables) : Prop :=
  ∀ b ∈ t.bookmarks, ∀ tag ∈ b.tags, Tables.tagSeparator ∉ tag.toList

/-- The rows that a store lists of an entity have paths in a field. -/
def Store.ListsPaths (s : Store) (entity : Entity) (field : FieldPath) : Prop :=
  ∀ rows, s.fetch entity [] = .ok rows → ∀ row ∈ rows, (Row.at row field).IsPathSet

variable {entity : Entity} {field : FieldPath} {patterns : List String}

theorem accepts_cons_between {accepts : StoreClause → Bool} {c : StoreClause}
    {before after : List StoreClause} (accepted : accepts c = true)
    (others : ∀ d ∈ before ++ after, accepts d = true) :
    ∀ d ∈ before ++ c :: after, accepts d = true := by
  intro d mem
  rcases List.mem_append.mp mem with mem | mem
  · exact others d (List.mem_append_left _ mem)
  · rcases List.mem_cons.mp mem with rfl | mem
    · exact accepted
    · exact others d (List.mem_append_right _ mem)

/-- A test between others is one more test. -/
theorem all_cons_between {α : Type} (test : α → Bool) (before after : List α) (a : α) :
    (before ++ a :: after).all test = (test a && (before ++ after).all test) := by
  simp only [List.all_append, List.all_cons, Bool.and_left_comm]

/-! ### Honest stores -/

variable [PatternEngine]

/-- **An honest store files by every field of paths**, and does not fail. -/
theorem Store.Honest.files {s : Store} (honest : s.Honest) (paths : s.ListsPaths entity field) :
    s.Files entity field fun _ => False where
  shows clauses rows accepted found row mem := by
    obtain ⟨listed, all⟩ := honest.lists entity
    rw [honest.applies entity clauses listed accepted all ⟨0, 0⟩] at found
    rw [← Except.ok.inj found] at mem
    exact paths listed all row (List.mem_of_mem_filter mem)
  narrows patterns before after accepted others := by
    obtain ⟨listed, all⟩ := honest.lists entity
    refine .inl ⟨_, honest.applies entity _ listed others all ⟨0, 0⟩, ?_⟩
    rw [honest.applies entity _ listed (accepts_cons_between accepted others) all ⟨0, 0⟩,
      List.filter_filter]
    simp only [all_cons_between]
    rfl

/-! ### Tables -/

namespace Tables

variable {t : Tables}

omit [PatternEngine] in
/-- The only column of lists are the tags of bookmarks. -/
theorem tags_of_list {name : String} (column : Column.type? entity name = some .list) :
    entity.stored = .bookmark ∧ name = "tags" := by
  have all : ∀ c ∈ Column.typed, c.2.2 = .list → c.1 = .bookmark ∧ c.2.1 = "tags" := by decide
  exact all _ (Column.mem_typed column) rfl

omit [PatternEngine] in
/-- Rows of bookmarks show paths as tags. -/
theorem Kept.isPathSet_tags (kept : t.Kept) {b : StoredBookmark} (mem : b ∈ t.bookmarks) :
    (Row.at (bookmarkRow (bookmarkRecord b)) ⟨"tags", []⟩).IsPathSet := by
  rw [at_tags kept mem]
  exact .list _

/-- **A record passes a set of patterns when its row meets it**, in tags without separators and
in columns of texts. -/
theorem Kept.meets_anyOf (kept : t.Kept) (clean : t.CleanTags)
    (accepted : t.store.accepts entity ⟨field, .anyOf patterns⟩ = true) {r : StoredRecord}
    (mem : r ∈ (t.records entity).1) : r.meets entity ⟨field, .anyOf patterns⟩ =
      Quantifier.any.holdsOf patterns (Row.at ((t.records entity).2 r) field) := by
  obtain ⟨⟨name, test⟩, read⟩ := Option.isSome_iff_exists.mp accepted
  obtain ⟨single, type, column, made⟩ := CellTest.ofClause?_eq_some_iff.mp read
  obtain rfl : field = ⟨name, []⟩ := single
  have kind : type = .text ∨ type = .list := by
    cases type <;> simp [CellTest.ofOp?] at made ⊢
  rcases kind with rfl | rfl
  · rw [StoredRecord.meets, read, Option.any_some, kept.at_column column (by decide) mem]
    exact (CellTest.madeOf_of_ofOp? (.inl rfl) made).agrees r.tags (kept.keptIn_text column mem)
      ⟨0, 0⟩ ⟨name, []⟩
  · obtain ⟨bookmarks, rfl⟩ := tags_of_list column
    have some : patterns ≠ [] := by
      rintro rfl
      simp [CellTest.ofOp?, CellTest.patterns?] at made
    -- Statistics are tested like the bookmarks that they are made of.
    have tagged {b : StoredBookmark} (stored : b ∈ t.bookmarks) :
        (bookmarkRecord b).meets .bookmark ⟨⟨"tags", []⟩, .anyOf patterns⟩ =
          Quantifier.any.holdsOf patterns
            (Row.at (bookmarkRow (bookmarkRecord b)) ⟨"tags", []⟩) := by
      have met : StoreClause.metBy ⟨0, 0⟩ .bookmark (bookmarkRow (bookmarkRecord b))
          ⟨⟨"tags", []⟩, .anyOf patterns⟩ = _ := metBy_tags kept stored ⟨0, 0⟩
      rw [travelled_eq_iff.mpr (clean b stored)] at met
      exact (meets_tags some).trans met.symm
    cases entity with
    | bookmark | stats =>
      obtain ⟨b, stored, rfl⟩ := List.mem_map.mp mem
      exact tagged stored
    | tag | edge => cases bookmarks

/-- **Tables file by every field of paths**, where no tag has a separator in it. They fail
only where too much is asked. -/
theorem Kept.files (kept : t.Kept) (clean : t.CleanTags) (paths : t.store.ListsPaths entity field) :
    t.store.Files entity field (· = tooLarge) where
  shows clauses rows accepted found row mem := by
    rw [fetch_of_accepts accepted] at found
    split_ifs at found
    rw [← Except.ok.inj found] at mem
    obtain ⟨r, met, rfl⟩ := List.mem_map.mp mem
    exact paths _ (fetch_nil t entity) _ (List.mem_map_of_mem (List.mem_of_mem_filter met))
  narrows patterns before after accepted others := by
    rw [fetch_of_accepts others, fetch_of_accepts (accepts_cons_between accepted others)]
    cases large : refuses entity (before ++ ⟨field, .anyOf patterns⟩ :: after) with
    | true => exact .inr ⟨_, rfl, if_pos rfl⟩
    | false =>
      have fits : refuses entity (before ++ after) = false := by
        rw [Bool.eq_false_iff] at large ⊢
        exact mt (refuses_of_sublist (.append_left (List.sublist_cons_self _ _) before)) large
      rw [fits, if_neg Bool.false_ne_true, if_neg Bool.false_ne_true]
      refine .inl ⟨_, rfl, ?_⟩
      rw [List.filter_map, List.filter_filter]
      simp only [all_cons_between]
      congr 2
      refine List.filter_congr fun r mem => ?_
      rw [kept.meets_anyOf clean accepted mem]
      rfl

/-- Tables list paths as tags of bookmarks. -/
theorem Kept.listsPaths_tags (kept : t.Kept) : t.store.ListsPaths .bookmark ⟨"tags", []⟩ := by
  intro rows listed row mem
  rw [fetch_nil] at listed
  rw [← Except.ok.inj listed] at mem
  obtain ⟨r, record, rfl⟩ := List.mem_map.mp mem
  obtain ⟨b, stored, rfl⟩ := List.mem_map.mp record
  exact kept.isPathSet_tags stored

/-- What is found by a path with a separator in it is not shown under the path. -/
theorem not_holds_under (kept : t.Kept) {b : StoredBookmark} (mem : b ∈ t.bookmarks)
    {path : String} (plain : IsPlainPath path) (separator : tagSeparator ∈ path.toList)
    (now : Instant) (type : Option FieldType) :
    Condition.holds now type (Row.at (bookmarkRow (bookmarkRecord b)) ⟨"tags", []⟩)
      (Condition.under path) = false := by
  rw [Condition.holds_under plain (kept.isPathSet_tags mem), Bool.eq_false_iff]
  intro holds
  have met : StoreClause.metBy now .bookmark (bookmarkRow (bookmarkRecord b))
      ⟨⟨"tags", []⟩, .anyOf (pathPatterns path)⟩ = true := holds
  rw [metBy_tags kept mem now] at met
  obtain ⟨pattern, asked, found⟩ := List.any_eq_true.mp met
  obtain ⟨piece, back, meets⟩ := List.any_eq_true.mp found
  have inPattern : tagSeparator ∈ pattern.toList := by
    simp only [pathPatterns, List.mem_cons, List.not_mem_nil, or_false] at asked
    rcases asked with rfl | rfl
    · exact separator
    · rw [String.toList_append]
      exact List.mem_append_left _ separator
  exact notMem_of_mem_travelled back (mem_of_patternMeets meets inPattern (by decide))

omit [PatternEngine] in
theorem refuses_pathPatterns (path : String) :
    refuses .bookmark [⟨⟨"tags", []⟩, .anyOf (pathPatterns path)⟩] = false :=
  refuses_tags_of_le (Nat.le_of_ble_eq_true rfl)

/-- **When tables find what lies under a path.** Asked for the patterns of a path, they find
the listed bookmarks with a tag under the path, for every plain path, exactly when no tag has a
separator in it. -/
theorem Kept.finds_under_iff (kept : t.Kept) (now : Instant) :
    (∀ path, IsPlainPath path → ∃ listed, t.store.fetch .bookmark [] = .ok listed ∧
      t.store.fetch .bookmark [⟨⟨"tags", []⟩, .anyOf (pathPatterns path)⟩] =
        .ok (listed.filter fun row =>
          (Condition.under path).holds now (some .list) (Row.at row ⟨"tags", []⟩))) ↔
      t.CleanTags := by
  have asked (path : String) : pathPatterns path ≠ [] := List.cons_ne_nil _ _
  constructor
  · intro finds b mem tag inserted separator
    obtain ⟨path, plain, lies, has⟩ := exists_plainPath tag.toList
    rw [String.ofList_toList] at lies
    obtain ⟨listed, all, found⟩ := finds path plain
    have listed_eq : listed = t.bookmarks.map fun b => bookmarkRow (bookmarkRecord b) := by
      rw [fetch_nil] at all
      rw [← Except.ok.inj all]
      exact List.map_map
    rw [fetch_tags (asked path), refuses_pathPatterns, if_neg Bool.false_ne_true,
      listed_eq] at found
    have agree := map_filter_eq_filter_map_iff.mp (Except.ok.inj found) b mem
    rw [not_holds_under kept mem plain (has _ separator (by decide) (by decide))] at agree
    obtain ⟨pattern, listed, meets⟩ :=
      List.any_eq_true.mp ((any_pathPatterns_iff plain.2).mpr lies)
    have found : ((pathPatterns path).any fun p => b.tags.any (patternMeets p)) = true :=
      List.any_eq_true.mpr ⟨pattern, listed, List.any_eq_true.mpr ⟨tag, inserted, meets⟩⟩
    exact nomatch found.symm.trans agree
  · intro clean path plain
    have files := kept.files clean kept.listsPaths_tags
    obtain ⟨rows, listed, found⟩ | ⟨e, rfl, failed⟩ :=
      files.narrows (pathPatterns path) [] [] (t.accepts_tags (asked path)) nofun
    · refine ⟨rows, listed, found.trans (congrArg _ (List.filter_congr fun row mem => ?_))⟩
      have paths := kept.listsPaths_tags rows listed row mem
      exact (Condition.holds_under plain paths now (some .list)).symm
    · rw [List.nil_append, fetch_tags (asked path), refuses_pathPatterns] at failed
      exact nomatch failed

end Tables

end BookmarkViews
