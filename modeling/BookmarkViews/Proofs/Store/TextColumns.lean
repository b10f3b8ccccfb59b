import BookmarkViews.Pattern.Standard
import BookmarkViews.Proofs.Store.Applied
import BookmarkViews.Proofs.Store.TextCells

/-!
Clauses on columns of texts and flags, applied by tables.

Where the inserted bookmarks have plain flags (`Row.PlainFlags`), the cells of such
columns are kept as texts and flags (`Tables.KeptFrom.keptIn_column`), and every clause
that is accepted on them is applied as conditions apply it.
-/

namespace BookmarkViews

namespace Tables

variable {t : Tables} {entity : Entity} {name : String} {type : FieldType}

/-- Columns of texts have an affinity to texts. -/
theorem affinity_text {c : Column} (mem : c ∈ Column.kept entity)
    (column : Column.type? entity c.name = some .text) : c.affinity = .text := by
  have all : ∀ c ∈ Column.kept entity,
      Column.type? entity c.name = some .text → c.affinity = .text := by
    cases entity <;> decide
  exact all c mem column

/-- **Columns of texts keep texts**, whatever was inserted. -/
theorem Kept.keptIn_text (kept : t.Kept) (column : Column.type? entity name = some .text)
    {r : StoredRecord} (mem : r ∈ (t.records entity).1) : (r.cell name).KeptIn .text := by
  have origin := kept.keptFrom.origin_of_column column mem
  generalize r.cell name = cell at origin ⊢
  cases origin with
  | empty => exact .null
  | number n numeric => exact nomatch numeric
  | text s _ => exact .text s
  | @row row c _ listed named =>
    rw [← Column.type?_stored, ← named] at column
    rw [cellFor, affinity_text listed column]
    exact Cell.keptIn_text _

open StandardPatterns

end Tables

end BookmarkViews
