import BookmarkViews.Store.Basic
import BookmarkViews.Store.Tags

/-!
Records held in memory.

Such a store applies every clause, by the meaning of conditions itself. Its tags
are derived from the bookmarks unless they are given.
-/

namespace BookmarkViews

variable [PatternEngine]

structure MemoryRecords where
  bookmarks : List Row := []
  tags : Option (List Row) := none
  edges : List Row := []
deriving DecidableEq

namespace MemoryRecords

/-- The objects among values, as rows. -/
def rowsOf (values : List Value) : List Row :=
  values.filterMap Value.object?

/-- The records of values; what is not an object is left out. -/
def ofValues (bookmarks edges : List Value) : MemoryRecords :=
  { bookmarks := rowsOf bookmarks, edges := rowsOf edges }

/-- The rows of tags, given or derived. -/
def tagRows (m : MemoryRecords) : List Row :=
  m.tags.getD (Tags.derive m.bookmarks)

/-- All rows of an entity. -/
def rows (m : MemoryRecords) : Entity → List Row
  | .bookmark | .stats => m.bookmarks
  | .tag => m.tagRows
  | .edge => m.edges

/-- The records as a store. No clause looks at the clock. -/
def store (m : MemoryRecords) (clock : Instant := ⟨0, 0⟩) : Store where
  accepts _ _ := true
  fetch entity clauses :=
    let schema := Schema.of entity.stored
    .ok ((m.rows entity).filter fun row =>
      clauses.all fun c => c.test.passes clock schema row)

end MemoryRecords

end BookmarkViews
