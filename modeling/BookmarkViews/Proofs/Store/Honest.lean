import BookmarkViews.Store.Memory

/-!
Honest stores: they never fail to list the rows of an entity, and they apply the
clauses they accept by the meaning of conditions.

* `StoreClause.metBy_clock`: no clause looks at the clock, so honesty does not
  depend on when a store reads it.
* `MemoryRecords.store_honest`: records in memory are an honest store.
-/

namespace BookmarkViews

variable [PatternEngine]

namespace StoreClause

/-- Whether a stored row of an entity meets a clause. -/
def metBy (now : Instant) (entity : Entity) (row : Row) (c : StoreClause) : Bool :=
  c.test.passes now (Schema.of entity.stored) row

/-- The condition of a clause holds at one time when it holds at another. -/
theorem holds_condition_clock (c : StoreClause) (now later : Instant) (type : Option FieldType)
    (v : Value) : c.condition.holds now type v = c.condition.holds later type v := by
  obtain ⟨field, op⟩ := c
  cases op <;> simp [condition, Condition.holds]

/-- **No clause looks at the clock.** -/
theorem metBy_clock (now later : Instant) (entity : Entity) (row : Row) (c : StoreClause) :
    c.metBy now entity row = c.metBy later entity row :=
  c.holds_condition_clock now later _ _

end StoreClause

/-- An honest store lists the rows of every entity, and answers accepted clauses
with exactly the listed rows that meet them, in the same order. -/
structure Store.Honest (s : Store) : Prop where
  lists : ∀ entity, ∃ rows, s.fetch entity [] = .ok rows
  applies : ∀ (entity : Entity) (clauses : List StoreClause) (rows : List Row),
    (∀ c ∈ clauses, s.accepts entity c = true) → s.fetch entity [] = .ok rows →
      ∀ now, s.fetch entity clauses =
        .ok (rows.filter fun row => clauses.all (StoreClause.metBy now entity row))

namespace MemoryRecords

/-- What records in memory answer does not depend on the clock they read. -/
theorem fetch_store_clock (m : MemoryRecords) (now later : Instant) (entity : Entity)
    (clauses : List StoreClause) :
    (m.store now).fetch entity clauses = (m.store later).fetch entity clauses := by
  have same : ∀ row, (clauses.all fun c => c.test.passes now (Schema.of entity.stored) row) =
      clauses.all fun c => c.test.passes later (Schema.of entity.stored) row := by
    intro row
    rw [Bool.eq_iff_iff, List.all_eq_true, List.all_eq_true]
    exact forall₂_congr fun c _ => by
      rw [show c.test.passes now _ row = _ from c.metBy_clock now later entity row]
      rfl
  simp only [store, same]

/-- Without clauses all rows of an entity are listed. -/
theorem fetch_store_nil (m : MemoryRecords) (clock : Instant) (entity : Entity) :
    (m.store clock).fetch entity [] = .ok (m.rows entity) := by
  simp [store]

/-- **Records in memory are an honest store**, with given or derived tags and at
any clock. -/
theorem store_honest (m : MemoryRecords) (clock : Instant) : (m.store clock).Honest where
  lists entity := ⟨m.rows entity, m.fetch_store_nil clock entity⟩
  applies entity clauses rows _ listed now := by
    rw [m.fetch_store_nil] at listed
    obtain rfl := Except.ok.inj listed
    rw [m.fetch_store_clock clock now]
    rfl

end MemoryRecords

end BookmarkViews
