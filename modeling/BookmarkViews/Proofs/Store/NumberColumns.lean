import BookmarkViews.Pattern.Standard
import BookmarkViews.Proofs.Store.Applied
import BookmarkViews.Proofs.Store.Columns

/-!
Clauses on columns of numbers, applied by tables and by conditions.

`Tables.fetch_number_column` says exactly when the tables answer such a clause with
the listed rows that meet it: when no record has a cell on which the two
comparisons part (`ClauseOp.Parts`). Such cells exist
(`Tables.fetch_parts_from_conditions`), so tables are not an honest store.
-/

namespace BookmarkViews

namespace Tables

variable {t : Tables} {entity : Entity} {name : String} {type : FieldType}

/-- Columns of numbers have an affinity to numbers. -/
def NumbersKept (entity : Entity) (columns : List Column) : Prop :=
  ∀ c ∈ columns, ∀ type, Column.type? entity c.name = some type → type.isNumeric = true →
    c.affinity ≠ .text

theorem numbersKept (entity : Entity) : NumbersKept entity (Column.kept entity) := by
  have all : ∀ c ∈ Column.kept entity, (Column.type? entity c.name).any FieldType.isNumeric = true →
      c.affinity ≠ .text := by
    cases entity <;> decide
  intro c mem type column numeric
  exact all c mem (by rw [column]; exact numeric)

/-- **A row shows in a column of numbers what its record holds there**, and that is
settled. -/
theorem at_number_column (kept : t.Kept) (column : Column.type? entity name = some type)
    (numeric : type.isNumeric = true) {r : StoredRecord} (mem : r ∈ (t.records entity).1) :
    ((t.records entity).2 r).at ⟨name, []⟩ = (r.cell name).shown ∧ (r.cell name).Settled := by
  have notList : type ≠ .list := by
    rintro rfl
    cases numeric
  have notFlag : type ≠ .bool := by
    rintro rfl
    cases numeric
  constructor
  · rw [kept.at_column column notList mem, Cell.shownIn, if_neg notFlag]
  · have origin := kept.keptFrom.origin_of_column column mem
    generalize r.cell name = cell at origin ⊢
    cases origin with
    | empty => exact Cell.settled_null
    | number n => exact Cell.settled_integer n
    | text s texts =>
      rw [texts] at numeric
      cases numeric
    | @row row c _ mem named =>
      rw [← Column.type?_stored, ← named] at column
      rw [cellFor, column]
      exact Cell.settled_keep (numbersKept entity.stored c mem type column numeric)
        (Cell.settled_prepare numeric _)

/-! ### One clause -/

variable {op : ClauseOp} {cmp : Comparison} {operand : NumberOperand}

theorem finite_of_number? (number : op.number? = some (cmp, operand)) :
    operand.isFinite = true := by
  obtain ⟨s, read, -⟩ := ClauseOp.cases_of_number? number
  rcases ofScalar?_cases read with ⟨_, -, -, finite⟩ | ⟨_, -, -, finite⟩ <;> exact finite

/-- The test of a clause on a column of numbers. -/
theorem ofClause?_number_column (column : Column.type? entity name = some type)
    (numeric : type.isNumeric = true) (number : op.number? = some (cmp, operand)) :
    CellTest.ofClause? entity ⟨⟨name, []⟩, op⟩ = some (name, .number cmp operand) := by
  have test : CellTest.ofOp? type op = some (.number cmp operand) := by
    obtain ⟨s, read, rfl | ⟨rfl, rfl⟩⟩ := ClauseOp.cases_of_number? number
    · rcases ofScalar?_cases read with ⟨_, rfl, rfl, -⟩ | ⟨_, rfl, rfl, -⟩ <;>
        cases cmp <;> cases type <;> first | rfl | exact nomatch numeric
    · rcases ofScalar?_cases read with ⟨_, rfl, rfl, -⟩ | ⟨_, rfl, rfl, -⟩ <;>
        cases type <;> first | rfl | exact nomatch numeric
  exact CellTest.ofClause?_eq_some_iff.mpr ⟨rfl, type, column, test⟩

/-- What a clause on a column of numbers means on the row of a record. -/
theorem metBy_number_column [PatternEngine] (kept : t.Kept)
    (column : Column.type? entity name = some type)
    (numeric : type.isNumeric = true) (number : op.number? = some (cmp, operand))
    {r : StoredRecord} (mem : r ∈ (t.records entity).1) (now : Instant) :
    StoreClause.metBy now entity ((t.records entity).2 r) ⟨⟨name, []⟩, op⟩ =
      (op.order? operand (r.cell name)).any cmp.holds := by
  obtain ⟨shown, settled⟩ := at_number_column kept column numeric mem
  rw [StoreClause.metBy, FieldTest.passes, StoreClause.test, StoreClause.condition,
    Column.typeOf_column column, shown]
  obtain ⟨s, read, rfl | ⟨rfl, rfl⟩⟩ := ClauseOp.cases_of_number? number
  · exact holdsOf_shown numeric read
  · exact equalsOf_shown settled read

/-- **When tables apply a clause on a column of numbers as conditions do.** They
accept every such clause. What they find are the listed rows that meet it exactly
when the two comparisons part on no record. -/
theorem fetch_number_column [PatternEngine] (built : t.Built)
    (column : Column.type? entity name = some type)
    (numeric : type.isNumeric = true) (number : op.number? = some (cmp, operand)) (now : Instant) :
    t.store.accepts entity ⟨⟨name, []⟩, op⟩ = true ∧
      ∃ listed found, t.store.fetch entity [] = .ok listed ∧
        t.store.fetch entity [⟨⟨name, []⟩, op⟩] = .ok found ∧
        (found = listed.filter (StoreClause.metBy now entity · ⟨⟨name, []⟩, op⟩) ↔
          ∀ r ∈ (t.records entity).1, ¬ op.Parts cmp operand (r.cell name)) := by
  have test := ofClause?_number_column column numeric number
  have tested : testOf? entity ⟨⟨name, []⟩, op⟩ = .ok (name, .number cmp operand) := by
    rw [testOf?, test]
  refine ⟨Option.isSome_iff_exists.mpr ⟨_, test⟩, (t.records entity).1.map (t.records entity).2,
    ((t.records entity).1.filter fun r => r.passes (name, .number cmp operand)).map
      (t.records entity).2, ?_, ?_, ?_⟩
  · exact fetch_nil t entity
  · have fits : CellTest.areRefused entity [.number cmp operand] = false :=
      CellTest.areRefused_of_size_le (Nat.le_of_ble_eq_true rfl)
    simp [store, fetch, tested, fits, pure, Except.pure, bind, Except.bind]
  · rw [map_filter_eq_filter_map_iff]
    refine forall₂_congr fun r mem => ?_
    rw [metBy_number_column built.kept column numeric number mem]
    exact ClauseOp.agrees_iff_not_parts (finite_of_number? number)

/-! ### One bookmark -/

/-- The tables after one bookmark with these stars. -/
def oneBookmark (stars : Value) : Tables :=
  let row : Row := [("url", .text "https://a.com"), ("stars", stars)]
  { bookmarks := [⟨1, keptCells .bookmark row Column.bookmarks, []⟩] }

theorem built_oneBookmark (stars : Value) : (oneBookmark stars).Built := by
  exact @Built.bookmark {} _ [("url", .text "https://a.com"), ("stars", stars)] 1 .empty rfl

open StandardPatterns

/-- With three stars, and a clause for more than two, nothing parts. -/
theorem fetch_number_column_three :
    (oneBookmark (.ofInt 3)).Built ∧ Column.type? .bookmark "stars" = some .int ∧
      (ClauseOp.compare .gt (.int 2)).number? = some (.gt, .integer 2) ∧
      ∃ listed found, (oneBookmark (.ofInt 3)).store.fetch .bookmark [] = .ok listed ∧
        (oneBookmark (.ofInt 3)).store.fetch .bookmark [⟨⟨"stars", []⟩, .compare .gt (.int 2)⟩] =
          .ok found ∧
        found = listed.filter
          (StoreClause.metBy ⟨0, 0⟩ .bookmark · ⟨⟨"stars", []⟩, .compare .gt (.int 2)⟩) := by
  have built := built_oneBookmark (.ofInt 3)
  have column : Column.type? .bookmark "stars" = some .int := by decide
  have number : (ClauseOp.compare .gt (.int 2)).number? = some (.gt, .integer 2) := by decide
  obtain ⟨-, listed, found, lists, finds, iff⟩ :=
    fetch_number_column built column rfl number ⟨0, 0⟩
  refine ⟨built, column, number, listed, found, lists, finds, iff.mpr fun r mem => ?_⟩
  have three : r.cell "stars" = .integer 3 := by
    rw [List.mem_singleton.mp mem]
    rfl
  rw [three]
  exact (ClauseOp.agrees_iff_not_parts rfl).mp rfl

/-- **A clause that tables apply in another way than conditions.** The stars are not
those of the clause, but both have one nearest double: the tables find nothing, and
the listed bookmark meets the clause. -/
theorem fetch_parts_from_conditions :
    ∃ (t : Tables) (c : StoreClause) (listed : List Row), t.Built ∧
      c = ⟨⟨"stars", []⟩, .equals (.int 9007199254740992)⟩ ∧
      t.store.accepts .bookmark c = true ∧ t.store.fetch .bookmark [] = .ok listed ∧
      t.store.fetch .bookmark [c] = .ok [] ∧
      listed.filter (StoreClause.metBy ⟨0, 0⟩ .bookmark · c) ≠ [] := by
  refine ⟨oneBookmark (.ofInt 9007199254740993), _, _, built_oneBookmark _, rfl, rfl, rfl, rfl, ?_⟩
  decide +kernel

end Tables

end BookmarkViews
