import BookmarkViews.Condition.Display
import BookmarkViews.Condition.Holds
import BookmarkViews.Run.Error
import BookmarkViews.Schema.Basic

/-!
Stores of records, and the conditions they can apply by themselves.

A store answers `fetch` with the rows of an entity that meet some clauses. It
accepts only clauses that it applies with the meaning of `StoreClause.condition`.
-/

namespace BookmarkViews

/-- What a clause asks of a field. -/
inductive ClauseOp where
  | compare (op : Comparison) (value : Scalar)
  | equals (value : Scalar)
  | present
  | absent
  | anyOf (patterns : List String)
deriving DecidableEq, Repr

/-- A condition that a store may apply. -/
structure StoreClause where
  field : FieldPath
  op : ClauseOp
deriving DecidableEq, Repr

/-- A condition on one field of a row. -/
structure FieldTest where
  field : FieldPath
  condition : Condition
deriving DecidableEq

namespace FieldTest

/-- The text of a test. -/
def text [PatternEngine] (t : FieldTest) : String :=
  s!"{t.field.text}: {t.condition.toText}"

/-- Whether a row passes a test. -/
def passes [PatternEngine] (now : Instant) (schema : Schema) (row : Row) (t : FieldTest) : Bool :=
  t.condition.holds now (schema.typeOf t.field) (Row.at row t.field)

end FieldTest

namespace StoreClause

/-- The condition that a clause stands for. -/
def condition (c : StoreClause) : Condition :=
  match c.op with
  | .compare op value => .compare op value
  | .equals value => .literal value
  | .present => .present
  | .absent => .absent
  | .anyOf patterns => .members .any patterns

/-- The test that a clause stands for. -/
def test (c : StoreClause) : FieldTest :=
  ⟨c.field, c.condition⟩

/-- The text of a clause. -/
def text [PatternEngine] (c : StoreClause) : String :=
  c.test.text

/-- The clause that stands for a test, if there is one. -/
def ofTest? (t : FieldTest) : Option StoreClause :=
  match t.condition with
  | .literal value => some ⟨t.field, .equals value⟩
  | .compare op value => some ⟨t.field, .compare op value⟩
  | .present => some ⟨t.field, .present⟩
  | .absent => some ⟨t.field, .absent⟩
  | .members .any (p :: ps) => some ⟨t.field, .anyOf (p :: ps)⟩
  | _ => none

/-- A clause means the test it was made from. -/
theorem test_of_ofTest? {t : FieldTest} {c : StoreClause} (h : ofTest? t = some c) :
    c.test = t := by
  obtain ⟨field, condition⟩ := t
  unfold ofTest? at h
  split at h <;> simp_all [test] <;> subst h <;> simp [StoreClause.condition]

end StoreClause

/-- A source of records. -/
structure Store where
  /-- Whether the store applies a clause to the rows of an entity. -/
  accepts : Entity → StoreClause → Bool
  /-- The rows of an entity that meet all clauses. -/
  fetch : Entity → List StoreClause → Except StoreError (List Row)

/-- One question put to a store. -/
structure FetchRequest where
  entity : Entity
  clauses : List StoreClause
deriving DecidableEq, Repr

/-- A computation that asks a store; the requests made so far are kept, also when
one fails. -/
abbrev Fetching := ExceptT RunFailure (StateM (List FetchRequest))

/-- What needs no store. -/
def Fetching.given {α : Type} (x : Except RunFailure α) : Fetching α :=
  ExceptT.mk (pure x)

/-- Ask a store, and note the request. -/
def Store.request (s : Store) (entity : Entity) (clauses : List StoreClause) :
    Fetching (List Row) := do
  modify (· ++ [⟨entity, clauses⟩])
  .given ((s.fetch entity clauses).mapError .store)

end BookmarkViews
