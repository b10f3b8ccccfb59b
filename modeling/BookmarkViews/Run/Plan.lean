import BookmarkViews.Store.Basic

/-!
Splitting the filters of a query between the store and memory.

A filter that joins conditions with `and` is taken apart first. Each part goes to
the store when a clause stands for it and the store accepts the clause, and stays
in memory otherwise. The rows are the same either way.
-/

namespace BookmarkViews

namespace Condition

mutual

/-- The conditions that `and` joins, at any depth. -/
def conjuncts : Condition → List Condition
  | .compound .and parts => allConjuncts parts
  | c => [c]

def allConjuncts : List Condition → List Condition
  | [] => []
  | c :: cs => c.conjuncts ++ allConjuncts cs

end

end Condition

/-- The tests that together mean one test. -/
def FieldTest.split (t : FieldTest) : List FieldTest :=
  t.condition.conjuncts.map fun c => ⟨t.field, c⟩

/-- How the filters of a query are split. -/
structure FetchPlan where
  pushed : List StoreClause := []
  residual : List FieldTest := []
deriving DecidableEq

namespace FetchPlan

/-- Everything stays in memory. -/
def inMemory (filters : List FieldTest) : FetchPlan :=
  { residual := filters }

/-- The clause to push for a test, if the store takes it. -/
def pushable? (store : Store) (entity : Entity) (t : FieldTest) : Option StoreClause :=
  (StoreClause.ofTest? t).filter (store.accepts entity)

/-- Split the filters for a store. -/
def split (store : Store) (entity : Entity) (filters : List FieldTest) : FetchPlan :=
  let tests := filters.flatMap FieldTest.split
  { pushed := tests.filterMap (pushable? store entity)
    residual := tests.filter fun t => (pushable? store entity t).isNone }

/-- Split the filters, or keep them all in memory. -/
def of (pushdown : Bool) (store : Store) (entity : Entity) (filters : List FieldTest) :
    FetchPlan :=
  if pushdown then split store entity filters else inMemory filters

/-- Texts on lines of their own, under a heading with their number. -/
def listing (heading : String) (lines : List String) : String :=
  s!"{heading} ({lines.length}):\n" ++ String.join (lines.map fun line => s!"  {line}\n")

/-- The text of a plan. -/
def text [PatternEngine] (p : FetchPlan) : String :=
  listing "pushed" (p.pushed.map StoreClause.text) ++
    listing "residual" (p.residual.map FieldTest.text)

end FetchPlan

end BookmarkViews
