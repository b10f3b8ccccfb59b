import BookmarkViews.Proofs.Run.Execution
import BookmarkViews.Proofs.Run.Preparation
import BookmarkViews.Proofs.Store.Honest

/-!
Pushing filters to the store does not change what a query answers.

A condition means the conjunction of its conjuncts (`Condition.all_conjuncts`), so
the clauses that a plan pushes and the tests that it keeps together mean the
filters (`FetchPlan.passes_split`). An honest store therefore leaves every view
the same rows either way, and `execute_pushdown` carries this through all views of
a query. A query reads its store through the schema of the stored entity
(`Shape.input_of_not_composed`), which is the one that clauses are tested in.
-/

namespace BookmarkViews

/-! ### Conjuncts -/

variable [PatternEngine]

namespace Condition

variable {now : Instant} {type : Option FieldType} {v : Value}

mutual

/-- **A condition holds when all its conjuncts do.** -/
theorem all_conjuncts : (c : Condition) → c.conjuncts.all (holds now type v) = holds now type v c
  | .compound .and parts => by
    rw [conjuncts, holds]
    exact all_allConjuncts parts
  | .compound .or _ | .compound .not _ | .literal _ | .compare _ _ | .temporal _
  | .members _ _ | .text _ | .present | .absent | .has _ => by
    simp [conjuncts]

theorem all_allConjuncts :
    (cs : List Condition) → (allConjuncts cs).all (holds now type v) = allHold now type v cs
  | [] => rfl
  | c :: cs => by
    rw [allConjuncts, List.all_append, all_conjuncts c, all_allConjuncts cs, allHold]

end

end Condition

namespace FieldTest

variable {now : Instant} {schema : Schema} {row : Row}

/-- The tests of a split together mean the test. -/
theorem all_split (t : FieldTest) : t.split.all (passes now schema row) = t.passes now schema row := by
  rw [split, List.all_map]
  have means := @Condition.all_conjuncts _ now (schema.typeOf t.field) (row.at t.field) t.condition
  exact means

theorem all_flatMap_split (tests : List FieldTest) :
    (tests.flatMap split).all (passes now schema row) = tests.all (passes now schema row) := by
  rw [List.all_flatMap]
  exact congrArg _ (funext all_split)

end FieldTest

/-! ### Plans -/

namespace FetchPlan

variable {store : Store} {entity : Entity} {filters : List FieldTest}

omit [PatternEngine] in
/-- A clause is pushed for the test it means, when the store accepts it. -/
theorem pushable?_eq_some {t : FieldTest} {c : StoreClause}
    (h : pushable? store entity t = some c) : c.test = t ∧ store.accepts entity c = true := by
  obtain ⟨made, accepted⟩ := Option.filter_eq_some_iff.mp h
  exact ⟨StoreClause.test_of_ofTest? made, accepted⟩

omit [PatternEngine] in
/-- The store accepts every clause of a plan. -/
theorem accepts_of_mem_pushed {c : StoreClause} (h : c ∈ (split store entity filters).pushed) :
    store.accepts entity c = true := by
  obtain ⟨_, _, pushed⟩ := List.mem_filterMap.mp h
  exact (pushable?_eq_some pushed).2

/-- Tests mean the same after those that the store takes are put as clauses. -/
theorem all_pushable (now : Instant) (row : Row) (tests : List FieldTest) :
    ((tests.filterMap (pushable? store entity)).all (StoreClause.metBy now entity row) &&
        (tests.filter fun t => (pushable? store entity t).isNone).all
          (FieldTest.passes now (Schema.of entity.stored) row)) =
      tests.all (FieldTest.passes now (Schema.of entity.stored) row) := by
  induction tests with
  | nil => rfl
  | cons t tests ih =>
    cases pushed : pushable? store entity t with
    | none =>
      rw [List.filterMap_cons_none pushed, List.filter_cons_of_pos (by simp [pushed]),
        List.all_cons, List.all_cons, Bool.and_left_comm, ih]
    | some c =>
      have means : c.metBy now entity row = t.passes now (Schema.of entity.stored) row := by
        rw [StoreClause.metBy, (pushable?_eq_some pushed).1]
      rw [List.filterMap_cons_some pushed, List.filter_cons_of_neg (by simp [pushed]),
        List.all_cons, List.all_cons, means, Bool.and_assoc, ih]

/-- **Pushed clauses and kept tests together mean the filters**, on rows of the
stored entity. -/
theorem passes_split (now : Instant) (row : Row) :
    ((split store entity filters).pushed.all (StoreClause.metBy now entity row) &&
        (split store entity filters).residual.all
          (FieldTest.passes now (Schema.of entity.stored) row)) =
      filters.all (FieldTest.passes now (Schema.of entity.stored) row) :=
  (all_pushable now row _).trans (FieldTest.all_flatMap_split filters)

end FetchPlan

/-! ### Views -/

omit [PatternEngine] in
/-- A view that refers to no others reads rows in the schema of a stored entity. -/
theorem Shape.input_of_not_composed {v : View} {shapeOf : String → Option Shape}
    (h : v.isComposed = false) :
    (ofView v shapeOf).input = Schema.of (ofView v shapeOf).input.entity.stored := by
  have alone := View.mentions_eq_nil_iff.mpr h
  have stored (e : Entity) : inputOf e none = Schema.of (inputOf e none).entity.stored := by
    cases e <;> rfl
  unfold ofView
  simp only [alone, List.head?_nil, Option.bind_none]
  split <;> exact stored _

namespace PreparedView

/-- A view keeps the shape it has among some views. -/
def Shaped (p : PreparedView) : Prop :=
  ∃ shapeOf, p.shape = Shape.ofView p.view shapeOf

theorem shaped_of_prepareAlone {v : View} {supplied : Params} {views : PreparedViews}
    {p : PreparedView} (h : v.prepareAlone supplied views = .ok p) : p.Shaped := by
  obtain ⟨rfl, shape⟩ := View.shape_of_prepareAlone h
  exact ⟨_, shape⟩

variable {p : PreparedView} {store : Store} (now : Instant)

/-- What an honest store gives to a plan, filtered by the tests it keeps, are the
stored rows that pass all filters. -/
theorem filter_residual_of_honest (honest : store.Honest) (shaped : p.Shaped)
    (alone : p.view.isComposed = false) {rows : List Row}
    (listed : store.fetch p.storedEntity [] = .ok rows) :
    let plan := FetchPlan.split store p.storedEntity p.filters
    ∃ fetched, store.fetch p.storedEntity plan.pushed = .ok fetched ∧
      fetched.filter (passesAll now p.shape.input plan.residual) =
        rows.filter (passesAll now p.shape.input p.filters) := by
  intro plan
  have schema : p.shape.input = Schema.of p.storedEntity.stored := by
    obtain ⟨shapeOf, shape⟩ := shaped
    rw [storedEntity, Entity.stored_stored, shape]
    exact Shape.input_of_not_composed alone
  refine ⟨_, honest.applies _ _ _ (fun c => FetchPlan.accepts_of_mem_pushed) listed now, ?_⟩
  rw [List.filter_filter, schema]
  refine List.filter_congr fun row _ => ?_
  rw [Bool.and_comm]
  exact FetchPlan.passes_split now row

/-- A view of an honest store has the same rows with and without pushing. -/
theorem sameAnswer_runStored (honest : store.Honest) (shaped : p.Shaped)
    (alone : p.view.isComposed = false) :
    Fetching.SameAnswer (p.runStored { store, now, pushdown := true })
      (p.runStored { store, now, pushdown := false }) := by
  intro noted noted'
  obtain ⟨rows, listed⟩ := honest.lists p.storedEntity
  obtain ⟨fetched, pushed, same⟩ := filter_residual_of_honest now honest shaped alone listed
  simp only [runStored, Fetching.answer_bind, Fetching.answer_request, Fetching.answer_given, plan,
    FetchPlan.of, if_true, Bool.false_eq_true, if_false, FetchPlan.inMemory, pushed, listed,
    Except.mapError, same]

theorem sameAnswer_run (honest : store.Honest) (shaped : p.Shaped) (views : PreparedViews)
    (table : Composition.RowTable) :
    Fetching.SameAnswer (p.run { store, now, pushdown := true } views table)
      (p.run { store, now, pushdown := false } views table) := by
  unfold run
  split
  · exact Fetching.sameAnswer_given _
  · next alone => exact sameAnswer_runStored now honest shaped (by simpa using alone)

end PreparedView

/-! ### Queries -/

section Execution

variable {store : Store} {r : Registry} {supplied : Params}

/-- Every view of a preparation has the shape of its definition. -/
theorem shaped_of_prepare {v : View} {top : PreparedView} {views : PreparedViews}
    (h : r.prepare supplied v = .ok (top, views)) :
    top.Shaped ∧ ∀ entry ∈ views, entry.2.Shaped := by
  obtain ⟨views', prepared, h⟩ := bind_eq_ok.mp h
  obtain ⟨top', alone, h⟩ := bind_eq_ok.mp h
  obtain ⟨rfl, rfl⟩ := Prod.mk.inj (Except.ok.inj h)
  refine ⟨PreparedView.shaped_of_prepareAlone alone, ?_⟩
  refine Registry.prepareReferences_preserves
    (P := fun views => ∀ entry ∈ views, entry.2.Shaped) ?_ (by simp) prepared
  intro name w below p _ shaped hp entry mem
  rcases List.mem_append.mp mem with old | new
  · exact shaped entry old
  · rw [List.mem_singleton.mp new]
    exact PreparedView.shaped_of_prepareAlone hp

/-- Views run one after another leave the same rows with and without pushing. -/
theorem sameAnswer_runViews (now : Instant) (honest : store.Honest) (views rest : PreparedViews)
    (shaped : ∀ entry ∈ rest, entry.2.Shaped) (table : Composition.RowTable) :
    Fetching.SameAnswer (runViews { store, now, pushdown := true } views rest table)
      (runViews { store, now, pushdown := false } views rest table) := by
  induction rest generalizing table with
  | nil => exact Fetching.sameAnswer_pure _
  | cons entry rest ih =>
    refine (PreparedView.sameAnswer_run now honest (shaped _ List.mem_cons_self) views table).bind ?_
    exact fun rows => ih (fun e mem => shaped e (List.mem_cons_of_mem _ mem)) _

end Execution

/-- **Pushing filters to the store is invisible.** Over an honest store every query
gives the same rows or fails in the same way whether its filters are pushed or all
tested in memory; and records in memory are an honest store. -/
theorem execute_pushdown :
    (∀ (m : MemoryRecords) (clock : Instant), (m.store clock).Honest) ∧
      ∀ (store : Store), store.Honest →
        ∀ (r : Registry) (supplied : Params) (v : View) (now : Instant),
          (execute { store, now, pushdown := true } r supplied v).result =
            (execute { store, now, pushdown := false } r supplied v).result := by
  refine ⟨MemoryRecords.store_honest, fun store honest r supplied v now => ?_⟩
  cases prepared : r.prepare supplied v with
  | error e => rw [result_execute_of_error prepared, result_execute_of_error prepared]
  | ok both =>
    obtain ⟨top, views⟩ := both
    obtain ⟨shapedTop, shapedViews⟩ := shaped_of_prepare prepared
    rw [result_execute prepared, result_execute prepared]
    have same := (sameAnswer_runViews now honest views views shapedViews []).bind
      fun table => PreparedView.sameAnswer_run now honest shapedTop views table
    rw [show (runPrepared _ top views).answer [] = _ from same [] []]
    rfl

end BookmarkViews
