import BookmarkViews.Pattern.Standard
import BookmarkViews.Proofs.Run.Composing
import BookmarkViews.Proofs.Run.Pushdown

/-!
Views that only filter.

A query over a view with filters and exclusions only answers what it answers over the
entity of the view, with the tests of the view put in front of its own
(`filter_view_transparent`). The first way the tests of the view run in the store and those
of the query in memory, the second way one plan splits them all; over an honest store both
keep the same stored rows (`PreparedView.storedRows_of_honest`), and the shapes agree
(`View.QueriesView.ofView`, `View.QueriesView.ofView_inlined`).
-/

namespace BookmarkViews

open BookmarkViews.Composition (composeIdentified identify)
open PreparedView (passesAll passesAny)

section

variable [PatternEngine]

namespace View

/-- A view over a stored entity with filters, exclusions, and no other clause. -/
structure FiltersOnly (v : View) (e : Entity) : Prop where
  clauses : v = { name := v.name, description := v.description, entity := v.entity
                  filters := v.filters, exclude := v.exclude }
  entity : v.entity.getD .bookmark = e
  stored : e ≠ .stats

/-- A query over the rows of one view, which it may group when they are bookmarks. -/
structure QueriesView (q : View) (name : String) (e : Entity) : Prop where
  source : q.source = some name
  union : q.union = []
  intersect : q.intersect = []
  entity : q.entity = none
  params : q.params = []
  grouping : q.isAggregate = true → e = .bookmark

/-- A query with the tests of a view over an entity in place of the view. -/
def inlined (q v : View) (e : Entity) : View :=
  { q with
    source := none
    entity := if q.isAggregate then none else some e
    filters := v.filters ++ q.filters
    exclude := v.exclude ++ q.exclude }

variable {q v : View} {name : String} {e : Entity} {shapeOf : String → Option Shape}

/-! ### Mentions -/

omit [PatternEngine] in
theorem FiltersOnly.mentions_eq (h : v.FiltersOnly e) : v.mentions = [] := by
  rw [h.clauses]
  rfl

omit [PatternEngine] in
theorem QueriesView.mentions_eq (h : q.QueriesView name e) : q.mentions = [name] := by
  rw [mentions, h.source, h.union, h.intersect]
  rfl

omit [PatternEngine] in
/-- Where the tests of the view stand, the view is no longer mentioned. -/
theorem QueriesView.mentions_inlined (h : q.QueriesView name e) (v : View) :
    (q.inlined v e).mentions = [] := by
  rw [mentions, inlined, h.union, h.intersect]
  rfl

/-! ### Shapes -/

/-- The shape of a query over the rows of a stored entity. -/
def shapeOver (q : View) (e : Entity) : Shape :=
  if q.isAggregate then
    { entity := .stats, input := Schema.of .bookmark, output := Shape.grouped q (Schema.of .bookmark)
      compute := Shape.effectiveCompute q }
  else { entity := e, input := Schema.of e, output := Schema.of e, compute := [] }

omit [PatternEngine] in
theorem FiltersOnly.stored_eq (h : v.FiltersOnly e) : e.stored = e := by
  cases e with
  | stats => exact absurd rfl h.stored
  | bookmark | tag | edge => rfl

omit [PatternEngine] in
theorem FiltersOnly.ofView (h : v.FiltersOnly e) :
    Shape.ofView v shapeOf =
      { entity := e, input := Schema.of e, output := Schema.of e, compute := [] } := by
  have entity : Shape.entityOf v none = e := by
    rw [← h.entity]
    cases given : v.entity with
    | some e' => simp [Shape.entityOf, given]
    | none =>
      rw [Shape.entityOf, given]
      rw [h.clauses]
      rfl
  have stored := h.stored
  unfold Shape.ofView
  simp only [h.mentions_eq, List.head?_nil, Option.bind_none, entity]
  cases e with
  | stats => exact absurd rfl stored
  | bookmark | tag | edge => rfl

omit [PatternEngine] in
theorem QueriesView.ofView (h : q.QueriesView name e) (stored : e ≠ .stats)
    (found : shapeOf name =
      some { entity := e, input := Schema.of e, output := Schema.of e, compute := [] }) :
    Shape.ofView q shapeOf = q.shapeOver e := by
  unfold Shape.ofView shapeOver
  simp only [h.mentions_eq, List.head?_cons, Option.bind_some, found, Shape.entityOf, h.entity]
  cases grouped : q.isAggregate with
  | true =>
    obtain rfl := h.grouping grouped
    simp [Shape.groups, Shape.inputOf, Schema.of]
  | false =>
    cases e with
    | stats => exact absurd rfl stored
    | bookmark | tag | edge => simp [Shape.groups, Shape.inputOf]

omit [PatternEngine] in
theorem QueriesView.ofView_inlined (h : q.QueriesView name e) (stored : e ≠ .stats) (v : View) :
    Shape.ofView (q.inlined v e) shapeOf = q.shapeOver e := by
  unfold Shape.ofView shapeOver
  simp only [h.mentions_inlined, List.head?_nil, Option.bind_none]
  cases grouped : q.isAggregate with
  | true =>
    have aggregate : (q.inlined v e).isAggregate = true := grouped
    have entity : Shape.entityOf (q.inlined v e) none = .stats := by
      simp [Shape.entityOf, aggregate, show (q.inlined v e).entity = none from if_pos grouped]
    simp only [entity]
    rfl
  | false =>
    have entity : Shape.entityOf (q.inlined v e) none = e := by
      simp [Shape.entityOf, show (q.inlined v e).entity = some e from if_neg (by simp [grouped])]
    simp only [entity]
    cases e with
    | stats => exact absurd rfl stored
    | bookmark | tag | edge => rfl

omit [PatternEngine] in
/-- Both read the columns of the entity. -/
theorem QueriesView.input_shapeOver (h : q.QueriesView name e) :
    (q.shapeOver e).input = Schema.of e := by
  unfold shapeOver
  split
  · next grouped => rw [h.grouping grouped]
  · rfl

omit [PatternEngine] in
theorem entity_shapeOver (plain : (q.shapeOver e).isAggregate = false) :
    (q.shapeOver e).entity = e := by
  unfold shapeOver at plain ⊢
  split
  · next grouped =>
    rw [if_pos grouped, Shape.isAggregate, Shape.effectiveCompute] at plain
    split at plain <;> simp_all
  · rfl

omit [PatternEngine] in
/-- Both tell rows apart by the same columns. -/
theorem groupColumnsOf_inlined (stored : e ≠ .stats) (v : View) (views views' : PreparedViews) :
    q.groupColumnsOf (q.shapeOver e) views =
      (q.inlined v e).groupColumnsOf (q.shapeOver e) views' := by
  unfold groupColumnsOf
  split
  · rfl
  · next plain =>
    rw [entity_shapeOver (by simpa using plain), if_neg stored, if_neg stored]

/-! ### Tests -/

/-- A requirement becomes the same test in every view. -/
theorem resolve?_of_ok {view view' : String} {params : Params} {requirement : Requirement}
    {t : FieldTest} (h : resolve? view params requirement = .ok t) :
    resolve? view' params requirement = .ok t := by
  unfold resolve? at h ⊢
  split at h
  · exact h
  · exact nomatch h

/-- Requirements of one view in front of those of another one become their tests. -/
theorem mapM_resolve?_append {view view' : String} {params : Params} {first second : List Requirement}
    {tests tests' : List FieldTest} (h : first.mapM (resolve? view params) = .ok tests)
    (h' : second.mapM (resolve? view' params) = .ok tests') :
    (first ++ second).mapM (resolve? view' params) = .ok (tests ++ tests') := by
  have moved : first.mapM (resolve? view' params) = .ok tests :=
    mapM_eq_ok_iff.mpr ((mapM_eq_ok_iff.mp h).imp fun _ _ => resolve?_of_ok)
  rw [List.mapM_append, moved, h']
  rfl

end View

/-! ### Rows -/

namespace PreparedView

/-- **What a view reads of an honest store** are the stored rows that pass its filters, with
and without pushing. -/
theorem storedRows_of_honest {ctx : RunContext} (honest : ctx.store.Honest) {p : PreparedView}
    (shaped : p.Shaped) (alone : p.view.isComposed = false) {rows : List Row}
    (listed : ctx.store.fetch p.storedEntity [] = .ok rows) :
    p.storedRows ctx =
      (p.finish ctx.now (rows.filter (passesAll ctx.now p.shape.input p.filters))).mapError
        .failed := by
  rw [storedRows, answer_runStored, plan, FetchPlan.of]
  split
  · obtain ⟨fetched, pushed, same⟩ := filter_residual_of_honest ctx.now honest shaped alone listed
    rw [pushed, ← same]
    rfl
  · rw [FetchPlan.inMemory, listed]
    rfl

/-- Two views finish alike what they keep alike. -/
theorem finish_congr {p p' : PreparedView} (shape : p.shape = p'.shape)
    (groupBy : p.view.groupBy = p'.view.groupBy) (having : p.having = p'.having)
    (sort : p.view.sort = p'.view.sort) (offset : p.view.offset = p'.view.offset)
    (limit : p.view.limit = p'.view.limit) {now : Instant} {rows rows' : List Row}
    (kept : (rows.filter fun row => !passesAny now p.shape.input p.exclude row) =
      rows'.filter fun row => !passesAny now p'.shape.input p'.exclude row) :
    p.finish now rows = p'.finish now rows' := by
  have same : p.selected now rows = p'.selected now rows' := by
    unfold selected
    rw [kept, shape, groupBy, having]
  unfold finish
  rw [same, shape, sort, offset, limit]

/-- What a view answers, from the rows that it filters. -/
def answerFrom (p : PreparedView) (now : Instant) (rows : List Row) : Except QueryError QueryRows :=
  ((p.finish now (rows.filter (passesAll now p.shape.input p.filters))).mapError .failed).map
    fun finished => ⟨p.shape.entity, finished, p.groupColumns⟩

/-- A view with rows to filter answers unless its sort gives up. -/
theorem error_of_answerFrom {p : PreparedView} {now : Instant} {rows : List Row} {f : QueryError}
    (h : p.answerFrom now rows = .error f) : f = .failed .disorder := by
  rw [answerFrom, map_eq_error_iff] at h
  obtain ⟨cause, failed, rfl⟩ := mapError_eq_error_iff.mp h
  rw [(givesUpOn_of_finish failed).1]

/-- The rows that pass the filters of a view and none of its exclusions. -/
def keptOf (p : PreparedView) (now : Instant) (rows : List Row) : List Row :=
  (rows.filter (passesAll now p.shape.input p.filters)).filter fun row =>
    !passesAny now p.shape.input p.exclude row

/-- What the tests of one view keep of that which those of another one keep, their tests
together keep. -/
theorem keptOf_append {p first second : PreparedView} (input : first.shape.input = p.shape.input)
    (input' : second.shape.input = p.shape.input) (filters : p.filters = first.filters ++ second.filters)
    (exclude : p.exclude = first.exclude ++ second.exclude) (now : Instant) (rows : List Row) :
    p.keptOf now rows = second.keptOf now (first.keptOf now rows) := by
  simp only [keptOf, List.filter_filter, input, input']
  refine List.filter_congr fun row _ => ?_
  simp only [passesAll, passesAny, filters, exclude, List.all_append, List.any_append]
  generalize first.filters.all _ = f
  generalize second.filters.all _ = g
  generalize first.exclude.any _ = x
  generalize second.exclude.any _ = y
  revert f g x y
  decide

end PreparedView

/-! ### Queries over such views -/

section

variable {ctx : RunContext} {r : Registry} {supplied : Params} {v q : View} {e : Entity}

/-- Where it is listed, a view that only filters has the stored rows that it keeps. -/
theorem plainRows_of_filtersOnly (honest : ctx.store.Honest) (registered : v ∈ r.views)
    (h : v.FiltersOnly e) {views : PreparedViews} (inOrder : r.InOrder supplied views)
    (mem : v.name ∈ Keyed.keys views) {rows : List Row} (listed : ctx.store.fetch e [] = .ok rows) :
    ∃ p before, Keyed.get? views v.name = some p ∧ v.PreparesTo supplied before p ∧
      plainRows ctx views v.name = .ok (p.keptOf ctx.now rows) := by
  obtain ⟨before, p, after, cut, _, new, found, _, alone⟩ := inOrder.split_of_mem mem
  obtain rfl : p.view = v :=
    Option.some_inj.mp (found.symm.trans (Registry.find?_of_mem registered))
  have made := View.preparesTo_of_prepareAlone alone
  have shape := made.shape.trans h.ofView
  refine ⟨p, before, cut ▸ Keyed.get?_cut new p after, made, ?_⟩
  have alone := View.mentions_eq_nil_iff.mp h.mentions_eq
  have entity : p.storedEntity = e := by
    rw [PreparedView.storedEntity, shape]
    exact h.stored_eq
  have having : p.having = [] := by
    obtain ⟨_, -, -, -, having⟩ := made.tests
    rw [h.clauses] at having
    exact (Except.ok.inj having).symm
  rw [inOrder.plainRows_eq cut, PreparedView.runBy, if_neg (by simp [alone]),
    PreparedView.storedRows_of_honest honest ⟨_, made.shape⟩ alone (entity ▸ listed),
    PreparedView.finish_eq_filter _ having]
  · rfl
  · rw [h.clauses]
  · rw [h.clauses]
  · rw [h.clauses]
  · rw [shape]
    rfl

/-- A query over a view that only filters has the tests of both when the view is inlined. -/
theorem tests_of_inlined (h : q.QueriesView v.name e) (filtering : v.FiltersOnly e)
    {before views views' : PreparedViews} {p top top' : PreparedView}
    (made : v.PreparesTo supplied before p) (made_top : q.PreparesTo supplied views top)
    (made_top' : (q.inlined v e).PreparesTo supplied views' top') :
    top'.filters = p.filters ++ top.filters ∧ top'.exclude = p.exclude ++ top.exclude ∧
      top'.having = top.having := by
  obtain ⟨params, bound, filters, exclude, -⟩ := made.tests
  obtain ⟨params_q, bound_q, filters_q, exclude_q, having_q⟩ := made_top.tests
  obtain ⟨params_f, bound_f, filters_f, exclude_f, having_f⟩ := made_top'.tests
  -- Neither the view nor the query declares parameters.
  have noParams : v.params = [] := by rw [filtering.clauses]
  rw [noParams] at bound
  rw [h.params] at bound_q
  rw [show (q.inlined v e).params = [] from h.params] at bound_f
  obtain rfl := Except.ok.inj bound
  obtain rfl := Except.ok.inj bound_q
  obtain rfl := Except.ok.inj bound_f
  refine ⟨?_, ?_, ?_⟩
  · exact Except.ok.inj (filters_f.symm.trans (View.mapM_resolve?_append filters filters_q))
  · exact Except.ok.inj (exclude_f.symm.trans (View.mapM_resolve?_append exclude exclude_q))
  · exact Except.ok.inj (having_f.symm.trans having_q)

/-- What the tests of the view and then those of the query keep, is what their tests
together keep, and is finished alike. -/
theorem finish_of_inlined (h : q.QueriesView v.name e) (filtering : v.FiltersOnly e)
    {before views views' : PreparedViews} {p top top' : PreparedView}
    (made : v.PreparesTo supplied before p) (made_top : q.PreparesTo supplied views top)
    (made_top' : (q.inlined v e).PreparesTo supplied views' top')
    (shape : top.shape = q.shapeOver e) (shape' : top'.shape = q.shapeOver e) (now : Instant)
    (rows : List Row) :
    top.finish now ((p.keptOf now rows).filter (passesAll now top.shape.input top.filters)) =
      top'.finish now (rows.filter (passesAll now top'.shape.input top'.filters)) := by
  obtain ⟨filters, exclude, having⟩ := tests_of_inlined h filtering made made_top made_top'
  have same : top.shape = top'.shape := shape.trans shape'.symm
  have input : p.shape.input = top'.shape.input := by
    rw [made.shape, filtering.ofView, shape', h.input_shapeOver]
  have kept := PreparedView.keptOf_append input (congrArg _ same) filters exclude now rows
  refine PreparedView.finish_congr same ?_ having.symm ?_ ?_ ?_ kept.symm <;>
    rw [made_top.view, made_top'.view] <;> rfl

/-- Over an honest store, a view that reads the store answers the stored rows that it
keeps. -/
theorem execute_stored (honest : ctx.store.Honest) {top : PreparedView} {views : PreparedViews}
    (prepared : r.prepare supplied q = .ok (top, views)) (alone : q.isComposed = false)
    {rows : List Row} (listed : ctx.store.fetch top.storedEntity [] = .ok rows) :
    (execute ctx r supplied q).result = top.answerFrom ctx.now rows := by
  have made := View.preparesTo_of_prepareAlone (Registry.prepare_eq_ok_iff.mp prepared).2
  obtain rfl := made.view
  rw [result_execute_plain prepared, plainRun, PreparedView.runBy, if_neg (by simp [alone]),
    PreparedView.storedRows_of_honest honest ⟨_, made.shape⟩ alone listed]
  rfl

omit [PatternEngine] in
/-- A query over one view composes the rows of the view. -/
theorem composeBy_of_queriesView {name : String} (h : q.QueriesView name e) {views : PreparedViews}
    {plain : String → Except QueryError (List Row)} {rows : List Row} (found : plain name = .ok rows) :
    Composition.composeBy views plain q = .ok rows := by
  have composed : Composition.composeBy views plain q =
      .ok ((composeIdentified (fun _ => identify views name rows) q).map (·.2)) := by
    refine composeBy_eq_ok fun other mem => ?_
    rw [h.mentions_eq, List.mem_singleton] at mem
    rw [mem, found]
    rfl
  have passed : composeIdentified (fun _ => identify views name rows) q = identify views name rows := by
    simp [composeIdentified, Composition.base?, h.source, h.union, h.intersect]
  rw [composed, passed, identify, List.map_map]
  exact congrArg _ (List.map_id _)

/-- A query over one view keeps of its rows what passes. -/
theorem execute_of_queriesView {name : String} (h : q.QueriesView name e) {top : PreparedView}
    {views : PreparedViews} (prepared : r.prepare supplied q = .ok (top, views)) {rows : List Row}
    (plain : plainRows ctx views name = .ok rows) :
    (execute ctx r supplied q).result = top.answerFrom ctx.now rows := by
  have view := (View.shape_of_prepareAlone (Registry.prepare_eq_ok_iff.mp prepared).2).1
  have composed : top.view.isComposed = true := by
    rw [view, View.isComposed, h.source]
    rfl
  rw [result_execute_plain prepared, plainRun, PreparedView.runBy, if_pos composed, view,
    composeBy_of_queriesView h plain]
  exact congrArg (Except.map _) (ofExcept_eq _)

/-- **A view that only filters is transparent.** A query over it and the query with its
tests in place of the view answer the same, whenever both are prepared; or the sort, which
gets the same rows, gives up on both. -/
theorem filter_view_transparent (honest : ctx.store.Honest) (registered : v ∈ r.views)
    (filtering : v.FiltersOnly e) (query : q.QueriesView v.name e)
    (prepared : ∃ both, r.prepare supplied q = .ok both)
    (prepared' : ∃ both, r.prepare supplied (q.inlined v e) = .ok both) :
    (execute ctx r supplied q).result = (execute ctx r supplied (q.inlined v e)).result ∧
      ∀ f, (execute ctx r supplied q).result = .error f → f = .failed .disorder := by
  obtain ⟨⟨top, views⟩, prepared⟩ := prepared
  obtain ⟨⟨top', views'⟩, prepared'⟩ := prepared'
  have made_top := View.preparesTo_of_prepareAlone (Registry.prepare_eq_ok_iff.mp prepared).2
  have made_top' := View.preparesTo_of_prepareAlone (Registry.prepare_eq_ok_iff.mp prepared').2
  obtain ⟨-, inOrder, lists, -⟩ := Registry.inOrder_of_prepare prepared
  obtain ⟨rows, listed⟩ := honest.lists e
  have mention : v.name ∈ q.references := by
    rw [View.mem_references, query.mentions_eq]
    exact List.mem_singleton_self _
  obtain ⟨p, before, found, made, plain⟩ := plainRows_of_filtersOnly honest registered filtering
    inOrder (lists v.name mention) listed
  have shape : top.shape = q.shapeOver e := by
    refine made_top.shape.trans (query.ofView filtering.stored ?_)
    rw [PreparedViews.shape?, found, Option.map_some, made.shape, filtering.ofView]
  have shape' : top'.shape = q.shapeOver e :=
    made_top'.shape.trans (query.ofView_inlined filtering.stored v)
  have columns : top.groupColumns = top'.groupColumns := by
    rw [made_top.columns, made_top'.columns, shape, shape']
    exact View.groupColumnsOf_inlined filtering.stored v views views'
  have alone := View.mentions_eq_nil_iff.mp (query.mentions_inlined v)
  have entity : top'.storedEntity = e := by
    rw [PreparedView.storedEntity, shape', query.input_shapeOver]
    exact filtering.stored_eq
  have answered := execute_of_queriesView query prepared plain
  refine ⟨?_, fun f failed => PreparedView.error_of_answerFrom (answered.symm.trans failed)⟩
  have finished := finish_of_inlined query filtering made made_top made_top' shape shape' ctx.now
    rows
  rw [answered, execute_stored honest prepared' alone (entity ▸ listed), PreparedView.answerFrom,
    PreparedView.answerFrom, ← finished, columns, shape, shape']

end

end

/-- The bookmarks with three stars or more, without those with five. -/
def rated : View :=
  { name := "rated"
    filters := [⟨⟨"stars", []⟩, .ready (.compare .gt (.int 2))⟩]
    exclude := [⟨⟨"stars", []⟩, .ready (.compare .gt (.int 4))⟩] }

/-- The rated bookmarks of every domain, less those with four stars. -/
def ratedDomains : View :=
  { name := "domains", source := some "rated"
    exclude := [⟨⟨"stars", []⟩, .ready (.compare .gt (.int 3))⟩]
    groupBy := [⟨"domain", []⟩] }

open StandardPatterns

/-- The domains of the rated bookmarks are those of the bookmarks that both views keep. -/
theorem filter_view_transparent_rated :
    let registry : Registry := ⟨[rated], by decide⟩
    let bookmarks : List Row := [[("domain", .text "a"), ("stars", .ofInt 3)],
      [("domain", .text "b"), ("stars", .ofInt 4)], [("domain", .text "a"), ("stars", .ofInt 5)]]
    let ctx : RunContext := { store := ({ bookmarks } : MemoryRecords).store, now := ⟨0, 0⟩ }
    let domains : QueryRows :=
      ⟨.stats, [[("domain", .text "a"), ("count", .ofInt 1)]], ["domain"]⟩
    (execute ctx registry [] ratedDomains).result = .ok domains ∧
      (execute ctx registry [] (ratedDomains.inlined rated .bookmark)).result = .ok domains := by
  intro registry bookmarks ctx domains
  have order : (registry.prepare [] ratedDomains).map (Keyed.keys ·.2) = .ok ["rated"] := by cbv
  have order' : (registry.prepare [] (ratedDomains.inlined rated .bookmark)).map (Keyed.keys ·.2) =
      .ok [] := by cbv
  obtain ⟨both, prepared, -⟩ := map_eq_ok_iff.mp order
  obtain ⟨both', prepared', -⟩ := map_eq_ok_iff.mp order'
  have filtering : rated.FiltersOnly .bookmark := ⟨rfl, rfl, by decide⟩
  have query : ratedDomains.QueriesView rated.name .bookmark :=
    ⟨rfl, rfl, rfl, rfl, rfl, fun _ => rfl⟩
  obtain ⟨same, -⟩ := @filter_view_transparent _ ctx registry [] rated ratedDomains
    .bookmark (MemoryRecords.store_honest _ _) (List.mem_singleton_self _) filtering query
    ⟨both, prepared⟩ ⟨both', prepared'⟩
  have answered : (execute ctx registry [] ratedDomains).result = .ok domains := by cbv
  exact ⟨answered, same.symm.trans answered⟩

end BookmarkViews
