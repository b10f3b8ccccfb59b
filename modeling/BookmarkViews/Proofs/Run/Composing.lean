import BookmarkViews.Proofs.Run.Mentioned

/-!
Views that only compose others.

A view with a union and an intersection and no other clause passes on what it composes. It
can be executed whenever the views that it mentions can be and yield rows of one entity,
and then answers the composition of their answers (`execute_composing`). Their rows are told
apart as they are in their own executions, since a mention is prepared as it is executed
(`listed_of_executeNamed`).
-/

namespace BookmarkViews

open BookmarkViews.Composition (Identified composeIdentified identify)

/-! ### Views that only compose -/

namespace Shape

theorem entity_grouped (v : View) (input : Schema) : (grouped v input).entity = .stats := by
  have kept {α : Type} (name : α → String) (type : α → Option FieldType) (items : List α)
      (s : Schema) : (items.foldl (fun s a => s.withColumn (name a) (type a)) s).entity = s.entity := by
    induction items generalizing s with
    | nil => rfl
    | cons a items ih => exact ih _
  unfold grouped
  rw [kept, kept]
  rfl

/-- The columns of a view are those of its entity. -/
theorem entity_output (v : View) (shapeOf : String → Option Shape) :
    (ofView v shapeOf).output.entity = (ofView v shapeOf).entity := by
  unfold ofView
  dsimp only
  generalize v.mentions.head?.bind shapeOf = source
  split
  · next groups =>
    rw [entity_grouped]
    simp only [Shape.groups, Bool.and_eq_true, decide_eq_true_eq] at groups
    exact groups.1.symm
  · next passed =>
    change (inputOf (entityOf v source) source).entity = entityOf v source
    cases entity : entityOf v source with
    | stats =>
      simp only [Shape.groups, entity] at passed
      simp at passed
      exact passed.1
    | bookmark | tag | edge => cases source <;> rfl

theorem checkReferences_of_fits {view : String} {expected : Entity}
    {shapeOf : String → Option Shape} {names : List String}
    (fits : ∀ name ∈ names, ∀ s, shapeOf name = some s → s.entity = expected) :
    checkReferences view expected shapeOf names = .ok () := by
  induction names with
  | nil => rfl
  | cons name rest ih =>
    unfold checkReferences
    have onward := ih fun n mem => fits n (List.mem_cons_of_mem _ mem)
    split
    · exact onward
    · next s found => rw [if_pos (fits name List.mem_cons_self s found), onward]

end Shape

variable [PatternEngine]

namespace View

/-- A view with a union, an intersection, and no other clause. -/
def Composes (v : View) (union intersect : List String) : Prop :=
  v = { name := v.name, description := v.description, union, intersect }

variable {v : View} {union intersect : List String} {views : PreparedViews}

omit [PatternEngine] in
theorem head?_references (v : View) : v.references.head? = v.mentions.head? := by
  rw [references]
  cases v.mentions with
  | nil => rfl
  | cons first rest => rw [List.eraseDups_cons, List.head?_cons, List.head?_cons]

omit [PatternEngine] in
/-- The shape of a view that only composes is that of the rows it passes on. -/
theorem Composes.ofView (h : v.Composes union intersect) {first : String}
    (head : v.mentions.head? = some first) {s : Shape} (shape : views.shape? first = some s)
    (passes : s.output.entity = s.entity) :
    Shape.ofView v views.shape? =
      { entity := s.entity, input := Shape.inputOf s.entity (some s)
        output := Shape.inputOf s.entity (some s), compute := [] } ∧
      (Shape.inputOf s.entity (some s)).entity = s.entity := by
  have input : (Shape.inputOf s.entity (some s)).entity = s.entity := by
    cases entity : s.entity <;> simp [Shape.inputOf, Schema.of, passes, entity]
  have entity : Shape.entityOf v (some s) = s.entity := by
    rw [h]
    rfl
  have passed : Shape.groups v s.entity (Shape.inputOf s.entity (some s)) = false := by
    rw [h, Shape.groups, input]
    cases s.entity <;> rfl
  refine ⟨?_, input⟩
  unfold Shape.ofView
  simp only [head, Option.bind_some, shape, entity, passed]
  rfl

/-- Such a view is prepared when the views it mentions yield rows of one entity. -/
theorem Composes.prepareAlone (h : v.Composes union intersect) {first : String}
    (head : v.mentions.head? = some first) {p : PreparedView}
    (found : Keyed.get? views first = some p) (passes : p.shape.output.entity = p.shape.entity)
    (fits : ∀ ref ∈ v.references, ∀ q, Keyed.get? views ref = some q →
      q.shape.entity = p.shape.entity)
    (supplied : Params) :
    v.prepareAlone supplied views =
      .ok { view := v
            shape :=
              { entity := p.shape.entity, input := Shape.inputOf p.shape.entity (some p.shape)
                output := Shape.inputOf p.shape.entity (some p.shape), compute := [] }
            groupColumns := if p.shape.entity = .stats then p.groupColumns else []
            filters := [], exclude := [], having := [] } := by
  have shape : views.shape? first = some p.shape := by
    rw [PreparedViews.shape?, found, Option.map_some]
  obtain ⟨ofView, input⟩ := h.ofView head shape passes
  have resolved : Shape.resolve v views.shape? = .ok (Shape.ofView v views.shape?) := by
    have references : Shape.checkReferences v.name (Shape.ofView v views.shape?).input.entity
        views.shape? v.references = .ok () := by
      refine Shape.checkReferences_of_fits fun ref mem s entry => ?_
      obtain ⟨q, listed, rfl⟩ := Option.map_eq_some_iff.mp entry
      rw [fits ref mem q listed, ofView, input]
    rw [Shape.resolve, references]
    rfl
  have fields (s : Shape) : s.checkFields v = .ok () := by
    rw [h]
    rfl
  have params : bindParams? v.name supplied v.params = .ok [] := by
    rw [h]
    rfl
  have filters : v.filters = [] := by rw [h]
  have exclude : v.exclude = [] := by rw [h]
  have having : v.having = [] := by rw [h]
  refine bind_eq_ok.mpr ⟨_, mapError_eq_ok_iff.mpr (resolved.trans (congrArg _ ofView)), ?_⟩
  refine bind_eq_ok.mpr ⟨(), mapError_eq_ok_iff.mpr (fields _), ?_⟩
  refine bind_eq_ok.mpr ⟨[], mapError_eq_ok_iff.mpr params, ?_⟩
  refine bind_eq_ok.mpr ⟨[], by rw [filters]; rfl, ?_⟩
  refine bind_eq_ok.mpr ⟨[], by rw [exclude]; rfl, ?_⟩
  refine bind_eq_ok.mpr ⟨[], by rw [having]; rfl, ?_⟩
  rw [groupColumnsOf, head?_references, head, Option.bind_some, found]
  rfl

end View

/-- Rows that are not statistics are told apart without group columns. -/
theorem groupColumns_of_prepareAlone {v : View} {supplied : Params} {views : PreparedViews}
    {p : PreparedView} (h : v.prepareAlone supplied views = .ok p)
    (other : p.shape.entity ≠ .stats) : p.groupColumns = [] := by
  have plain : p.shape.isAggregate = false := by
    have shape := (View.shape_of_prepareAlone h).2
    rw [shape] at other ⊢
    unfold Shape.ofView at other ⊢
    dsimp only at other ⊢
    split at other
    · next groups =>
      simp only [Shape.groups, Bool.and_eq_true, decide_eq_true_eq] at groups
      exact absurd groups.1 other
    · next passed => rw [if_neg passed]; rfl
  rw [(View.preparesTo_of_prepareAlone h).columns, View.groupColumnsOf, if_neg (by simp [plain]),
    if_neg other]

/-- A view that keeps the rows it composes, all and in order. -/
structure PreparedView.PassesOn (p : PreparedView) : Prop where
  composed : p.view.isComposed = true
  filters : p.filters = []
  exclude : p.exclude = []
  having : p.having = []
  plain : p.shape.isAggregate = false
  sort : p.view.sort = []
  offset : p.view.offset = 0
  limit : p.view.limit = none

theorem PreparedView.PassesOn.runBy_eq {p : PreparedView} (h : p.PassesOn) (now : Instant)
    (views : PreparedViews) (stored : Except QueryError (List Row))
    (rowsOf : String → Except QueryError (List Row)) :
    p.runBy now views stored rowsOf = Composition.composeBy views rowsOf p.view := by
  have kept (rows : List Row) :
      p.finish now (rows.filter (passesAll now p.shape.input p.filters)) = .ok rows := by
    rw [finish_eq_filter h.plain h.having h.sort h.offset h.limit, h.filters, h.exclude,
      List.filter_filter]
    exact congrArg _ (List.filter_eq_self.mpr fun _ _ => rfl)
  rw [PreparedView.runBy, if_pos h.composed]
  simp only [kept]
  exact bind_pure _

/-! ### Answers -/

namespace QueryRows

/-- The text by which a row of an answer is told apart. -/
def key (q : QueryRows) (row : Row) : String :=
  Row.identity q.entity q.groupColumns row

def keys (q : QueryRows) : List String :=
  q.rows.map q.key

def identified (q : QueryRows) : List Identified :=
  q.rows.map fun row => (q.key row, row)

omit [PatternEngine] in
theorem keys_identified (q : QueryRows) : q.identified.map (·.1) = q.keys := by
  rw [identified, List.map_map]
  rfl

end QueryRows

section

variable (ctx : RunContext) (r : Registry) (supplied : Params)

/-- What the registered view of a name answers, no rows where it fails. -/
def answerNamed (name : String) : QueryRows :=
  match (executeNamed ctx r supplied name).result with
  | .ok q => q
  | .error _ => ⟨.bookmark, [], []⟩

end

section

variable {ctx : RunContext} {r : Registry} {supplied : Params} {v : View}

theorem answerNamed_of_ok {name : String} {q : QueryRows}
    (h : (executeNamed ctx r supplied name).result = .ok q) : answerNamed ctx r supplied name = q := by
  rw [answerNamed, h]

/-- A name that can be executed is that of a registered view which has been prepared. -/
theorem prepared_of_executeNamed {name : String} {q : QueryRows}
    (h : (executeNamed ctx r supplied name).result = .ok q) :
    ∃ w ∈ r.views, w.name = name ∧ ∃ top views, r.prepare supplied w = .ok (top, views) ∧
      plainRun ctx top views = .ok q.rows ∧ q.entity = top.shape.entity ∧
        q.groupColumns = top.groupColumns := by
  unfold executeNamed at h
  split at h
  · next w found =>
    exact ⟨w, Registry.mem_of_find? found, Registry.name_of_find? found, plainRun_of_execute h⟩
  · exact nomatch h

/-- The execution of a registered view is that of its name. -/
theorem executeNamed_of_mem (mem : v ∈ r.views) :
    executeNamed ctx r supplied v.name = execute ctx r supplied v := by
  rw [executeNamed, Registry.find?_of_mem mem]

omit [PatternEngine] in
/-- What is composed when the rows of every mention are there. -/
theorem composeBy_eq_ok {views : PreparedViews} {plain : String → Except QueryError (List Row)}
    {rowsOf : String → List Identified}
    (each : ∀ name ∈ v.mentions, identify views name <$> plain name = .ok (rowsOf name)) :
    Composition.composeBy views plain v = .ok ((composeIdentified rowsOf v).map (·.2)) := by
  have all : (v.mentions.mapM fun name => identify views name <$> plain name) =
      .ok (v.mentions.map rowsOf) := by
    rw [mapM_congr each]
    exact List.mapM_pure
  rw [Composition.composeBy, all, ← Composition.composeMentions_map]
  rfl

/-- A mention is listed as it is executed, with the rows that it answers. -/
theorem listed_of_executeNamed {views : PreparedViews} (inOrder : r.InOrder supplied views)
    {name : String} (mem : name ∈ Keyed.keys views) {q : QueryRows}
    (h : (executeNamed ctx r supplied name).result = .ok q) :
    ∃ p, Keyed.get? views name = some p ∧ p.shape.entity = q.entity ∧
      p.groupColumns = q.groupColumns ∧ p.shape.output.entity = p.shape.entity ∧
      (p.shape.entity ≠ .stats → p.groupColumns = []) ∧
      identify views name <$> plainRows ctx views name = .ok q.identified := by
  obtain ⟨w, registered, rfl, top, views', h, rows, entity, columns⟩ := prepared_of_executeNamed h
  obtain ⟨found, plain⟩ := inOrder.mentioned_eq registered h mem ctx
  obtain ⟨-, alone⟩ := Registry.prepare_eq_ok_iff.mp h
  refine ⟨top, found, entity.symm, columns.symm, ?_, groupColumns_of_prepareAlone alone, ?_⟩
  · rw [(View.shape_of_prepareAlone alone).2, Shape.entity_output]
  · rw [plain, rows]
    change Except.ok (identify views w.name q.rows) = _
    unfold identify PreparedViews.shape?
    rw [found]
    simp only [Option.map_some, Option.getD_some, ← entity, ← columns]
    rfl

/-- **A view that only composes answers the composition of what its mentions answer.** -/
theorem execute_composing {union intersect : List String} (h : v.Composes union intersect)
    (known : v ∈ r.views ∨ r.find? v.name = none) {first : String}
    (head : v.mentions.head? = some first) {entity : Entity}
    (each : ∀ name ∈ v.mentions, ∃ q, (executeNamed ctx r supplied name).result = .ok q ∧
      q.entity = entity) :
    (execute ctx r supplied v).result =
      .ok ⟨entity,
        (composeIdentified (fun name => (answerNamed ctx r supplied name).identified) v).map (·.2),
        (answerNamed ctx r supplied first).groupColumns⟩ := by
  obtain ⟨views, prepared⟩ : ∃ views,
      r.prepareReferences supplied v.name [v.name] v.references [] = .ok views := by
    refine Registry.prepareReferences_of_prepare known fun name mem => ?_
    obtain ⟨q, answered, -⟩ := each name (View.mem_references.mp mem)
    obtain ⟨w, registered, named, top, views, h, -⟩ := prepared_of_executeNamed answered
    exact ⟨w, registered, named, _, h⟩
  have grown := Registry.prepareReferences_grown .nil prepared
  -- The shape is that of the first mention, and the others fit to it.
  have mention : first ∈ v.mentions := List.mem_of_mem_head? (by rw [head]; rfl)
  obtain ⟨q, answered, rfl⟩ := each first mention
  obtain ⟨p, found, ofEntity, columns, passes, other, -⟩ := listed_of_executeNamed grown.inOrder
    (grown.lists first (View.mem_references.mpr mention)) answered
  have fits : ∀ ref ∈ v.references, ∀ p', Keyed.get? views ref = some p' →
      p'.shape.entity = p.shape.entity := by
    intro ref mem p' found'
    obtain ⟨q', answered', same⟩ := each ref (View.mem_references.mp mem)
    obtain ⟨p'', found'', ofEntity', -⟩ :=
      listed_of_executeNamed grown.inOrder (grown.lists ref mem) answered'
    obtain rfl : p' = p'' := Option.some_inj.mp (found'.symm.trans found'')
    rw [ofEntity', same, ofEntity]
  have alone := h.prepareAlone head found passes fits supplied
  have prepared' : r.prepare supplied v = .ok (_, views) :=
    Registry.prepare_eq_ok_iff.mpr ⟨prepared, alone⟩
  have rows : Composition.composeBy views (plainRows ctx views) v =
      .ok ((composeIdentified (fun name => (answerNamed ctx r supplied name).identified) v).map
        (·.2)) := by
    refine composeBy_eq_ok fun name mem => ?_
    obtain ⟨q', answered', -⟩ := each name mem
    obtain ⟨_, -, -, -, -, -, identified⟩ := listed_of_executeNamed grown.inOrder
      (grown.lists name (View.mem_references.mpr mem)) answered'
    rw [identified, answerNamed_of_ok answered']
  have ofColumns : (if p.shape.entity = .stats then p.groupColumns else []) =
      (answerNamed ctx r supplied first).groupColumns := by
    rw [answerNamed_of_ok answered, ← columns]
    split
    · rfl
    · next others => exact (other others).symm
  rw [result_execute_plain prepared', plainRun, PreparedView.PassesOn.runBy_eq, rows, ← ofColumns,
    ← ofEntity]
  · rfl
  · have composed : v.isComposed = true := by
      rw [← Bool.not_eq_false, ← View.mentions_eq_nil_iff]
      exact List.ne_nil_of_mem mention
    refine ⟨composed, rfl, rfl, rfl, rfl, ?_, ?_, ?_⟩ <;> rw [h]

end

end BookmarkViews
