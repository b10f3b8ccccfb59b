import BookmarkViews.Proofs.Sequencing
import BookmarkViews.Proofs.View.Cycles
import BookmarkViews.Run.Prepare
import Mathlib.Data.List.TakeWhile

/-!
What a preparation yields, and how it fails.

`prepareReferences_cons` says what one reference adds. Two inductions follow from
it: what holds of the views prepared so far and is kept by one more view holds in
the end (`prepareReferences_preserves`), and a failure is a failure of one view by
itself, a reference to a name that no view has, or a walk along references that
comes back to a name (`prepareReferences_fails`).
-/

namespace BookmarkViews

/-- A failure that is about the views referred to: one is missing, or they form a
circle. -/
def QueryError.isOfReferences : QueryError → Bool
  | .run (.missingView _ _) | .run (.cycle _) | .view (.unresolved _ _) | .view (.cycle _) => true
  | _ => false

/-- A failure that is about columns: a field or an operand does not exist, or a view
referred to yields other rows. -/
def QueryError.isOfShape : QueryError → Bool
  | .run (.unknownField _ _ _) | .run (.unknownOperand _ _ _) | .run (.entityMismatch _ _ _ _) => true
  | _ => false

theorem QueryError.isOfReferences_of_isOfShape {e : QueryError} (h : e.isOfShape = true) :
    e.isOfReferences = false := by
  rcases e with e | e | _
  · exact nomatch h
  · cases e <;> first | rfl | exact nomatch h
  · exact nomatch h

/-! ### Views by themselves -/

namespace Shape

theorem checkReferences_fails {view : String} {expected : Entity} {shapeOf : String → Option Shape}
    {names : List String} {e : RunError} (h : checkReferences view expected shapeOf names = .error e) :
    (QueryError.run e).isOfShape = true := by
  induction names with
  | nil => exact nomatch h
  | cons name rest ih =>
    unfold checkReferences at h
    split at h
    · exact ih h
    · split at h
      · exact ih h
      · cases h
        rfl

theorem checkKnown_fails {view : String} {schema : Schema} {fields : List FieldPath} {e : RunError}
    (h : checkKnown view schema fields = .error e) : (QueryError.run e).isOfShape = true := by
  induction fields with
  | nil => exact nomatch h
  | cons field rest ih =>
    unfold checkKnown at h
    split at h
    · exact ih h
    · cases h
      rfl

theorem checkOperands_fails {view : String} {schema : Schema} {aggregates : List Aggregate}
    {e : RunError} (h : checkOperands view schema aggregates = .error e) :
    (QueryError.run e).isOfShape = true := by
  induction aggregates with
  | nil => exact nomatch h
  | cons a rest ih =>
    unfold checkOperands at h
    split at h
    · exact ih h
    · split at h
      · exact ih h
      · cases h
        rfl

theorem checkFields_fails {s : Shape} {v : View} {e : RunError} (h : s.checkFields v = .error e) :
    (QueryError.run e).isOfShape = true := by
  rcases bind_eq_error.mp h with input | ⟨_, -, h⟩
  · exact checkKnown_fails input
  · rcases bind_eq_error.mp h with operand | ⟨_, -, output⟩
    · exact checkOperands_fails operand
    · exact checkKnown_fails output

/-- A resolved shape is that of the view, given the shapes of others. -/
theorem eq_ofView_of_resolve {v : View} {shapeOf : String → Option Shape} {s : Shape}
    (h : resolve v shapeOf = .ok s) : s = ofView v shapeOf := by
  obtain ⟨_, -, rfl⟩ := map_eq_ok_iff.mp h
  rfl

end Shape

variable [PatternEngine]

namespace View

/-- The checks of a view that read no parameters: its shape, and its fields in it. -/
def checkShape (v : View) (shapeOf : String → Option Shape) : Except RunError Unit := do
  (← Shape.resolve v shapeOf).checkFields v

omit [PatternEngine] in
theorem checkShape_fails {v : View} {shapeOf : String → Option Shape} {e : RunError}
    (h : v.checkShape shapeOf = .error e) : (QueryError.run e).isOfShape = true := by
  rcases bind_eq_error.mp h with h | ⟨_, -, h⟩
  · exact Shape.checkReferences_fails (map_eq_error_iff.mp h)
  · exact Shape.checkFields_fails h

omit [PatternEngine] in
/-- Binding fails at a parameter that has neither a value nor a default, or at a value
that does not fit. -/
theorem bindParams?_fails {view : String} {supplied : Params} {params : List (String × ParamSpec)}
    {e : RunError} (h : bindParams? view supplied params = .error e) :
    (∃ name spec, (name, spec) ∈ params ∧ spec.default = none ∧ e = .missingParam view name) ∨
      ∃ name fault, e = .badParam view name fault := by
  induction params with
  | nil => exact nomatch h
  | cons entry rest ih =>
    obtain ⟨name, spec⟩ := entry
    unfold bindParams? at h
    split at h
    · next unbound =>
      cases h
      exact .inl ⟨name, spec, List.mem_cons_self, (Option.or_eq_none_iff.mp unbound).2, rfl⟩
    · split at h
      · next fault _ =>
        cases h
        exact .inr ⟨name, fault, rfl⟩
      · rcases bind_eq_error.mp h with h | ⟨_, -, h⟩
        · rcases ih h with ⟨name, spec, mem, required, same⟩ | bad
          · exact .inl ⟨name, spec, List.mem_cons_of_mem _ mem, required, same⟩
          · exact .inr bad
        · exact nomatch h

theorem resolve?_fails {view : String} {params : Params} {requirements : List Requirement}
    {e : ViewError} (h : requirements.mapM (resolve? view params) = .error e) :
    ∃ field fault, e = .condition view field fault := by
  obtain ⟨requirement, -, h⟩ := mapM_eq_error h
  unfold resolve? at h
  split at h
  · exact nomatch h
  · cases h
    exact ⟨_, _, rfl⟩

/-- **How a view fails by itself**: its columns do not fit, a parameter is not bound, or
a condition cannot be read. -/
theorem prepareAlone_error {v : View} {supplied : Params} {views : PreparedViews} {e : QueryError}
    (h : v.prepareAlone supplied views = .error e) :
    (∃ cause, v.checkShape views.shape? = .error cause ∧ e = .run cause) ∨
      (∃ cause, bindParams? v.name supplied v.params = .error cause ∧ e = .run cause) ∨
      ∃ field fault, e = .view (.condition v.name field fault) := by
  have ofRequirement {params : Params} {requirements : List Requirement}
      (h : (requirements.mapM (resolve? v.name params)).mapError QueryError.view = .error e) :
      ∃ field fault, e = .view (.condition v.name field fault) := by
    obtain ⟨_, cause, rfl⟩ := mapError_eq_error_iff.mp h
    obtain ⟨field, fault, rfl⟩ := resolve?_fails cause
    exact ⟨field, fault, rfl⟩
  rcases bind_eq_error.mp h with h | ⟨shape, resolved, h⟩
  · obtain ⟨_, cause, rfl⟩ := mapError_eq_error_iff.mp h
    exact .inl ⟨_, bind_eq_error.mpr (.inl cause), rfl⟩
  rcases bind_eq_error.mp h with h | ⟨_, -, h⟩
  · obtain ⟨_, cause, rfl⟩ := mapError_eq_error_iff.mp h
    exact .inl ⟨_, bind_eq_error.mpr (.inr ⟨shape, mapError_eq_ok_iff.mp resolved, cause⟩), rfl⟩
  rcases bind_eq_error.mp h with h | ⟨params, -, h⟩
  · obtain ⟨_, cause, rfl⟩ := mapError_eq_error_iff.mp h
    exact .inr (.inl ⟨_, cause, rfl⟩)
  rcases bind_eq_error.mp h with h | ⟨_, -, h⟩
  · exact .inr (.inr (ofRequirement h))
  rcases bind_eq_error.mp h with h | ⟨_, -, h⟩
  · exact .inr (.inr (ofRequirement h))
  rcases bind_eq_error.mp h with h | ⟨_, -, h⟩
  · exact .inr (.inr (ofRequirement h))
  · exact nomatch h

/-- A view by itself never fails for its references: those are prepared. -/
theorem prepareAlone_fails {v : View} {supplied : Params} {views : PreparedViews} {e : QueryError}
    (h : v.prepareAlone supplied views = .error e) : e.isOfReferences = false := by
  rcases prepareAlone_error h with ⟨_, shape, rfl⟩ | ⟨_, unbound, rfl⟩ | ⟨_, _, rfl⟩
  · exact QueryError.isOfReferences_of_isOfShape (checkShape_fails shape)
  · rcases bindParams?_fails unbound with ⟨_, _, -, -, rfl⟩ | ⟨_, _, rfl⟩ <;> rfl
  · rfl

/-- A view whose columns do not fit fails for that, whatever the parameters. -/
theorem prepareAlone_of_checkShape {v : View} {views : PreparedViews} {cause : RunError}
    (h : v.checkShape views.shape? = .error cause) (supplied : Params) :
    v.prepareAlone supplied views = .error (.run cause) := by
  rcases bind_eq_error.mp h with h | ⟨shape, resolved, h⟩
  · exact bind_eq_error.mpr (.inl (mapError_eq_error_iff.mpr ⟨cause, h, rfl⟩))
  · refine bind_eq_error.mpr (.inr ⟨shape, mapError_eq_ok_iff.mpr resolved, ?_⟩)
    exact bind_eq_error.mpr (.inl (mapError_eq_error_iff.mpr ⟨cause, h, rfl⟩))

/-- What a view is prepared to, behind the views it refers to. -/
structure PreparesTo (v : View) (supplied : Params) (views : PreparedViews) (p : PreparedView) :
    Prop where
  view : p.view = v
  shape : p.shape = Shape.ofView v views.shape?
  columns : p.groupColumns = v.groupColumnsOf p.shape views
  /-- All tests read the same parameters. -/
  tests : ∃ params, bindParams? v.name supplied v.params = .ok params ∧
    v.filters.mapM (resolve? v.name params) = .ok p.filters ∧
    v.exclude.mapM (resolve? v.name params) = .ok p.exclude ∧
    v.having.mapM (resolve? v.name params) = .ok p.having

theorem preparesTo_of_prepareAlone {v : View} {supplied : Params} {views : PreparedViews}
    {p : PreparedView} (h : v.prepareAlone supplied views = .ok p) :
    v.PreparesTo supplied views p := by
  obtain ⟨shape, resolved, h⟩ := bind_eq_ok.mp h
  obtain ⟨_, -, h⟩ := bind_eq_ok.mp h
  obtain ⟨params, bound, h⟩ := bind_eq_ok.mp h
  obtain ⟨filters, hf, h⟩ := bind_eq_ok.mp h
  obtain ⟨exclude, he, h⟩ := bind_eq_ok.mp h
  obtain ⟨having, hh, h⟩ := bind_eq_ok.mp h
  obtain rfl := Except.ok.inj h
  exact ⟨rfl, Shape.eq_ofView_of_resolve (mapError_eq_ok_iff.mp resolved), rfl, params,
    mapError_eq_ok_iff.mp bound, mapError_eq_ok_iff.mp hf, mapError_eq_ok_iff.mp he,
    mapError_eq_ok_iff.mp hh⟩

/-- A prepared view keeps the view, and has its shape among the views prepared
before it. -/
theorem shape_of_prepareAlone {v : View} {supplied : Params} {views : PreparedViews}
    {p : PreparedView} (h : v.prepareAlone supplied views = .ok p) :
    p.view = v ∧ p.shape = Shape.ofView v views.shape? :=
  have made := preparesTo_of_prepareAlone h
  ⟨made.view, made.shape⟩

end View

/-! ### References in order -/

namespace Registry

variable {r : Registry} {supplied : Params}

omit [PatternEngine] in
theorem name_of_find? {name : String} {v : View} (h : r.find? name = some v) : v.name = name := by
  simpa using List.find?_some h

omit [PatternEngine] in
theorem mem_of_find? {name : String} {v : View} (h : r.find? name = some v) : v ∈ r.views :=
  List.mem_of_find?_eq_some h

/-- A query is prepared by itself behind its references. -/
theorem prepare_eq_ok_iff {v : View} {top : PreparedView} {views : PreparedViews} :
    r.prepare supplied v = .ok (top, views) ↔
      r.prepareReferences supplied v.name [v.name] v.references [] = .ok views ∧
        v.prepareAlone supplied views = .ok top := by
  constructor
  · intro h
    obtain ⟨views', prepared, h⟩ := bind_eq_ok.mp h
    obtain ⟨top', alone, h⟩ := bind_eq_ok.mp h
    obtain ⟨rfl, rfl⟩ := Prod.mk.inj (Except.ok.inj h)
    exact ⟨prepared, alone⟩
  · rintro ⟨prepared, alone⟩
    exact bind_eq_ok.mpr ⟨views, prepared, bind_eq_ok.mpr ⟨top, alone, rfl⟩⟩

/-- What one reference adds: nothing when it is prepared, else the views it needs and
then itself. -/
theorem prepareReferences_cons (view : String) (way : List String) (name : String)
    (rest : List String) (views : PreparedViews) :
    r.prepareReferences supplied view way (name :: rest) views =
      if way.contains name then .error (.run (.cycle (circle way name)))
      else if Keyed.has views name then r.prepareReferences supplied view way rest views
      else match r.find? name with
        | none => .error (.run (.missingView view name))
        | some v =>
          r.prepareReferences supplied v.name (way ++ [name]) v.references views >>= fun below =>
            v.prepareAlone supplied below >>= fun prepared =>
              r.prepareReferences supplied view way rest (below ++ [(name, prepared)]) := by
  rw [prepareReferences]
  cases new : way.contains name with
  | true => rfl
  | false =>
    simp only [Bool.false_eq_true, if_false, dite_true]
    split
    · rfl
    · split <;> simp_all

/-- **What preparing one more view keeps, a preparation keeps.** -/
theorem prepareReferences_preserves {P : PreparedViews → Prop}
    (extend : ∀ {name v below p}, r.find? name = some v → P below →
      v.prepareAlone supplied below = .ok p → P (below ++ [(name, p)]))
    {view : String} {way names : List String} {views prepared : PreparedViews} (start : P views)
    (h : r.prepareReferences supplied view way names views = .ok prepared) : P prepared := by
  induction view, way, names, views using prepareReferences.induct r generalizing prepared with
  | case1 view way views =>
    rw [prepareReferences] at h
    exact Except.ok.inj h ▸ start
  | case2 view way views name rest new listed ih =>
    rw [prepareReferences_cons, new, listed] at h
    exact ih start h
  | case3 view way views name rest new unlisted missing =>
    rw [prepareReferences_cons, new, missing] at h
    simp [unlisted] at h
  | case4 view way views name rest new unlisted v found ihBelow ihRest =>
    rw [prepareReferences_cons, new, found] at h
    simp only [Bool.false_eq_true, if_false, unlisted] at h
    obtain ⟨below, hbelow, h⟩ := bind_eq_ok.mp h
    obtain ⟨p, hp, h⟩ := bind_eq_ok.mp h
    exact ihRest below p (extend found (ihBelow start hbelow) hp) h
  | case5 view way views name rest old =>
    rw [prepareReferences_cons, if_pos (Bool.eq_true_of_not_eq_false old)] at h
    cases h

/-- The way down to a view follows references and ends in the view. -/
structure WayTo (R : String → String → Prop) (way : List String) (view : String) : Prop where
  chain : List.IsChain R way
  last : way.getLast? = some view

omit [PatternEngine] in
theorem WayTo.append {R : String → String → Prop} {way : List String} {view name : String}
    (h : WayTo R way view) (step : R view name) : WayTo R (way ++ [name]) name where
  chain := by
    refine List.isChain_append.mpr ⟨h.chain, .singleton _, fun a ha b hb => ?_⟩
    rw [h.last, Option.mem_some] at ha
    rw [List.head?_cons, Option.mem_some] at hb
    exact ha ▸ hb ▸ step
  last := by simp

omit [PatternEngine] in
/-- A name on the way, reached again, closes the way from it on. -/
theorem closedWalk_circle {R : String → String → Prop} {way : List String} {view name : String}
    (h : WayTo R way view) (step : R view name) (mem : name ∈ way) :
    ClosedWalk R (circle way name) := by
  obtain ⟨before, cut⟩ := List.dropWhile_suffix (l := way) (· != name)
  have walk : List.IsChain R (circle way name) :=
    (h.append step).chain.suffix ⟨before, by rw [circle, ← List.append_assoc, cut]⟩
  cases rest : way.dropWhile (· != name) with
  | nil => exact absurd (List.dropWhile_eq_nil_iff.mp rest name mem) (by simp)
  | cons first after =>
    have first_eq : first = name := by
      have stops := List.head?_dropWhile_not (· != name) way
      simpa [rest] using stops
    refine ⟨name, after, ?_, walk⟩
    rw [circle, rest, first_eq, List.cons_append]

/-- **How preparing references fails**, when references are steps of a relation. -/
theorem prepareReferences_fails {R : String → String → Prop}
    (steps : ∀ v ∈ r.views, ∀ name ∈ v.references, R v.name name)
    {view : String} {way names : List String} {views : PreparedViews} {e : QueryError}
    (toView : WayTo R way view) (onward : ∀ name ∈ names, R view name)
    (h : r.prepareReferences supplied view way names views = .error e) :
    e.isOfReferences = false ∨
      (∃ view name, R view name ∧ r.find? name = none ∧ e = .run (.missingView view name)) ∨
      ∃ path, ClosedWalk R path ∧ e = .run (.cycle path) := by
  induction view, way, names, views using prepareReferences.induct r generalizing e with
  | case1 view way views =>
    rw [prepareReferences] at h
    exact nomatch h
  | case2 view way views name rest new listed ih =>
    rw [prepareReferences_cons, new, listed] at h
    exact ih toView (fun n hn => onward n (List.mem_cons_of_mem _ hn)) h
  | case3 view way views name rest new unlisted missing =>
    rw [prepareReferences_cons, new, missing] at h
    simp only [Bool.false_eq_true, if_false, unlisted, Except.error.injEq] at h
    exact .inr (.inl ⟨view, name, onward name List.mem_cons_self, missing, h.symm⟩)
  | case4 view way views name rest new unlisted v found ihBelow ihRest =>
    rw [prepareReferences_cons, new, found] at h
    simp only [Bool.false_eq_true, if_false, unlisted] at h
    have named := name_of_find? found
    rcases bind_eq_error.mp h with h | ⟨below, -, h⟩
    · refine ihBelow ?_ (steps v (mem_of_find? found)) h
      rw [named]
      exact toView.append (onward name List.mem_cons_self)
    rcases bind_eq_error.mp h with h | ⟨p, -, h⟩
    · exact .inl (View.prepareAlone_fails h)
    · exact ihRest below p toView (fun n hn => onward n (List.mem_cons_of_mem _ hn)) h
  | case5 view way views name rest old =>
    rw [prepareReferences_cons, if_pos (Bool.eq_true_of_not_eq_false old)] at h
    have mem : name ∈ way := by simpa using old
    exact .inr (.inr ⟨_, closedWalk_circle toView (onward name List.mem_cons_self) mem,
      (Except.error.inj h).symm⟩)

end Registry

end BookmarkViews
