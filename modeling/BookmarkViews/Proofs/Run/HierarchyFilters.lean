import BookmarkViews.Pattern.Standard
import BookmarkViews.Proofs.Run.Composing
import BookmarkViews.Proofs.Run.Pushdown
import BookmarkViews.Proofs.Store.FiledPaths

/-!
Filters by a hierarchy, tested in memory or asked of the store.

`Condition.under` is no clause, so it is tested in memory, while `Condition.underAsSet` goes to
stores that accept it. A view prepares alike with either (`View.prepareAlone_filteredBy`), and a
store that files by the field leaves it the same rows, or fails (`Store.Files.filtered_eq`). So
honest stores answer both alike. Tables do where no tag has a separator in it, and nowhere else,
apart from sets of patterns that make too large a query (`hierarchy_as_patterns`).
-/

namespace BookmarkViews

open PreparedView (passesAll)

/-! ### Plans -/

namespace FetchPlan

variable {store : Store} {entity : Entity} {field : FieldPath} {path : String}

theorem split_append (tests more : List FieldTest) : split store entity (tests ++ more) =
    { pushed := (split store entity tests).pushed ++ (split store entity more).pushed
      residual := (split store entity tests).residual ++ (split store entity more).residual } := by
  simp only [split, List.flatMap_append, List.filterMap_append, List.filter_append]

/-- One test that joins no others is asked of the store or kept. -/
theorem split_single {t : FieldTest} (single : t.split = [t]) : split store entity [t] =
    match pushable? store entity t with
    | some c => { pushed := [c] }
    | none => { residual := [t] } := by
  unfold split
  rw [List.flatMap_singleton, single]
  cases pushed : pushable? store entity t <;> simp [pushed]

/-- What lies under a path is no clause. -/
theorem split_under : split store entity [⟨field, .under path⟩] =
    { residual := [⟨field, .under path⟩] } :=
  split_single rfl

/-- The patterns of a path are a clause, which the store may accept. -/
theorem split_underAsSet : split store entity [⟨field, .underAsSet path⟩] =
    if store.accepts entity ⟨field, .anyOf (pathPatterns path)⟩ then
      { pushed := [⟨field, .anyOf (pathPatterns path)⟩] }
    else { residual := [⟨field, .underAsSet path⟩] } := by
  have pushable : pushable? store entity ⟨field, .underAsSet path⟩ =
      (some ⟨field, .anyOf (pathPatterns path)⟩).filter (store.accepts entity) := rfl
  rw [split_single rfl, pushable, Option.filter_some]
  cases store.accepts entity ⟨field, .anyOf (pathPatterns path)⟩ <;> rfl

end FetchPlan

section

variable [PatternEngine]

/-- **A store that files by a field leaves the same rows** to a hierarchy that is tested in
memory and to one that is asked as a set of patterns, if it does not fail. -/
theorem Store.Files.filtered_eq {s : Store} {entity : Entity} {field : FieldPath} {path : String}
    {mayFail : StoreError → Prop} (files : s.Files entity field mayFail) (plain : IsPlainPath path)
    (now : Instant) (schema : Schema) (pushdown : Bool) (before after : List FieldTest) :
    let rowsOf (c : Condition) : Except StoreError (List Row) :=
      let plan := FetchPlan.of pushdown s entity (before ++ [⟨field, c⟩] ++ after)
      (s.fetch entity plan.pushed).map (List.filter (passesAll now schema plan.residual))
    rowsOf (.under path) = rowsOf (.underAsSet path) ∨
      ∃ e, mayFail e ∧ rowsOf (.underAsSet path) = .error e := by
  intro rowsOf
  have same (row : Row) (shown : (Row.at row field).IsPathSet) :
      FieldTest.passes now schema row ⟨field, .under path⟩ =
        FieldTest.passes now schema row ⟨field, .underAsSet path⟩ :=
    Condition.holds_under plain shown now _
  -- What is tested in memory besides the hierarchy leaves the same rows.
  have tested (clauses : List StoreClause) (accepted : ∀ c ∈ clauses, s.accepts entity c = true)
      (first second : List FieldTest) :
      (s.fetch entity clauses).map
          (List.filter (passesAll now schema (first ++ [⟨field, .under path⟩] ++ second))) =
        (s.fetch entity clauses).map
          (List.filter (passesAll now schema (first ++ [⟨field, .underAsSet path⟩] ++ second))) := by
    cases found : s.fetch entity clauses with
    | error e => rfl
    | ok rows =>
      refine congrArg Except.ok (List.filter_congr fun row mem => ?_)
      simp only [passesAll, List.all_append, List.all_cons, List.all_nil,
        same row (files.shows clauses rows accepted found row mem)]
  cases pushdown with
  | false =>
    simp only [rowsOf, FetchPlan.of, Bool.false_eq_true, if_false, FetchPlan.inMemory]
    exact .inl (tested [] (List.forall_mem_nil _) before after)
  | true =>
    have others : ∀ c ∈ (FetchPlan.split s entity before).pushed ++
        (FetchPlan.split s entity after).pushed, s.accepts entity c = true := by
      intro c mem
      rcases List.mem_append.mp mem with mem | mem
      · exact FetchPlan.accepts_of_mem_pushed mem
      · exact FetchPlan.accepts_of_mem_pushed mem
    simp only [rowsOf, FetchPlan.of, if_true, FetchPlan.split_append, FetchPlan.split_under,
      FetchPlan.split_underAsSet, List.append_nil]
    cases accepted : s.accepts entity ⟨field, .anyOf (pathPatterns path)⟩ with
    | true =>
      obtain ⟨rows, found, narrowed⟩ | ⟨e, may, failed⟩ := files.narrows _ _ _ accepted others
      · left
        rw [List.append_cons] at narrowed
        simp only [if_true, found, narrowed, List.append_nil]
        refine congrArg Except.ok ?_
        rw [List.filter_filter]
        refine List.filter_congr fun row mem => ?_
        simp only [passesAll, List.all_append, List.all_cons, List.all_nil,
          same row (files.shows _ rows others found row mem)]
        have asked : FieldTest.passes now schema row ⟨field, .underAsSet path⟩ =
            Quantifier.any.holdsOf (pathPatterns path) (Row.at row field) := rfl
        rw [asked, Bool.and_true, Bool.and_right_comm]
      · right
        rw [List.append_cons] at failed
        refine ⟨e, may, ?_⟩
        simp only [if_true, failed]
        rfl
    | false =>
      simp only [Bool.false_eq_true, if_false, List.append_nil]
      exact .inl (tested _ others _ _)

/-! ### Views -/

namespace View

/-- A view with one more filter, that is read already, between the others. -/
def filteredBy (v : View) (before after : List Requirement) (field : FieldPath) (c : Condition) :
    View :=
  { v with filters := before ++ [⟨field, .ready c⟩] ++ after }

/-- The stored entity whose rows a view reads that refers to no others. -/
def storedEntity (v : View) : Entity :=
  (Shape.ofView v fun _ => none).input.entity.stored

variable {v : View} {before after : List Requirement} {field : FieldPath} {c : Condition}

omit [PatternEngine] in
@[simp] theorem name_filteredBy : (v.filteredBy before after field c).name = v.name := rfl

omit [PatternEngine] in
@[simp] theorem params_filteredBy : (v.filteredBy before after field c).params = v.params := rfl

omit [PatternEngine] in
@[simp] theorem exclude_filteredBy : (v.filteredBy before after field c).exclude = v.exclude := rfl

omit [PatternEngine] in
@[simp] theorem having_filteredBy : (v.filteredBy before after field c).having = v.having := rfl

/-- The filter becomes its own test in every view. -/
theorem mapM_resolve?_ready (view : String) (params : Params) (c : Condition) :
    (v.filteredBy before after field c).filters.mapM (resolve? view params) = do
      let first ← before.mapM (resolve? view params)
      let second ← after.mapM (resolve? view params)
      return first ++ [⟨field, c⟩] ++ second := by
  have ready : resolve? view params ⟨field, .ready c⟩ = .ok ⟨field, c⟩ := rfl
  rw [filteredBy, List.mapM_append, List.mapM_append, List.mapM_cons, List.mapM_nil, ready]
  cases before.mapM (resolve? view params) with
  | error e => rfl
  | ok first => cases after.mapM (resolve? view params) <;> rfl

omit [PatternEngine] in
/-- The fields of a view do not depend on what the filter asks of its own. -/
theorem checkFields_filteredBy (shape : Shape) (c : Condition) :
    shape.checkFields (v.filteredBy before after field c) =
      shape.checkFields (v.filteredBy before after field .present) := by
  have fields : Shape.inputFields (v.filteredBy before after field c) =
      Shape.inputFields (v.filteredBy before after field .present) := by
    simp [Shape.inputFields, filteredBy]
  rw [Shape.checkFields, Shape.checkFields, fields]
  rfl

/-- **A view prepares alike with every filter that is read already**, which stands between the
tests of the others. -/
theorem prepareAlone_filteredBy (v : View) (before after : List Requirement) (field : FieldPath)
    (supplied : Params) (views : PreparedViews) :
    ∃ outcome : Except QueryError (PreparedView × List FieldTest × List FieldTest), ∀ c,
      (v.filteredBy before after field c).prepareAlone supplied views =
        outcome.map fun made =>
          { made.1 with
            view := v.filteredBy before after field c
            filters := made.2.1 ++ [⟨field, c⟩] ++ made.2.2 } := by
  refine ⟨do
    let shape ← (Shape.resolve v views.shape?).mapError .run
    (shape.checkFields (v.filteredBy before after field .present)).mapError .run
    let params ← (bindParams? v.name supplied v.params).mapError .run
    let first ← (before.mapM (resolve? v.name params)).mapError .view
    let second ← (after.mapM (resolve? v.name params)).mapError .view
    let exclude ← (v.exclude.mapM (resolve? v.name params)).mapError .view
    let having ← (v.having.mapM (resolve? v.name params)).mapError .view
    return ({ view := v, shape, groupColumns := groupColumnsOf v shape views
              filters := [], exclude, having }, first, second), fun c => ?_⟩
  have resolved : Shape.resolve (v.filteredBy before after field c) views.shape? =
      Shape.resolve v views.shape? := rfl
  simp only [prepareAlone, resolved, checkFields_filteredBy, mapM_resolve?_ready, name_filteredBy,
    params_filteredBy, exclude_filteredBy, having_filteredBy]
  cases Shape.resolve v views.shape? with
  | error e => rfl
  | ok shape =>
  simp only [Except.mapError, bind, Except.bind]
  cases shape.checkFields (v.filteredBy before after field .present) with
  | error e => rfl
  | ok checked =>
  cases bindParams? v.name supplied v.params with
  | error e => rfl
  | ok params =>
  dsimp only
  cases before.mapM (resolve? v.name params) with
  | error e => rfl
  | ok first =>
  cases after.mapM (resolve? v.name params) with
  | error e => rfl
  | ok second =>
  cases v.exclude.mapM (resolve? v.name params) with
  | error e => rfl
  | ok exclude => cases v.having.mapM (resolve? v.name params) <;> rfl

end View

/-! ### Queries -/

section Execution

variable {ctx : RunContext} {r : Registry} {supplied : Params} {v : View}

/-- A view that refers to no others is prepared by itself. -/
theorem Registry.prepare_of_not_composed (alone : v.isComposed = false) :
    r.prepare supplied v = (v.prepareAlone supplied []).map (·, []) := by
  have none : v.references = [] := by
    rw [View.references, View.mentions_eq_nil_iff.mpr alone]
    rfl
  rw [prepare, none, prepareReferences]
  change (v.prepareAlone supplied [] >>= fun top => pure (top, [])) = _
  cases v.prepareAlone supplied [] <;> rfl

/-- What a view reads of the store, in two steps: what passes its filters, and what becomes of
that. -/
theorem PreparedView.storedRows_eq_bind (p : PreparedView) : p.storedRows ctx =
    ((((ctx.store.fetch p.storedEntity (p.plan ctx).pushed).map
      (List.filter (passesAll ctx.now p.shape.input (p.plan ctx).residual))).mapError .store).bind
        (p.finish ctx.now)).mapError .failed := by
  rw [storedRows, answer_runStored]
  cases ctx.store.fetch p.storedEntity (p.plan ctx).pushed <;> rfl

/-- **A store that files by a field answers a hierarchy in it alike**, as a test of texts and as
a set of patterns, if it does not fail. -/
theorem Store.Files.execute_eq {field : FieldPath} {path : String} {mayFail : StoreError → Prop}
    (plain : IsPlainPath path) (files : ctx.store.Files v.storedEntity field mayFail)
    (alone : v.isComposed = false) (before after : List Requirement) :
    let answer (c : Condition) := (execute ctx r supplied (v.filteredBy before after field c)).result
    answer (.under path) = answer (.underAsSet path) ∨
      ∃ e, mayFail e ∧ answer (.underAsSet path) = .error (.failed (.store e)) := by
  intro answer
  obtain ⟨outcome, prepares⟩ := v.prepareAlone_filteredBy before after field supplied []
  have alone (c : Condition) : (v.filteredBy before after field c).isComposed = false := alone
  have prepared (c : Condition) : r.prepare supplied (v.filteredBy before after field c) = _ :=
    (Registry.prepare_of_not_composed (alone c)).trans (congrArg _ (prepares c))
  cases outcome with
  | error e =>
    left
    simp only [answer]
    rw [result_execute_of_error (prepared _), result_execute_of_error (prepared _)]
  | ok made =>
    obtain ⟨p, first, second⟩ := made
    let top (c : Condition) : PreparedView :=
      { p with
        view := v.filteredBy before after field c
        filters := first ++ [⟨field, c⟩] ++ second }
    have prepared (c : Condition) : r.prepare supplied (v.filteredBy before after field c) =
      .ok (top c, []) := prepared c
    have answered (c : Condition) :
        answer c = ((top c).storedRows ctx).map fun rows => ⟨p.shape.entity, rows, p.groupColumns⟩ := by
      simp only [answer]
      rw [result_execute_plain (prepared c), plainRun, PreparedView.runBy, if_neg]
      exact Bool.eq_false_iff.mp (alone c)
    have shape := (View.shape_of_prepareAlone (prepares .present)).2
    have entity : p.storedEntity = v.storedEntity :=
      congrArg (fun s : Shape => s.input.entity.stored) shape
    have same := files.filtered_eq plain ctx.now p.shape.input ctx.pushdown first second
    rw [← entity] at same
    rw [answered, answered, PreparedView.storedRows_eq_bind, PreparedView.storedRows_eq_bind]
    -- What becomes of the rows that pass does not depend on the filters.
    let onward (rows : Except StoreError (List Row)) : Except QueryError QueryRows :=
      (((rows.mapError .store).bind ((top .present).finish ctx.now)).mapError .failed).map
        fun rows => ⟨p.shape.entity, rows, p.groupColumns⟩
    obtain same | ⟨e, may, failed⟩ := same
    · exact .inl (congrArg onward same)
    · exact .inr ⟨e, may, congrArg onward failed⟩

end Execution

/-- The answers of every view that reads a field of paths in the store are related: that to a
hierarchy as a test of texts, which stays in memory, and that to it as a set of patterns, which
may be pushed. -/
def Store.AnswersRelated (store : Store)
    (related : Except QueryError QueryRows → Except QueryError QueryRows → Prop) : Prop :=
  ∀ (v : View) (before after : List Requirement) (field : FieldPath) (path : String),
    v.isComposed = false → store.ListsPaths v.storedEntity field → IsPlainPath path →
    ∀ (now : Instant) (pushdown : Bool) (r : Registry) (supplied : Params),
      let answer (c : Condition) :=
        (execute { store, now, pushdown } r supplied (v.filteredBy before after field c)).result
      related (answer (.under path)) (answer (.members .any [path, path ++ "/*"]))

/-- Every such view has the same answer to both. -/
def Store.AnswersAlike (store : Store) : Prop :=
  store.AnswersRelated (· = ·)

/-- Every such view has the same answer to both, or the patterns make too large a query. -/
def Tables.AnswersAlike (t : Tables) : Prop :=
  t.store.AnswersRelated fun inMemory pushed =>
    inMemory = pushed ∨ pushed = .error (.failed (.store tooLarge))

/-- A view of bookmarks with one filter on tags answers what the plan of the filter keeps. -/
theorem result_execute_tags (store : Store) (now : Instant) (c : Condition) :
    let plan := FetchPlan.split store .bookmark [⟨⟨"tags", []⟩, c⟩]
    (execute { store, now } .empty [] (View.filteredBy {} [] [] ⟨"tags", []⟩ c)).result =
      (((store.fetch .bookmark plan.pushed).map
        (List.filter (passesAll now (Schema.of .bookmark) plan.residual))).mapError
          (.failed <| .store ·)).map fun rows => ⟨.bookmark, rows, []⟩ := by
  intro plan
  let top : PreparedView :=
    { view := View.filteredBy {} [] [] ⟨"tags", []⟩ c, groupColumns := []
      shape := ⟨.bookmark, Schema.of .bookmark, Schema.of .bookmark, []⟩
      filters := [⟨⟨"tags", []⟩, c⟩], exclude := [], having := [] }
  have prepared : Registry.prepare .empty [] (View.filteredBy {} [] [] ⟨"tags", []⟩ c) =
      .ok (top, []) := Registry.prepare_of_not_composed rfl
  have whole : top.finish now = .ok := by
    funext rows
    rw [PreparedView.finish_eq_filter rfl rfl rfl rfl rfl]
    exact congrArg _ (List.filter_true rows)
  have alone : top.view.isComposed = false := rfl
  rw [result_execute_plain prepared, plainRun, PreparedView.runBy, if_neg (by simp [alone]),
    PreparedView.storedRows_eq_bind, whole]
  have errors (kept : Except StoreError (List Row)) :
      ((kept.mapError RunFailure.store).bind .ok).mapError QueryError.failed =
        kept.mapError (.failed <| .store ·) := by
    cases kept <;> rfl
  exact congrArg (Except.map _) (errors _)

/-- Tables that answer alike have no tag with a separator in it. -/
theorem Tables.Kept.clean_of_answersAlike {t : Tables} (kept : t.Kept) (alike : t.AnswersAlike) :
    t.CleanTags := by
  refine (kept.finds_under_iff ⟨0, 0⟩).mp fun path plain => ⟨_, fetch_nil t .bookmark, ?_⟩
  have asked : pathPatterns path ≠ [] := List.cons_ne_nil _ _
  have found : t.store.fetch .bookmark [⟨⟨"tags", []⟩, .anyOf (pathPatterns path)⟩] = _ :=
    (fetch_tags asked).trans (if_neg (Bool.eq_false_iff.mp (refuses_pathPatterns path)))
  have inMemory := result_execute_tags t.store ⟨0, 0⟩ (.under path)
  have pushed := result_execute_tags t.store ⟨0, 0⟩ (.underAsSet path)
  simp only [FetchPlan.split_under, FetchPlan.split_underAsSet, t.accepts_tags asked, if_true,
    fetch_nil, found, Except.map, Except.mapError] at inMemory pushed
  rcases alike {} [] [] _ path rfl kept.listsPaths_tags plain ⟨0, 0⟩ true .empty [] with same | large
  · have rows := inMemory.symm.trans (same.trans pushed)
    simp only [Except.ok.injEq, QueryRows.mk.injEq] at rows
    have residual : passesAll ⟨0, 0⟩ (Schema.of .bookmark) [⟨⟨"tags", []⟩, .under path⟩] =
        fun row => Condition.holds ⟨0, 0⟩ (some .list) (Row.at row ⟨"tags", []⟩) (.under path) :=
      funext fun row => Bool.and_true _
    rw [found, ← residual, rows.2.1]
    exact congrArg Except.ok (List.filter_true _).symm
  · exact nomatch large.symm.trans pushed

/-- **A hierarchy is a set of two patterns.** Of null or nothing, a text and a list of texts, a
test of what lies under a plain path holds exactly when the set of its patterns does, and when
the set of patterns to avoid does not. So an honest store answers alike to a view with either,
one tested in memory and the other pushed. Tables do so, where the patterns do not make too large
a query, exactly when no tag has a separator in it. -/
theorem hierarchy_as_patterns (t : Tables) (built : t.Built) :
    (∀ path, IsPlainPath path → ∀ found : Option Value, (∀ v ∈ found, v.IsPathSet) →
      ∀ (now : Instant) (type : Option FieldType),
        let holds := Condition.holds now type (found.getD .null)
        holds (.under path) = holds (.members .any [path, path ++ "/*"]) ∧
          holds (.members .none [path, path ++ "/*"]) = !holds (.under path)) ∧
    (∀ store : Store, store.Honest → store.AnswersAlike) ∧
    (t.AnswersAlike ↔ t.CleanTags) := by
  refine ⟨fun path plain found paths now type => ?_, fun store honest => ?_, ?_⟩
  · have shown : (found.getD .null).IsPathSet := by
      cases found with
      | none => exact .null
      | some v => exact paths v rfl
    have same := Condition.holds_under plain shown now type
    exact ⟨same, (Condition.holds_none now type _ path).trans (congrArg (!·) same.symm)⟩
  · intro v before after field path alone paths plain now pushdown r supplied
    have files : (RunContext.mk store now pushdown).store.Files v.storedEntity field _ :=
      honest.files paths
    exact (files.execute_eq plain alone before after).resolve_right fun ⟨_, never, _⟩ => never
  · constructor
    · exact built.kept.clean_of_answersAlike
    · intro clean v before after field path alone paths plain now pushdown r supplied
      have files : (RunContext.mk t.store now pushdown).store.Files v.storedEntity field _ :=
        built.kept.files clean paths
      refine (files.execute_eq plain alone before after).imp_right ?_
      rintro ⟨_, rfl, failed⟩
      exact failed

/-! ### One bookmark -/

/-- What a filter on tags keeps over tables of one bookmark with these tags. -/
def taggedAnswer (tags : List String) (c : Condition) : Except QueryError QueryRows :=
  (execute { store := (Tables.taggedBookmark tags).store, now := ⟨0, 0⟩ } .empty []
    (View.filteredBy {} [] [] ⟨"tags", []⟩ c)).result

end

/-- The bookmark as it is shown with these tags. -/
def taggedRow (tags : List String) : Row :=
  [("id", .ofInt 1), ("url", .text "https://a.com"), ("tags", .list (tags.map .text))]

open StandardPatterns

/-- A bookmark with two tags is found under the path of one of them, and the other tag only
starts like the path. -/
theorem hierarchy_as_patterns_work :
    IsPlainPath "work" ∧ (Tables.taggedBookmark ["work/rust", "workshop"]).Built ∧
    (Tables.taggedBookmark ["work/rust", "workshop"]).CleanTags ∧
    taggedAnswer ["work/rust", "workshop"] (.members .any ["work", "work/*"]) =
      .ok ⟨.bookmark, [taggedRow ["work/rust", "workshop"]], []⟩ ∧
    Condition.holds ⟨0, 0⟩ none (.list [.text "workshop"])
      (.members .none ["work", "work/*"]) = true := by
  have plain : IsPlainPath "work" := by decide
  have built := Tables.built_taggedBookmark ["work/rust", "workshop"]
  have clean : (Tables.taggedBookmark ["work/rust", "workshop"]).CleanTags := by
    unfold Tables.CleanTags
    decide
  obtain ⟨values, -, alike⟩ := hierarchy_as_patterns _ built
  have found : taggedAnswer ["work/rust", "workshop"] (.under "work") =
      .ok ⟨.bookmark, [taggedRow ["work/rust", "workshop"]], []⟩ := by cbv
  have related := alike.mpr clean {} [] [] ⟨"tags", []⟩ "work" rfl built.kept.listsPaths_tags plain
    ⟨0, 0⟩ true .empty []
  have answers : (taggedAnswer ["work/rust", "workshop"] (.members .any ["work", "work/*"])).isOk =
      true := by cbv
  have same := related.resolve_right fun large =>
    Bool.false_ne_true ((congrArg Except.isOk large).symm.trans answers)
  have shop : ∀ v ∈ some (Value.list [.text "workshop"]), v.IsPathSet :=
    fun v some => Option.some_inj.mp some ▸ .list ["workshop"]
  have avoided := (values "work" plain (some (.list [.text "workshop"])) shop ⟨0, 0⟩ none).2
  exact ⟨plain, built, clean, same.symm.trans found, avoided⟩

/-- **A tag with a separator in it parts the two.** The tables show the bookmark under both
pieces of its tag, and do not find it by the patterns of the first one. -/
theorem hierarchy_parts_from_patterns :
    IsPlainPath "a" ∧ (Tables.taggedBookmark ["a\x1fb"]).Built ∧
    (Tables.taggedBookmark ["a\x1fb"]).store.ListsPaths .bookmark ⟨"tags", []⟩ ∧
    taggedAnswer ["a\x1fb"] (.under "a") = .ok ⟨.bookmark, [taggedRow ["a", "b"]], []⟩ ∧
    taggedAnswer ["a\x1fb"] (.members .any ["a", "a/*"]) = .ok ⟨.bookmark, [], []⟩ := by
  have built := Tables.built_taggedBookmark ["a\x1fb"]
  exact ⟨by decide, built, built.kept.listsPaths_tags, by cbv, by cbv⟩

end BookmarkViews
