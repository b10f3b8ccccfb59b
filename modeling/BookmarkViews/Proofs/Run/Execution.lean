import BookmarkViews.Proofs.Run.Fetching
import BookmarkViews.Proofs.Run.SortedRows
import BookmarkViews.Proofs.Sequencing
import BookmarkViews.Run.Execute

/-!
What an execution answers, by the outcome of its preparation.
-/

namespace BookmarkViews

variable [PatternEngine]

/-- A view that neither groups nor arranges leaves out what it excludes, and no more. -/
theorem PreparedView.finish_eq_filter {p : PreparedView} (plain : p.shape.isAggregate = false)
    (having : p.having = []) (sort : p.view.sort = []) (offset : p.view.offset = 0)
    (limit : p.view.limit = none) (now : Instant) (rows : List Row) :
    p.finish now rows =
      .ok (rows.filter fun row => !passesAny now p.shape.input p.exclude row) := by
  have all (row : Row) : passesAll now p.shape.output [] row = true := rfl
  simp [finish, selected, plain, having, sort, offset, limit, all]

/-- The sort of a view gives up on what it selects of some rows, among which there are other
numbers to sort by than integers of 64 bits. -/
def PreparedView.GivesUpOn (p : PreparedView) (now : Instant) (rows : List Row) : Prop :=
  p.finish now rows = .error .disorder ∧ ¬ SortKey.IntegersUnder p.view.sort (p.selected now rows)

/-- A view that has rows to answer with, and no answer, gives up on them. -/
theorem PreparedView.givesUpOn_of_finish {p : PreparedView} {now : Instant} {rows : List Row}
    {f : RunFailure} (h : p.finish now rows = .error f) : f = .disorder ∧ p.GivesUpOn now rows := by
  have failed := h
  unfold finish at h
  split at h
  · exact nomatch h
  · next gaveUp =>
    obtain rfl := Except.error.inj h
    refine ⟨rfl, failed, fun integers => ?_⟩
    exact not_preorderOn_of_sortRows gaveUp (SortKey.preorderOn_compareAll integers _)

/-- A view answers with a page of the rows that it selects, in some order. -/
theorem PreparedView.exists_sorted_of_finish {p : PreparedView} {now : Instant}
    {rows answer : List Row} (h : p.finish now rows = .ok answer) :
    ∃ sorted : List Row, sorted.Perm (p.selected now rows) ∧
      answer = page p.view.offset p.view.limit sorted := by
  unfold finish at h
  split at h
  · next sorted found => exact ⟨sorted, sortRows_perm found, (Except.ok.inj h).symm⟩
  · exact nomatch h

/-- What a view reads of the store is one answer of it, whatever was asked before. -/
theorem PreparedView.answer_runStored (ctx : RunContext) (p : PreparedView)
    (noted : List FetchRequest) :
    (p.runStored ctx).answer noted =
      ((ctx.store.fetch p.storedEntity (p.plan ctx).pushed).mapError .store).bind fun fetched =>
        p.finish ctx.now
          (fetched.filter (passesAll ctx.now p.shape.input (p.plan ctx).residual)) := by
  simp only [runStored, Fetching.answer_bind, Fetching.answer_request, Fetching.answer_given]
  cases ctx.store.fetch p.storedEntity (p.plan ctx).pushed <;> rfl

/-! ### Failures of a run -/

variable {ctx : RunContext}

/-- A failure of the store, or of the sort of a view that is one of some. -/
def RunFailure.IsOf (now : Instant) (among : List PreparedView) (f : RunFailure) : Prop :=
  (∃ cause, f = .store cause) ∨
    f = .disorder ∧ ∃ p ∈ among, ∃ rows, p.GivesUpOn now rows

theorem RunFailure.IsOf.mono {now : Instant} {among more : List PreparedView} {f : RunFailure}
    (h : f.IsOf now among) (sub : among ⊆ more) : f.IsOf now more :=
  h.imp_right fun ⟨same, p, mem, gaveUp⟩ => ⟨same, p, sub mem, gaveUp⟩

/-- A view fails with the store or with its sort. -/
theorem PreparedView.run_fails {p : PreparedView} {views : PreparedViews}
    {table : Composition.RowTable} {noted : List FetchRequest} {f : RunFailure}
    (h : (p.run ctx views table).answer noted = .error f) : f.IsOf ctx.now [p] := by
  have sort {rows : List Row} (h : p.finish ctx.now rows = .error f) : f.IsOf ctx.now [p] := by
    obtain ⟨rfl, gaveUp⟩ := givesUpOn_of_finish h
    exact .inr ⟨rfl, p, List.mem_singleton_self p, rows, gaveUp⟩
  unfold run at h
  split at h
  · exact sort h
  · rw [answer_runStored] at h
    cases fetched : ctx.store.fetch p.storedEntity (p.plan ctx).pushed with
    | error e =>
      rw [fetched] at h
      exact .inl ⟨e, (Except.error.inj h).symm⟩
    | ok rows =>
      rw [fetched] at h
      exact sort h

/-- Views that are run one after another fail with the store or with the sort of one. -/
theorem runViews_fails {views rest : PreparedViews} {table : Composition.RowTable}
    {noted : List FetchRequest} {f : RunFailure}
    (h : (runViews ctx views rest table).answer noted = .error f) :
    f.IsOf ctx.now (rest.map (·.2)) := by
  induction rest generalizing table noted with
  | nil => exact nomatch h
  | cons entry rest ih =>
    obtain ⟨name, p⟩ := entry
    rw [runViews, Fetching.answer_bind] at h
    cases ran : (p.run ctx views table).answer noted with
    | error f' =>
      rw [ran] at h
      obtain rfl := Except.error.inj h
      exact (PreparedView.run_fails ran).mono (by simp)
    | ok rows =>
      rw [ran] at h
      exact (ih h).mono (List.subset_cons_self _ _)

/-- **A run fails with the store, or with the sort of the query or of a view before it.** -/
theorem runPrepared_fails {top : PreparedView} {views : PreparedViews} {noted : List FetchRequest}
    {f : RunFailure} (h : (runPrepared ctx top views).answer noted = .error f) :
    f.IsOf ctx.now (top :: views.map (·.2)) := by
  rw [runPrepared, Fetching.answer_bind] at h
  cases ran : (runViews ctx views views []).answer noted with
  | error f' =>
    rw [ran] at h
    obtain rfl := Except.error.inj h
    exact (runViews_fails ran).mono (List.subset_cons_self _ _)
  | ok table =>
    rw [ran] at h
    exact (PreparedView.run_fails h).mono (by simp)

/-! ### Executions -/

variable {r : Registry} {supplied : Params} {v : View}

/-- An execution answers what its prepared query answers. -/
theorem result_execute {top : PreparedView} {views : PreparedViews}
    (h : r.prepare supplied v = .ok (top, views)) :
    (execute ctx r supplied v).result =
      (((runPrepared ctx top views).answer []).mapError .failed).map fun rows =>
        ⟨top.shape.entity, rows, top.groupColumns⟩ := by
  rw [execute, h]
  rfl

/-- An execution fails as its preparation does. -/
theorem result_execute_of_error {e : QueryError} (h : r.prepare supplied v = .error e) :
    (execute ctx r supplied v).result = .error e := by
  rw [execute, h]

/-- A prepared execution fails as its run does. -/
theorem error_of_prepared {top : PreparedView} {views : PreparedViews} {e : QueryError}
    (prepared : r.prepare supplied v = .ok (top, views))
    (h : (execute ctx r supplied v).result = .error e) :
    ∃ f : RunFailure, e = .failed f ∧ f.IsOf ctx.now (top :: views.map (·.2)) := by
  rw [result_execute prepared, map_eq_error_iff] at h
  obtain ⟨f, failed, rfl⟩ := mapError_eq_error_iff.mp h
  exact ⟨f, rfl, runPrepared_fails failed⟩

/-- **An execution fails in its preparation or in its run**, and nowhere else. -/
theorem error_of_execute {e : QueryError} (h : (execute ctx r supplied v).result = .error e) :
    r.prepare supplied v = .error e ∨ ∃ f, e = .failed f := by
  cases prepared : r.prepare supplied v with
  | error e' =>
    rw [result_execute_of_error prepared] at h
    exact .inl (congrArg _ (Except.error.inj h))
  | ok both =>
    obtain ⟨f, same, -⟩ := error_of_prepared prepared h
    exact .inr ⟨f, same⟩

end BookmarkViews
