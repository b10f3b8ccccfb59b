import BookmarkViews.Proofs.Run.Remembered

/-!
Which views a run with a memory runs.

A run with a memory walks through what a query mentions. A preparation has walked the same
way (`Visits.of_prepareReferences`), so the run does what running the prepared views in
order does: the same requests, the same answer or failure, the same rows in the table
(`Visits.performs`), and no view is started twice. An execution therefore answers the plain
rows of its query (`result_execute_plain`).
-/

namespace BookmarkViews

open BookmarkViews.Composition (RowTable rowsIn identify)
open Remembering

/-! ### Walks -/

/-- A walk through names in order, from the views that were run before to those that were
run after: a name that was run adds nothing, any other one what its view mentions and then
itself. -/
inductive Visits : List String → PreparedViews → PreparedViews → Prop where
  | nil {views : PreparedViews} : Visits [] views views
  | known {name : String} {rest : List String} {before after : PreparedViews} :
    name ∈ Keyed.keys before → Visits rest before after → Visits (name :: rest) before after
  | new {name : String} {rest : List String} {p : PreparedView}
    {before below after : PreparedViews} :
    name ∉ Keyed.keys below → Visits p.view.mentions before below →
    Visits rest (below ++ [(name, p)]) after → Visits (name :: rest) before after

namespace Visits

variable {names : List String} {before after : PreparedViews}

theorem grows (h : Visits names before after) : ∃ added, after = before ++ added := by
  induction h with
  | nil => exact ⟨[], (List.append_nil _).symm⟩
  | known _ _ ih => exact ih
  | @new name _ p _ _ _ _ _ _ ihBelow ih =>
    obtain ⟨below, rfl⟩ := ihBelow
    obtain ⟨added, rfl⟩ := ih
    exact ⟨below ++ [(name, p)] ++ added, by simp only [List.append_assoc]⟩

theorem eq_of_nil (h : Visits [] before after) : after = before := by
  cases h
  rfl

theorem mem_keys (h : Visits names before after) {name : String} (mem : name ∈ Keyed.keys before) :
    name ∈ Keyed.keys after := by
  obtain ⟨added, rfl⟩ := h.grows
  exact Keyed.mem_keys_append.mpr (.inl mem)

/-- A name that was run may be mentioned anywhere. -/
theorem of_filter {name : String} (known : name ∈ Keyed.keys before)
    (h : Visits (names.filter fun n => !(n == name)) before after) : Visits names before after := by
  induction names generalizing before with
  | nil => exact h
  | cons first rest ih =>
    by_cases same : first = name
    · subst same
      rw [List.filter_cons_of_neg (by simp)] at h
      exact .known known (ih known h)
    · rw [List.filter_cons_of_pos (by simpa using same)] at h
      cases h with
      | known mem h => exact .known mem (ih known h)
      | new fresh below h =>
        refine .new fresh below (ih ?_ h)
        exact PreparedViews.mem_keys_append_single.mpr (.inl (below.mem_keys known))

/-- **Mentions that come again add nothing.** -/
theorem of_eraseDups (h : Visits names.eraseDups before after) : Visits names before after := by
  -- The induction is on the number of names, as a name leaves with all that repeat it.
  induction size : names.length using Nat.strong_induction_on generalizing names before with
  | _ n ih =>
    cases names with
    | nil => exact h
    | cons first rest =>
      rw [List.eraseDups_cons] at h
      have smaller : (rest.filter fun n => !(n == first)).length < n :=
        size ▸ Nat.lt_succ_of_le (List.length_filter_le _ _)
      cases h with
      | known mem h => exact .known mem (.of_filter mem (ih _ smaller h rfl))
      | new fresh below h =>
        refine .new fresh below (.of_filter ?_ (ih _ smaller h rfl))
        exact PreparedViews.mem_keys_append_single.mpr (.inr rfl)

/-- **Preparing references walks through them.** -/
theorem of_prepareReferences [PatternEngine] {r : Registry} {supplied : Params} {view : String}
    {way : List String}
    (start : r.InOrder supplied before)
    (h : r.prepareReferences supplied view way names before = .ok after) :
    Visits names before after := by
  induction view, way, names, before using Registry.prepareReferences.induct r
    generalizing after with
  | case1 view way before =>
    rw [Registry.prepareReferences] at h
    obtain rfl := Except.ok.inj h
    exact .nil
  | case2 view way before name rest new listed ih =>
    rw [Registry.prepareReferences_cons, new, listed] at h
    exact .known (Keyed.has_iff.mp listed) (ih start h)
  | case3 view way before name rest new unlisted missing =>
    rw [Registry.prepareReferences_cons, new, missing] at h
    simp [unlisted] at h
  | case4 view way before name rest new unlisted v found ihBelow ihRest =>
    rw [Registry.prepareReferences_cons, new, found] at h
    simp only [Bool.false_eq_true, if_false, unlisted] at h
    obtain ⟨below, hbelow, h⟩ := bind_eq_ok.mp h
    obtain ⟨p, hp, onward⟩ := bind_eq_ok.mp h
    have grown := Registry.prepareReferences_grown start hbelow
    have fresh := grown.notMem unlisted
    have visited := ihBelow start hbelow
    obtain ⟨rfl, -⟩ := View.shape_of_prepareAlone hp
    exact .new fresh (.of_eraseDups visited)
      (ihRest below p (.snoc grown.inOrder fresh found grown.lists hp) onward)
  | case5 view way before name rest old =>
    rw [Registry.prepareReferences_cons, if_pos (Bool.eq_true_of_not_eq_false old)] at h
    cases h

end Visits

/-! ### Running the views that are new -/

section

variable {ctx : RunContext} {views : PreparedViews} {α β : Type}

theorem runViews_append [PatternEngine] (first second : PreparedViews) (table : RowTable) :
    runViews ctx views (first ++ second) table =
      runViews ctx views first table >>= runViews ctx views second := by
  induction first generalizing table with
  | nil => rw [List.nil_append, runViews, pure_bind]
  | cons entry first ih =>
    obtain ⟨name, p⟩ := entry
    rw [List.cons_append, runViews, runViews, bind_assoc]
    exact congrArg _ (funext fun rows => ih _)

/-- Running views adds their rows to the table, and touches nothing in it. -/
theorem runViews_bind_congr [PatternEngine] {added : PreparedViews} {table : RowTable}
    {f g : RowTable → Fetching β}
    (h : ∀ more, Keyed.keys more = Keyed.keys added → f (table ++ more) = g (table ++ more)) :
    runViews ctx views added table >>= f = runViews ctx views added table >>= g := by
  induction added generalizing table with
  | nil =>
    rw [runViews, pure_bind, pure_bind]
    simpa using h [] rfl
  | cons entry added ih =>
    obtain ⟨name, p⟩ := entry
    rw [runViews, bind_assoc, bind_assoc]
    refine congrArg _ (funext fun rows => ih fun more same => ?_)
    simpa using h ((name, rows) :: more) (by simpa [Keyed.keys] using same)

/-- What a computation comes to from a state, told by one that only asks a store: the
answer with the table it leaves, or its failure. It runs some views, each
once. -/
def Performs (s : RunState) (x : Remembering α) (y : Fetching (RowTable × α))
    (allowed : List String) : Prop :=
  ∃ new : List String, new.Nodup ∧ (∀ name ∈ new, name ∈ allowed) ∧
    match y.run.run s.requests with
    | (.ok (table, a), requests) =>
      x.outcome s = (.ok a, { table, started := s.started ++ new, requests })
    | (.error e, requests) =>
      ∃ table, x.outcome s = (.error (.failed e), { table, started := s.started ++ new, requests })

theorem performs_pure (s : RunState) (a : α) : Performs s (pure a) (pure (s.table, a)) [] := by
  refine ⟨[], List.nodup_nil, by simp, ?_⟩
  change (Except.ok a, s) = (Except.ok a, { s with started := s.started ++ [] })
  rw [List.append_nil]

theorem performs_given (s : RunState) (x : Except RunFailure α) :
    Performs s (ofExcept (x.mapError .failed))
      (Fetching.given x >>= fun a => pure (s.table, a)) [] := by
  cases x with
  | ok a => exact performs_pure s a
  | error f => exact ⟨[], List.nodup_nil, by simp, s.table, by rw [List.append_nil]; rfl⟩

theorem performs_stored (s : RunState) (x : Fetching α) :
    Performs s (ofFetching x) (x >>= fun a => pure (s.table, a)) [] := by
  refine ⟨[], List.nodup_nil, by simp, ?_⟩
  rw [outcome_ofFetching, Fetching.answer, ExceptT.run_bind, StateT.run_bind]
  cases x.run.run s.requests with
  | mk result requests =>
    cases result with
    | ok a =>
      change (Except.ok a, _) = (Except.ok a, { s with started := s.started ++ [], requests })
      rw [List.append_nil]
    | error e => exact ⟨s.table, by rw [List.append_nil]; rfl⟩

theorem Performs.bind {s : RunState} {x : Remembering α} {y : Fetching (RowTable × α)}
    {f : α → Remembering β} {g : RowTable × α → Fetching (RowTable × β)} {first second : List String}
    (h : Performs s x y first) (apart : ∀ name ∈ first, name ∉ second)
    (next : ∀ s' a, y.run.run s.requests = (.ok (s'.table, a), s'.requests) →
      Performs s' (f a) (g (s'.table, a)) second) :
    Performs s (x >>= f) (y >>= g) (first ++ second) := by
  obtain ⟨new, once, within, reached⟩ := h
  unfold Performs
  rw [outcome_bind, ExceptT.run_bind, StateT.run_bind]
  cases ran : y.run.run s.requests with
  | mk result requests =>
    rw [ran] at reached
    cases result with
    | error e =>
      obtain ⟨table, reached⟩ := reached
      refine ⟨new, once, fun name mem => List.mem_append_left _ (within name mem), table, ?_⟩
      rw [reached]
    | ok both =>
      obtain ⟨table, a⟩ := both
      obtain ⟨new', once', within', onward⟩ :=
        next { table, started := s.started ++ new, requests } a ran
      refine ⟨new ++ new', ?_, ?_, ?_⟩
      · refine List.nodup_append.mpr ⟨once, once', fun name mem name' mem' same => ?_⟩
        exact apart name (within name mem) (within' name (same ▸ mem'))
      · intro name mem
        rcases List.mem_append.mp mem with mem | mem
        · exact List.mem_append_left _ (within name mem)
        · exact List.mem_append_right _ (within' name mem)
      · simp only [reached, List.append_assoc] at onward ⊢
        exact onward

theorem Performs.mono {s : RunState} {x : Remembering α} {y : Fetching (RowTable × α)}
    {allowed allowed' : List String} (h : Performs s x y allowed)
    (more : ∀ name ∈ allowed, name ∈ allowed') : Performs s x y allowed' := by
  obtain ⟨new, once, within, reached⟩ := h
  exact ⟨new, once, fun name mem => more name (within name mem), reached⟩

theorem Performs.map {s : RunState} {x : Remembering α} {y : Fetching (RowTable × α)}
    {allowed : List String} (f : α → β) (h : Performs s x y allowed) :
    Performs s (f <$> x) (y >>= fun both => pure (both.1, f both.2)) allowed := by
  rw [← bind_pure_comp, ← List.append_nil allowed]
  exact h.bind (by simp) fun s' a _ => performs_pure s' (f a)

/-- What such a computation answers, asks for, and runs. -/
theorem Performs.outcome {s : RunState} {x : Remembering α} {y : Fetching (RowTable × α)}
    {allowed : List String} (h : Performs s x y allowed) :
    (x.outcome s).1 = ((y >>= fun both => pure both.2).answer s.requests).mapError .failed ∧
      (x.outcome s).2.requests = ((y >>= fun both => pure both.2).run.run s.requests).2 ∧
      ∃ new : List String, (x.outcome s).2.started = s.started ++ new ∧ new.Nodup ∧
        ∀ name ∈ new, name ∈ allowed := by
  obtain ⟨new, once, within, reached⟩ := h
  rw [Fetching.answer, ExceptT.run_bind, StateT.run_bind]
  cases ran : y.run.run s.requests with
  | mk result requests =>
    rw [ran] at reached
    cases result with
    | ok both =>
      rw [reached]
      exact ⟨rfl, rfl, new, rfl, once, within⟩
    | error e =>
      obtain ⟨table, reached⟩ := reached
      rw [reached]
      exact ⟨rfl, rfl, new, rfl, once, within⟩

/-- Remembered rows are there without a run. -/
theorem performs_known {s : RunState} {name : String} (mem : name ∈ Keyed.keys s.table)
    (x : Remembering (List Row)) :
    Performs s (remembered name x) (pure (s.table, rowsIn s.table name)) [] := by
  obtain ⟨rows, found⟩ := Keyed.exists_get?_of_mem mem
  have same := performs_pure s rows
  unfold Performs at same ⊢
  rw [remembered_known found, rowsIn, found]
  exact same

/-- Rows that are not remembered are those of a run, and are remembered from then on. -/
theorem Performs.remembered {s : RunState} {name : String} {x : Remembering (List Row)}
    {y : Fetching (RowTable × List Row)} {allowed : List String}
    (unknown : name ∉ Keyed.keys s.table) (other : name ∉ allowed)
    (h : Performs { s with started := s.started ++ [name] } x y allowed)
    (left : ∀ table rows requests, y.run.run s.requests = (.ok (table, rows), requests) →
      name ∉ Keyed.keys table) :
    Performs s (remembered name x) (y >>= fun both => pure (both.1 ++ [(name, both.2)], both.2))
      (name :: allowed) := by
  obtain ⟨new, once, within, reached⟩ := h
  refine ⟨name :: new, List.nodup_cons.mpr ⟨fun mem => other (within name mem), once⟩, ?_, ?_⟩
  · intro n mem
    rcases List.mem_cons.mp mem with rfl | mem
    · exact List.mem_cons_self
    · exact List.mem_cons_of_mem _ (within n mem)
  rw [remembered_new (Keyed.get?_eq_none_of_notMem unknown), ExceptT.run_bind, StateT.run_bind]
  cases ran : y.run.run s.requests with
  | mk result requests =>
    rw [ran] at reached
    cases result with
    | error e =>
      obtain ⟨table, reached⟩ := reached
      exact ⟨table, by rw [reached, List.append_assoc]; rfl⟩
    | ok both =>
      obtain ⟨table, rows⟩ := both
      have unlisted : ¬ Keyed.has table name = true :=
        fun has => left table rows requests ran (Keyed.has_iff.mp has)
      change _ = (Except.ok rows, RunState.mk (table ++ [(name, rows)]) (s.started ++ name :: new) requests)
      rw [reached]
      simp only [Keyed.insert, if_neg unlisted, List.append_assoc, List.singleton_append]

/-- The rows of views that ran are those of their names. -/
theorem keys_of_runViews [PatternEngine] {added : PreparedViews} {table table' : RowTable}
    {noted noted' : List FetchRequest}
    (h : (runViews ctx views added table).run.run noted = (.ok table', noted')) :
    Keyed.keys table' = Keyed.keys table ++ Keyed.keys added := by
  induction added generalizing table noted with
  | nil =>
    obtain rfl := Except.ok.inj (Prod.mk.inj h).1
    simp [Keyed.keys]
  | cons entry added ih =>
    obtain ⟨name, p⟩ := entry
    obtain ⟨rows, between, -, onward⟩ := Fetching.run_bind_eq_ok.mp h
    rw [ih onward]
    simp [Keyed.keys]

/-- A run over mentions that were asked for runs the views they need, and then itself. -/
theorem performs_runBy [PatternEngine] {s : RunState} {p : PreparedView} {added : PreparedViews}
    (mentioned : Performs s
      (p.view.mentions.mapM fun name => identify views name <$> ask ctx views name)
      (runViews ctx views added s.table >>= fun table =>
        pure (table, p.view.mentions.map fun name => identify views name (rowsIn table name)))
      (Keyed.keys added))
    (alone : p.view.isComposed = false → added = []) :
    Performs s (p.runBy ctx.now views (ofFetching (p.runStored ctx)) (ask ctx views))
      (runViews ctx views added s.table >>= fun table =>
        p.run ctx views table >>= fun rows => pure (table, rows))
      (Keyed.keys added) := by
  cases composed : p.view.isComposed with
  | true =>
    have run (table : RowTable) :
        p.run ctx views table = .given (p.runComposed ctx.now views table) := if_pos composed
    let finish (rows : List Row) : Except RunFailure (List Row) :=
      p.finish ctx.now (rows.filter (PreparedView.passesAll ctx.now p.shape.input p.filters))
    have performs := (mentioned.map fun lists =>
      (Composition.composeMentions p.view lists).map (·.2)).bind (by simp)
        (f := fun rows => ofExcept ((finish rows).mapError .failed))
        (g := fun both => Fetching.given (finish both.2) >>= fun a => pure (both.1, a))
        fun s' rows _ => performs_given s' (finish rows)
    simp only [bind_assoc, pure_bind, Composition.composeMentions_rowsIn, List.append_nil] at performs
    simp only [PreparedView.runBy, composed, if_true, Composition.composeBy, run,
      PreparedView.runComposed]
    simpa only [bind_pure_comp] using performs
  | false =>
    obtain rfl := alone composed
    have run (table : RowTable) : p.run ctx views table = p.runStored ctx :=
      if_neg (by simp [composed])
    simp only [PreparedView.runBy, composed, runViews, pure_bind, run, Bool.false_eq_true, if_false]
    exact performs_stored s _

/-- What a table has for a name stays when rows are added behind it. -/
theorem rowsIn_append {table : RowTable} {name : String} (mem : name ∈ Keyed.keys table)
    (more : RowTable) : rowsIn (table ++ more) name = rowsIn table name := by
  rw [rowsIn, rowsIn, Keyed.get?_append_of_mem mem]

/-- Names are asked for one after another, and what the first one needs is run first. -/
theorem Performs.cons [PatternEngine] {s : RunState} {name : String} {rest : List String}
    {first second : PreparedViews}
    (h : Performs s (ask ctx views name)
      (runViews ctx views first s.table >>= fun table => pure (table, rowsIn table name))
      (Keyed.keys first))
    (listed : name ∈ Keyed.keys s.table ++ Keyed.keys first)
    (apart : ∀ n ∈ Keyed.keys first, n ∉ Keyed.keys second)
    (onward : ∀ s', Keyed.keys s'.table = Keyed.keys s.table ++ Keyed.keys first →
      Performs s' (rest.mapM fun n => identify views n <$> ask ctx views n)
        (runViews ctx views second s'.table >>= fun table =>
          pure (table, rest.map fun n => identify views n (rowsIn table n)))
        (Keyed.keys second)) :
    Performs s ((name :: rest).mapM fun n => identify views n <$> ask ctx views n)
      (runViews ctx views (first ++ second) s.table >>= fun table =>
        pure (table, (name :: rest).map fun n => identify views n (rowsIn table n)))
      (Keyed.keys (first ++ second)) := by
  have performs := h.bind apart
    (f := fun rows => (identify views name rows :: ·) <$>
      rest.mapM fun n => identify views n <$> ask ctx views n)
    (g := fun both => (runViews ctx views second both.1 >>= fun table =>
      pure (table, rest.map fun n => identify views n (rowsIn table n))) >>= fun both' =>
        pure (both'.1, identify views name both.2 :: both'.2))
    fun s' rows ran => by
      obtain ⟨table, _, first, last⟩ := Fetching.run_bind_eq_ok.mp ran
      obtain ⟨rfl, rfl⟩ := Prod.mk.inj (Except.ok.inj (Prod.mk.inj last).1)
      exact (onward s' (keys_of_runViews first)).map _
  -- The rows of the first name are the same before and after the rest is run.
  have lookup : (runViews ctx views first s.table >>= fun table =>
        runViews ctx views second table >>= fun all =>
          pure (all, identify views name (rowsIn table name) ::
            rest.map fun n => identify views n (rowsIn all n))) =
      runViews ctx views (first ++ second) s.table >>= fun table =>
        pure (table, (name :: rest).map fun n => identify views n (rowsIn table n)) := by
    rw [runViews_append, bind_assoc]
    refine runViews_bind_congr fun more same => runViews_bind_congr fun more' _ => ?_
    have found : name ∈ Keyed.keys (s.table ++ more) := by
      rwa [Keyed.keys_append, same]
    rw [List.map_cons, rowsIn_append found]
  rw [← lookup, List.mapM_cons, bind_map_left, Keyed.keys_append]
  simp only [bind_assoc, pure_bind] at performs
  simp only [bind_pure_comp] at performs ⊢
  exact performs

end

section

variable {r : Registry} {supplied : Params} {ctx : RunContext} {views : PreparedViews}

/-- Asking for a view that is not known runs what it mentions, and then the view. -/
theorem performs_new [PatternEngine] (inOrder : r.InOrder supplied views) {before after : PreparedViews}
    {name : String} {p : PreparedView} (cut : views = before ++ (name, p) :: after)
    {below : PreparedViews} {s : RunState}
    (unknown : name ∉ Keyed.keys s.table ∧ name ∉ Keyed.keys below)
    (mentioned : Performs { s with started := s.started ++ [name] }
      (p.view.mentions.mapM fun ref => identify views ref <$> ask ctx views ref)
      (runViews ctx views below s.table >>= fun table =>
        pure (table, p.view.mentions.map fun ref => identify views ref (rowsIn table ref)))
      (Keyed.keys below))
    (alone : p.view.isComposed = false → below = []) :
    Performs s (ask ctx views name)
      (runViews ctx views (below ++ [(name, p)]) s.table >>= fun table =>
        pure (table, rowsIn table name))
      (Keyed.keys (below ++ [(name, p)])) := by
  have viewed := performs_runBy mentioned alone
  rw [← inOrder.rememberedRows_eq cut] at viewed
  have unlisted {table : RowTable}
      (keys : Keyed.keys table = Keyed.keys s.table ++ Keyed.keys below) :
      name ∉ Keyed.keys table := by
    rw [keys, List.mem_append]
    exact not_or.mpr unknown
  have performs := viewed.remembered unknown.1 unknown.2 fun table rows requests ran => by
    obtain ⟨table', _, below, onward⟩ := Fetching.run_bind_eq_ok.mp ran
    obtain ⟨rows', _, -, last⟩ := Fetching.run_bind_eq_ok.mp onward
    obtain ⟨rfl, -⟩ := Prod.mk.inj (Except.ok.inj (Prod.mk.inj last).1)
    exact unlisted (keys_of_runViews below)
  have lookup : (runViews ctx views below s.table >>= fun table =>
        p.run ctx views table >>= fun rows => pure (table ++ [(name, rows)], rows)) =
      runViews ctx views (below ++ [(name, p)]) s.table >>= fun table =>
        pure (table, rowsIn table name) := by
    rw [runViews_append, bind_assoc]
    refine runViews_bind_congr fun more keys => ?_
    have new : name ∉ Keyed.keys (s.table ++ more) := by
      exact unlisted (by rw [Keyed.keys_append, keys])
    simp only [runViews, bind_assoc, pure_bind, rowsIn, Keyed.get?_cut new, Option.getD_some]
  rw [← lookup, PreparedViews.keys_append_single]
  simp only [bind_assoc, pure_bind] at performs
  exact performs.mono (by simp [or_comm])

/-- **Asking for names in order runs the views that a walk adds**, in the order in which it
adds them. -/
theorem Visits.performs [PatternEngine] (inOrder : r.InOrder supplied views) {names : List String}
    {before after : PreparedViews} (h : Visits names before after) {rest : PreparedViews}
    (cut : views = after ++ rest) {added : PreparedViews} (grown : after = before ++ added)
    {s : RunState} (run : Keyed.keys s.table = Keyed.keys before) :
    Performs s (names.mapM fun name => identify views name <$> ask ctx views name)
      (runViews ctx views added s.table >>= fun table =>
        pure (table, names.map fun name => identify views name (rowsIn table name)))
      (Keyed.keys added) := by
  induction h generalizing added s rest with
  | nil =>
    obtain rfl := List.self_eq_append_right.mp grown
    rw [runViews, pure_bind]
    exact performs_pure s []
  | @known name names before after mem h ih =>
    have first : Performs s (ask ctx views name)
        (runViews ctx views [] s.table >>= fun table => pure (table, rowsIn table name))
        (Keyed.keys ([] : PreparedViews)) := by
      rw [runViews, pure_bind]
      exact performs_known (run ▸ mem) (rememberedRows ctx views name)
    refine first.cons ?_ (by simp [Keyed.keys]) fun s' keys => ?_
    · exact List.mem_append_left _ (run ▸ mem)
    · exact ih cut grown (by rw [keys, run]; exact List.append_nil _)
  | @new name names p before below after fresh hbelow h ihBelow ih =>
    obtain ⟨below, rfl⟩ := hbelow.grows
    obtain ⟨later, rfl⟩ := h.grows
    obtain rfl : added = (below ++ [(name, p)]) ++ later :=
      (List.append_cancel_left (by simpa only [List.append_assoc] using grown)).symm
    have cut' : views = (before ++ below) ++ (name, p) :: (later ++ rest) := by
      simpa only [List.append_assoc, List.singleton_append, List.cons_append, List.nil_append]
        using cut
    have unknown : name ∉ Keyed.keys s.table ∧ name ∉ Keyed.keys below := by
      rw [run]
      exact not_or.mp (mt Keyed.mem_keys_append.mpr fresh)
    have alone (stored : p.view.isComposed = false) : below = [] := by
      rw [View.mentions_eq_nil_iff.mpr stored] at hbelow
      exact List.append_right_eq_self.mp hbelow.eq_of_nil
    have first := performs_new inOrder cut' unknown
      (@ihBelow ((name, p) :: (later ++ rest)) cut' below rfl
        { s with started := s.started ++ [name] } run) alone
    have keys_first : Keyed.keys s.table ++ Keyed.keys (below ++ [(name, p)]) =
        Keyed.keys (before ++ below ++ [(name, p)]) := by
      rw [run, ← Keyed.keys_append, List.append_assoc]
    refine first.cons ?_ ?_ fun s' keys => ?_
    · exact List.mem_append_right _ (PreparedViews.mem_keys_append_single.mpr (.inr rfl))
    · intro n mem mem'
      have once := inOrder.nodup
      rw [cut, Keyed.keys_append, Keyed.keys_append, ← keys_first] at once
      have apart := (List.nodup_append.mp (List.nodup_append.mp once).1).2.2
      exact apart n (List.mem_append_right _ mem) n mem' rfl
    · exact ih cut rfl (keys.trans keys_first)

/-! ### The run of a query -/

/-- A preparation walks through what the query mentions. -/
theorem visits_of_prepare [PatternEngine] {v : View} {top : PreparedView}
    (h : r.prepare supplied v = .ok (top, views)) : Visits top.view.mentions [] views := by
  obtain ⟨prepared, alone⟩ := Registry.prepare_eq_ok_iff.mp h
  rw [(View.shape_of_prepareAlone alone).1]
  exact .of_eraseDups (.of_prepareReferences .nil prepared)

/-- **A run with a memory is the run of the views in order**, and runs each of them once. -/
theorem outcome_rememberedRun [PatternEngine] {v : View} {top : PreparedView}
    (h : r.prepare supplied v = .ok (top, views)) (ctx : RunContext) :
    let outcome := (rememberedRun ctx views top).outcome {}
    outcome.1 = ((runPrepared ctx top views).answer []).mapError .failed ∧
      outcome.2.requests = ((runPrepared ctx top views).run.run []).2 ∧
      outcome.2.started.Nodup ∧ ∀ name ∈ outcome.2.started, name ∈ Keyed.keys views := by
  obtain ⟨-, inOrder, -, -⟩ := Registry.inOrder_of_prepare h
  have visits := visits_of_prepare h
  have alone (stored : top.view.isComposed = false) : views = [] := by
    rw [View.mentions_eq_nil_iff.mpr stored] at visits
    exact visits.eq_of_nil
  have performs : Performs {} (rememberedRun ctx views top)
      (runViews ctx views views [] >>= fun table =>
        top.run ctx views table >>= fun rows => pure (table, rows))
      (Keyed.keys views) :=
    performs_runBy (visits.performs inOrder (List.append_nil views).symm
      (List.nil_append views).symm rfl) alone
  obtain ⟨answer, requests, new, started, once, within⟩ := performs.outcome
  simp only [bind_assoc, pure_bind, bind_pure] at answer requests
  refine ⟨answer, requests, ?_, ?_⟩
  · rw [started]
    exact once
  · rw [started]
    exact within

theorem sound_empty [PatternEngine] (ctx : RunContext) (views : PreparedViews) : Sound ctx views {} :=
  fun _ _ entry => nomatch entry

/-- What a query recalls are its plain rows. -/
theorem recalls_of_prepare [PatternEngine] {v : View} {top : PreparedView}
    (h : r.prepare supplied v = .ok (top, views)) :
    Recalls ctx views (rememberedRun ctx views top) (plainRun ctx top views) := by
  obtain ⟨query, inOrder, lists, -⟩ := Registry.inOrder_of_prepare h
  exact inOrder.recalls_run (query ▸ lists)

/-- **An execution answers the plain rows of its query.** -/
theorem result_execute_plain [PatternEngine] {v : View} {top : PreparedView}
    (h : r.prepare supplied v = .ok (top, views)) :
    (execute ctx r supplied v).result =
      (plainRun ctx top views).map fun rows => ⟨top.shape.entity, rows, top.groupColumns⟩ := by
  rw [result_execute h, ← (outcome_rememberedRun h ctx).1,
    (recalls_of_prepare h _ (sound_empty ctx views)).1]

end

end BookmarkViews
