import BookmarkViews.Proofs.Run.Walks

/-!
Registered views where others mention them.

A view that can be executed is prepared in the same way, and has the same rows, wherever it
is mentioned.

* `Registry.prepareReferences_of_certified`: references that are prepared somewhere else,
  away from the way down, are prepared here;
* `Registry.notMem_of_mention`: a view is not among those needed by one that it mentions and
  that is prepared, so the way down never meets it;
* `Registry.InOrder.mentioned_eq`: where a view is listed, it is listed as it is executed.
-/

namespace BookmarkViews

variable [PatternEngine]

namespace Registry

variable {r : Registry} {supplied : Params} {v w : View} {top : PreparedView}
  {views listed : PreparedViews}

/-- A prepared view of the registry stands in order behind what it needs. -/
theorem inOrder_append_of_prepare (mem : w ∈ r.views)
    (h : r.prepare supplied w = .ok (top, views)) :
    r.InOrder supplied (views ++ [(w.name, top)]) := by
  obtain ⟨query, inOrder, lists, reached⟩ := inOrder_of_prepare h
  obtain ⟨-, alone⟩ := prepare_eq_ok_iff.mp h
  subst query
  exact .snoc inOrder (fun again => (reached _ again).1 rfl) (find?_of_mem mem) lists alone

/-- **A view is not needed by what it mentions.** -/
theorem notMem_of_mention (mem : w ∈ r.views) (h : r.prepare supplied w = .ok (top, views))
    (known : v ∈ r.views ∨ r.find? v.name = none) (mention : w.name ∈ v.references) :
    v.name ∉ Keyed.keys (views ++ [(w.name, top)]) := by
  intro needed
  have inOrder := inOrder_append_of_prepare mem h
  obtain ⟨before, p, after, cut, _, new, found, refs, _⟩ := inOrder.split_of_mem needed
  obtain rfl : p.view = v := by
    rcases known with registered | unknown
    · exact Option.some_inj.mp (found.symm.trans (find?_of_mem registered))
    · exact nomatch unknown.symm.trans found
  have early := refs w.name mention
  -- The last view of the list would stand before another one.
  have once := inOrder.nodup
  rcases List.eq_nil_or_concat after with rfl | ⟨init, last, rfl⟩
  · obtain ⟨-, same⟩ := List.append_inj' cut rfl
    obtain ⟨same, -⟩ := Prod.mk.inj (List.singleton_inj.mp same)
    exact new (same ▸ early)
  · rw [List.concat_eq_append, ← List.cons_append, ← List.append_assoc] at cut
    obtain ⟨rfl, -⟩ := List.append_inj' cut rfl
    rw [Keyed.keys_append, Keyed.keys_append] at once
    have apart := (List.nodup_append.mp once).2.2
    exact apart w.name (List.mem_append_left _ early) w.name List.mem_cons_self rfl

/-- **What is prepared elsewhere is prepared here**, as long as the way down does not meet
what it needs. -/
theorem prepareReferences_of_certified {view : String} {way names : List String}
    (start : r.InOrder supplied views)
    (certified : ∀ name ∈ names, ∃ listed, r.InOrder supplied listed ∧
      name ∈ Keyed.keys listed ∧ ∀ n ∈ Keyed.keys listed, n ∉ way) :
    ∃ prepared, r.prepareReferences supplied view way names views = .ok prepared := by
  induction view, way, names, views using prepareReferences.induct r with
  | case1 view way views => exact ⟨views, by rw [prepareReferences]⟩
  | case2 view way views name rest new known ih =>
    rw [prepareReferences_cons, new, known]
    exact ih start fun n mem => certified n (List.mem_cons_of_mem _ mem)
  | case3 view way views name rest new unlisted missing =>
    obtain ⟨listed, inOrder, mem, -⟩ := certified name List.mem_cons_self
    obtain ⟨w, found⟩ := inOrder.registered mem
    cases missing.symm.trans found
  | case4 view way views name rest new unlisted v found ihBelow ihRest =>
    rw [prepareReferences_cons, new, found]
    simp only [Bool.false_eq_true, if_false, unlisted]
    -- What the view needs stands before it in the list that certifies it.
    obtain ⟨listed, inOrder, mem, off⟩ := certified name List.mem_cons_self
    obtain ⟨before, p, after, cut, inOrder', fresh, found', refs, alone⟩ :=
      inOrder.split_of_mem mem
    obtain rfl : p.view = v := Option.some_inj.mp (found'.symm.trans found)
    have off' : ∀ n ∈ Keyed.keys before, n ∉ way ++ [name] := by
      intro n early
      rw [List.mem_append, List.mem_singleton, not_or]
      exact ⟨off n (cut ▸ Keyed.mem_keys_append.mpr (.inl early)), fun same => fresh (same ▸ early)⟩
    obtain ⟨below, prepared⟩ := ihBelow start fun ref hr => ⟨before, inOrder', refs ref hr, off'⟩
    have grown := prepareReferences_grown start prepared
    have alone' : p.view.prepareAlone supplied below = .ok p := by
      rw [← alone]
      exact View.prepareAlone_congr fun ref hr =>
        grown.inOrder.get?_eq inOrder' (grown.lists ref hr) (refs ref hr)
    obtain ⟨prepared', onward⟩ := ihRest below p
      (.snoc grown.inOrder (grown.notMem unlisted) found grown.lists alone')
      fun n mem => certified n (List.mem_cons_of_mem _ mem)
    exact ⟨prepared', bind_eq_ok.mpr ⟨below, prepared, bind_eq_ok.mpr ⟨p, alone', onward⟩⟩⟩
  | case5 view way views name rest old =>
    obtain ⟨listed, _, mem, off⟩ := certified name List.mem_cons_self
    exact absurd (by simpa using Bool.eq_true_of_not_eq_false old) (off name mem)

/-- A view is prepared when those that it refers to can be prepared and it fits to them. -/
theorem prepareReferences_of_prepare (known : v ∈ r.views ∨ r.find? v.name = none)
    (each : ∀ name ∈ v.references, ∃ w ∈ r.views, w.name = name ∧
      ∃ both, r.prepare supplied w = .ok both) :
    ∃ views, r.prepareReferences supplied v.name [v.name] v.references [] = .ok views := by
  refine prepareReferences_of_certified .nil fun name mem => ?_
  obtain ⟨w, registered, rfl, ⟨top, views⟩, h⟩ := each name mem
  refine ⟨_, inOrder_append_of_prepare registered h,
    PreparedViews.mem_keys_append_single.mpr (.inr rfl), fun n needed on => ?_⟩
  obtain rfl := List.mem_singleton.mp on
  exact notMem_of_mention registered h known mem needed

/-- **A listed view is what its execution prepares**, and has the rows of its execution. -/
theorem InOrder.mentioned_eq (inOrder : r.InOrder supplied listed) (mem : w ∈ r.views)
    (h : r.prepare supplied w = .ok (top, views)) (mention : w.name ∈ Keyed.keys listed)
    (ctx : RunContext) :
    Keyed.get? listed w.name = some top ∧ plainRows ctx listed w.name = plainRun ctx top views := by
  have behind := inOrder_append_of_prepare mem h
  obtain ⟨query, inOrder', lists, reached⟩ := inOrder_of_prepare h
  have last : w.name ∈ Keyed.keys (views ++ [(w.name, top)]) :=
    PreparedViews.mem_keys_append_single.mpr (.inr rfl)
  have new : w.name ∉ Keyed.keys views := fun again => (reached _ again).1 rfl
  constructor
  · rw [inOrder.get?_eq behind mention last, Keyed.get?_cut new]
  · rw [inOrder.plainRows_eq_of_mem behind mention last, behind.plainRows_eq rfl]
    refine PreparedView.runBy_congr fun ref hr => ?_
    have known := lists ref (View.mem_references.mpr (query ▸ hr))
    have known' : ref ∈ Keyed.keys (views ++ [(w.name, top)]) :=
      Keyed.mem_keys_append.mpr (.inl known)
    exact ⟨behind.get?_eq inOrder' known' known, behind.plainRows_eq_of_mem inOrder' known' known⟩

end Registry

/-- What an execution answers comes of a preparation and of plain rows. -/
theorem plainRun_of_execute {ctx : RunContext} {r : Registry} {supplied : Params} {v : View}
    {q : QueryRows} (h : (execute ctx r supplied v).result = .ok q) :
    ∃ top views, r.prepare supplied v = .ok (top, views) ∧
      plainRun ctx top views = .ok q.rows ∧ q.entity = top.shape.entity ∧
        q.groupColumns = top.groupColumns := by
  cases prepared : r.prepare supplied v with
  | error e =>
    rw [result_execute_of_error prepared] at h
    exact nomatch h
  | ok both =>
    obtain ⟨top, views⟩ := both
    rw [result_execute_plain prepared] at h
    obtain ⟨rows, ran, rfl⟩ := map_eq_ok_iff.mp h
    exact ⟨top, views, rfl, ran, rfl, rfl⟩

end BookmarkViews
