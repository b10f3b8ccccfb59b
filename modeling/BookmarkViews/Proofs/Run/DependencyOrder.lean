import BookmarkViews.Proofs.Run.Preparation

/-!
The order of prepared views.

`Registry.InOrder` says that a list of prepared views was grown one view at a time,
each new, registered, and behind all views it refers to.

* `Registry.prepareReferences_grown`: what preparing references leaves is in order,
  and holds the views asked for and those they need, none of them on the way;
* `Registry.InOrder.acyclic`: views in order do not refer to each other in a circle;
* `Registry.InOrder.shape?_eq`: the shape of a prepared view does not depend on the
  parameters, nor on what else is prepared;
* `Registry.prepareReferences_fails_alone`: a failure that is not about references is
  the failure of one view whose references are prepared.
-/

namespace BookmarkViews

open Relation

/-! ### Shapes -/

namespace Shape

variable {v : View} {f g : String → Option Shape}

/-- The shape of a view depends on the shapes of the views it refers to only. -/
theorem ofView_congr (h : ∀ name ∈ v.references, f name = g name) : ofView v f = ofView v g := by
  have first : v.mentions.head?.bind f = v.mentions.head?.bind g := by
    cases mentions : v.mentions with
    | nil => rfl
    | cons name rest =>
      have mem : name ∈ v.references := by
        rw [View.references, List.mem_eraseDups, mentions]
        exact List.mem_cons_self
      simpa using h name mem
  unfold ofView
  rw [first]

theorem checkReferences_congr {view : String} {expected : Entity} {names : List String}
    (h : ∀ name ∈ names, f name = g name) :
    checkReferences view expected f names = checkReferences view expected g names := by
  induction names with
  | nil => rfl
  | cons name rest ih =>
    unfold checkReferences
    rw [h name List.mem_cons_self, ih fun n mem => h n (List.mem_cons_of_mem _ mem)]

theorem resolve_congr (h : ∀ name ∈ v.references, f name = g name) : resolve v f = resolve v g := by
  unfold resolve
  dsimp only
  rw [ofView_congr h, checkReferences_congr h]

end Shape

namespace PreparedViews

variable {views : PreparedViews} {name other : String} {p : PreparedView}

theorem keys_append_single : Keyed.keys (views ++ [(name, p)]) = Keyed.keys views ++ [name] := by
  simp [Keyed.keys]

theorem mem_keys_append_single :
    other ∈ Keyed.keys (views ++ [(name, p)]) ↔ other ∈ Keyed.keys views ∨ other = name := by
  simp [keys_append_single]

/-- A view that stands behind others does not hide their shapes. -/
theorem shape?_append_single_of_mem (h : other ∈ Keyed.keys views) :
    shape? (views ++ [(name, p)]) other = shape? views other := by
  rw [shape?, shape?, Keyed.get?_append_of_mem h]

/-- The shape of a new view at the end. -/
theorem shape?_append_single_self (h : name ∉ Keyed.keys views) :
    shape? (views ++ [(name, p)]) name = some p.shape := by
  rw [shape?, Keyed.get?_cut h, Option.map_some]

end PreparedViews

variable [PatternEngine]

namespace Registry

variable {r : Registry} {supplied : Params}

/-! ### Views in order -/

/-- Prepared views that were added one at a time: each is new, is the registered view
of its name, and has been prepared behind all views it refers to. -/
inductive InOrder (r : Registry) (supplied : Params) : PreparedViews → Prop where
  | nil : InOrder r supplied []
  | snoc {before : PreparedViews} {name : String} {p : PreparedView} :
    InOrder r supplied before → name ∉ Keyed.keys before → r.find? name = some p.view →
    (∀ ref ∈ p.view.references, ref ∈ Keyed.keys before) →
    p.view.prepareAlone supplied before = .ok p → InOrder r supplied (before ++ [(name, p)])

/-- A relation between names is followed by the references of a view when its steps
from the name of the view are the references. -/
def Follows (R : String → String → Prop) (r : Registry) : Prop :=
  ∀ name w, r.find? name = some w → ∀ ref, R name ref → ref ∈ w.references

namespace InOrder

variable {views : PreparedViews}

/-- Every view is listed once. -/
theorem nodup (h : r.InOrder supplied views) : (Keyed.keys views).Nodup := by
  induction h with
  | nil => exact List.nodup_nil
  | snoc _ new _ _ _ ih =>
    rw [PreparedViews.keys_append_single]
    exact List.nodup_append.mpr ⟨ih, List.nodup_singleton _, fun a mem b last => by
      rw [List.mem_singleton.mp last]
      exact fun same => new (same ▸ mem)⟩

/-- Every listed view comes with the part of the list it was added to. -/
theorem split (h : r.InOrder supplied views) {before after : PreparedViews} {name : String}
    {p : PreparedView} (cut : views = before ++ (name, p) :: after) :
    r.InOrder supplied before ∧ name ∉ Keyed.keys before ∧ r.find? name = some p.view ∧
      (∀ ref ∈ p.view.references, ref ∈ Keyed.keys before) ∧
      p.view.prepareAlone supplied before = .ok p := by
  induction h generalizing after with
  | nil => simp at cut
  | snoc inOrder new found refs prepared ih =>
    -- The view is the last one, or it stands in the list before the last.
    rcases List.eq_nil_or_concat after with rfl | ⟨init, last, rfl⟩
    · obtain ⟨rfl, same⟩ := List.append_inj' cut rfl
      obtain ⟨rfl, rfl⟩ := Prod.mk.inj (List.singleton_inj.mp same)
      exact ⟨inOrder, new, found, refs, prepared⟩
    · rw [List.concat_eq_append, ← List.cons_append, ← List.append_assoc] at cut
      exact ih (List.append_inj' cut rfl).1

/-- A listed name is that of a listed view. -/
theorem split_of_mem (h : r.InOrder supplied views) {name : String}
    (mem : name ∈ Keyed.keys views) :
    ∃ before p after, views = before ++ (name, p) :: after ∧
      r.InOrder supplied before ∧ name ∉ Keyed.keys before ∧ r.find? name = some p.view ∧
      (∀ ref ∈ p.view.references, ref ∈ Keyed.keys before) ∧
      p.view.prepareAlone supplied before = .ok p := by
  obtain ⟨⟨_, p⟩, entry, rfl⟩ := List.mem_map.mp mem
  obtain ⟨before, after, cut⟩ := List.append_of_mem entry
  exact ⟨before, p, after, cut, h.split cut⟩

theorem registered (h : r.InOrder supplied views) {name : String}
    (mem : name ∈ Keyed.keys views) : ∃ w, r.find? name = some w := by
  obtain ⟨_, p, _, _, _, _, found, _⟩ := h.split_of_mem mem
  exact ⟨p.view, found⟩

/-! ### Reachability -/

variable {R : String → String → Prop}

/-- References of listed views are to listed views. -/
theorem closed (h : r.InOrder supplied views) (follows : Follows R r) {name ref : String}
    (mem : name ∈ Keyed.keys views) (step : R name ref) : ref ∈ Keyed.keys views := by
  obtain ⟨before, p, after, cut, _, _, found, refs, _⟩ := h.split_of_mem mem
  have listed := refs ref (follows name p.view found ref step)
  rw [cut, Keyed.keys, List.map_append]
  exact List.mem_append_left _ listed

theorem closed_transGen (h : r.InOrder supplied views) (follows : Follows R r)
    {name ref : String} (mem : name ∈ Keyed.keys views) (way : TransGen R name ref) :
    ref ∈ Keyed.keys views := by
  induction way with
  | single step => exact h.closed follows mem step
  | tail _ step ih => exact h.closed follows ih step

/-- **No listed view reaches itself**: each refers only to views before it. -/
theorem acyclic (h : r.InOrder supplied views) (follows : Follows R r) {name : String}
    (mem : name ∈ Keyed.keys views) : ¬ TransGen R name name := by
  intro cycle
  obtain ⟨before, p, _, _, inOrder, new, found, refs, _⟩ := h.split_of_mem mem
  obtain ⟨ref, step, back⟩ := TransGen.head'_iff.mp cycle
  have listed : ref ∈ Keyed.keys before := refs ref (follows name p.view found ref step)
  rcases reflTransGen_iff_eq_or_transGen.mp back with same | way
  · exact new (same ▸ listed)
  · exact new (inOrder.closed_transGen follows listed way)

/-! ### Shapes of listed views -/

theorem shape?_cut (h : r.InOrder supplied views) {before after : PreparedViews} {name : String}
    (cut : views = before ++ after) (mem : name ∈ Keyed.keys before) :
    PreparedViews.shape? views name = PreparedViews.shape? before name := by
  induction h generalizing after with
  | nil =>
    obtain ⟨rfl, -⟩ := List.append_eq_nil_iff.mp cut.symm
    rfl
  | @snoc init last p _ new _ _ _ ih =>
    rcases List.eq_nil_or_concat after with rfl | ⟨middle, entry, rfl⟩
    · rw [cut, List.append_nil]
    · rw [List.concat_eq_append, ← List.append_assoc] at cut
      obtain ⟨rfl, -⟩ := List.append_inj' cut rfl
      have listed : name ∈ Keyed.keys (before ++ middle) := by
        rw [Keyed.keys, List.map_append]
        exact List.mem_append_left _ mem
      rw [PreparedViews.shape?_append_single_of_mem listed, ih rfl]

/-- **The shape of a listed view is settled by the registry**: it is the same in any
two lists, whatever the parameters and the other views. -/
theorem shape?_eq {supplied' : Params} {views' : PreparedViews} (h : r.InOrder supplied views)
    (h' : r.InOrder supplied' views') {name : String} (mem : name ∈ Keyed.keys views)
    (mem' : name ∈ Keyed.keys views') :
    PreparedViews.shape? views name = PreparedViews.shape? views' name := by
  induction h generalizing name with
  | nil => simp [Keyed.keys] at mem
  | @snoc before last p _ new found refs prepared ih =>
    rcases PreparedViews.mem_keys_append_single.mp mem with old | rfl
    · rw [PreparedViews.shape?_append_single_of_mem old]
      exact ih old mem'
    -- The same view stands somewhere in the other list, behind the same references.
    obtain ⟨before', p', after', cut, inOrder', new', found', refs', prepared'⟩ :=
      h'.split_of_mem mem'
    have view : p'.view = p.view := Option.some_inj.mp (found'.symm.trans found)
    have agree : ∀ ref ∈ p.view.references,
        PreparedViews.shape? before ref = PreparedViews.shape? before' ref := by
      intro ref hr
      have listed' : ref ∈ Keyed.keys before' := refs' ref (view ▸ hr)
      have listed : ref ∈ Keyed.keys views' := by
        rw [cut, Keyed.keys, List.map_append]
        exact List.mem_append_left _ listed'
      rw [ih (refs ref hr) listed, h'.shape?_cut cut listed']
    have shape : p.shape = p'.shape := by
      rw [(View.shape_of_prepareAlone prepared).2, (View.shape_of_prepareAlone prepared').2, view]
      exact Shape.ofView_congr agree
    have there : PreparedViews.shape? views' name = some p'.shape := by
      have cut' : views' = (before' ++ [(name, p')]) ++ after' := by simpa using cut
      rw [h'.shape?_cut cut' (PreparedViews.mem_keys_append_single.mpr (.inr rfl)),
        PreparedViews.shape?_append_single_self new']
    rw [PreparedViews.shape?_append_single_self new, there, shape]

end InOrder

/-! ### Preparing references -/

/-- What preparing the references of a view leaves behind, from some views and a way
down to the view. -/
structure Grown (r : Registry) (supplied : Params) (way names : List String)
    (views prepared : PreparedViews) : Prop where
  inOrder : r.InOrder supplied prepared
  keeps : ∀ name ∈ Keyed.keys views, name ∈ Keyed.keys prepared
  lists : ∀ name ∈ names, name ∈ Keyed.keys prepared
  /-- What is new is not on the way, and is reached from the names asked for. -/
  fresh : ∀ name ∈ Keyed.keys prepared, name ∈ Keyed.keys views ∨
    name ∉ way ∧ ∃ first ∈ names, ReflTransGen (referencesOf r.views).Refers first name

/-- A view on the way is not added, since it waits for what is added. -/
theorem Grown.notMem {way names : List String} {name : String} {views prepared : PreparedViews}
    (grown : r.Grown supplied (way ++ [name]) names views prepared)
    (unlisted : ¬ Keyed.has views name = true) : name ∉ Keyed.keys prepared := by
  intro mem
  rcases grown.fresh name mem with old | ⟨off, -⟩
  · exact unlisted (Keyed.has_iff.mpr old)
  · exact off (List.mem_append_right _ (List.mem_singleton_self name))

omit [PatternEngine] in
/-- The references of a registered view are steps in the graph of references. -/
theorem refers_of_find? {name ref : String} {w : View} (found : r.find? name = some w)
    (mem : ref ∈ w.references) : (referencesOf r.views).Refers name ref := by
  rw [← name_of_find? found]
  exact ⟨w.references, List.mem_map_of_mem (mem_of_find? found), mem⟩

/-- A name that is listed adds nothing. -/
theorem Grown.cons_listed {way rest : List String} {name : String} {views prepared : PreparedViews}
    (grown : r.Grown supplied way rest views prepared) (listed : name ∈ Keyed.keys views) :
    r.Grown supplied way (name :: rest) views prepared where
  inOrder := grown.inOrder
  keeps := grown.keeps
  lists n mem := by
    rcases List.mem_cons.mp mem with rfl | mem
    · exact grown.keeps n listed
    · exact grown.lists n mem
  fresh n mem := by
    rcases grown.fresh n mem with old | ⟨off, first, asked, path⟩
    · exact .inl old
    · exact .inr ⟨off, first, List.mem_cons_of_mem _ asked, path⟩

/-- A name that is not listed adds what its view refers to, itself, and what the other
names need. -/
theorem Grown.cons_found {way rest : List String} {name : String} {v : View} {p : PreparedView}
    {views below prepared : PreparedViews} (new : name ∉ way) (found : r.find? name = some v)
    (grownBelow : r.Grown supplied (way ++ [name]) v.references views below)
    (grown : r.Grown supplied way rest (below ++ [(name, p)]) prepared) :
    r.Grown supplied way (name :: rest) views prepared where
  inOrder := grown.inOrder
  keeps n mem :=
    grown.keeps n (PreparedViews.mem_keys_append_single.mpr (.inl (grownBelow.keeps n mem)))
  lists n mem := by
    rcases List.mem_cons.mp mem with rfl | mem
    · exact grown.keeps n (PreparedViews.mem_keys_append_single.mpr (.inr rfl))
    · exact grown.lists n mem
  fresh n mem := by
    rcases grown.fresh n mem with old | ⟨off, first, asked, path⟩
    · rcases PreparedViews.mem_keys_append_single.mp old with old | rfl
      · rcases grownBelow.fresh n old with old | ⟨off, first, asked, path⟩
        · exact .inl old
        · refine .inr ⟨fun on => off (List.mem_append_left _ on), name, List.mem_cons_self, ?_⟩
          exact .head (refers_of_find? found asked) path
      · exact .inr ⟨new, n, List.mem_cons_self, .refl⟩
    · exact .inr ⟨off, first, List.mem_cons_of_mem _ asked, path⟩

/-- **Preparing references keeps views in order**, and adds what the references need. -/
theorem prepareReferences_grown {view : String} {way names : List String}
    {views prepared : PreparedViews} (start : r.InOrder supplied views)
    (h : r.prepareReferences supplied view way names views = .ok prepared) :
    r.Grown supplied way names views prepared := by
  induction view, way, names, views using prepareReferences.induct r generalizing prepared with
  | case1 view way views =>
    rw [prepareReferences] at h
    obtain rfl := Except.ok.inj h
    exact ⟨start, fun _ mem => mem, by simp, fun _ mem => .inl mem⟩
  | case2 view way views name rest new listed ih =>
    rw [prepareReferences_cons, new, listed] at h
    exact (ih start h).cons_listed (Keyed.has_iff.mp listed)
  | case3 view way views name rest new unlisted missing =>
    rw [prepareReferences_cons, new, missing] at h
    simp [unlisted] at h
  | case4 view way views name rest new unlisted v found ihBelow ihRest =>
    rw [prepareReferences_cons, new, found] at h
    simp only [Bool.false_eq_true, if_false, unlisted] at h
    obtain ⟨below, hbelow, h⟩ := bind_eq_ok.mp h
    obtain ⟨p, hp, onward⟩ := bind_eq_ok.mp h
    have grownBelow := ihBelow start hbelow
    obtain ⟨rfl, -⟩ := View.shape_of_prepareAlone hp
    have grown := ihRest below p
      (.snoc grownBelow.inOrder (grownBelow.notMem unlisted) found grownBelow.lists hp) onward
    exact .cons_found (by simpa using new) found grownBelow grown
  | case5 view way views name rest old =>
    rw [prepareReferences_cons, if_pos (Bool.eq_true_of_not_eq_false old)] at h
    cases h

/-- **A failure that is not about references is that of one view by itself**: a
registered view that is reached, behind everything it refers to. -/
theorem prepareReferences_fails_alone {view : String} {way names : List String}
    {views : PreparedViews} {e : QueryError} (start : r.InOrder supplied views)
    (other : e.isOfReferences = false)
    (h : r.prepareReferences supplied view way names views = .error e) :
    ∃ w ∈ r.views, (∃ first ∈ names, ReflTransGen (referencesOf r.views).Refers first w.name) ∧
      ∃ below, r.InOrder supplied below ∧ (∀ ref ∈ w.references, ref ∈ Keyed.keys below) ∧
        w.prepareAlone supplied below = .error e := by
  induction view, way, names, views using prepareReferences.induct r with
  | case1 view way views =>
    rw [prepareReferences] at h
    cases h
  | case2 view way views name rest new listed ih =>
    rw [prepareReferences_cons, new, listed] at h
    obtain ⟨w, mem, ⟨first, asked, path⟩, below⟩ := ih start h
    exact ⟨w, mem, ⟨first, List.mem_cons_of_mem _ asked, path⟩, below⟩
  | case3 view way views name rest new unlisted missing =>
    rw [prepareReferences_cons, new, missing] at h
    simp only [Bool.false_eq_true, if_false, unlisted, Except.error.injEq] at h
    subst h
    cases other
  | case4 view way views name rest new unlisted v found ihBelow ihRest =>
    rw [prepareReferences_cons, new, found] at h
    simp only [Bool.false_eq_true, if_false, unlisted] at h
    rcases bind_eq_error.mp h with h | ⟨below, hbelow, h⟩
    · obtain ⟨w, mem, ⟨first, asked, path⟩, below⟩ := ihBelow start h
      exact ⟨w, mem, ⟨name, List.mem_cons_self, .head (refers_of_find? found asked) path⟩, below⟩
    have grown := prepareReferences_grown start hbelow
    rcases bind_eq_error.mp h with failed | ⟨p, hp, onward⟩
    · refine ⟨v, mem_of_find? found, ⟨name, List.mem_cons_self, ?_⟩, below, grown.inOrder,
        grown.lists, failed⟩
      rw [name_of_find? found]
    · obtain ⟨rfl, -⟩ := View.shape_of_prepareAlone hp
      obtain ⟨w, mem, ⟨first, asked, path⟩, below⟩ := ihRest below p
        (.snoc grown.inOrder (grown.notMem unlisted) found grown.lists hp) onward
      exact ⟨w, mem, ⟨first, List.mem_cons_of_mem _ asked, path⟩, below⟩
  | case5 view way views name rest old =>
    rw [prepareReferences_cons, if_pos (Bool.eq_true_of_not_eq_false old)] at h
    obtain rfl := Except.error.inj h
    cases other

end Registry

end BookmarkViews
