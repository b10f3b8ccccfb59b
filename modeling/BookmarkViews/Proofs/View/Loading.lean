import BookmarkViews.Proofs.Sequencing
import BookmarkViews.Proofs.View.CycleSearch
import BookmarkViews.View.Registry

/-!
Loading documents one after another.

* `Registry.load_appends`: a document that may be added is added whole, behind the
  views already there;
* `Registry.load_rolls_back`: a document that is refused leaves nothing behind;
* `Registry.Acyclic` and `Registry.Closed` are kept by every load, so a run of loads
  from nothing never refers in a circle (`Registry.acyclic_loadAll`), and never to a
  missing view when every load is strict (`Registry.closed_loadAll`).

The search for cycles reads the registered and the new views together. A reference
that an earlier document left open is therefore looked at again by the document
that closes it.
-/

namespace BookmarkViews

/-! ### Names of definitions -/

variable [PatternEngine]

namespace View

theorem eq_of_checked? {v w : View} (h : v.checked? = .ok w) : w = v := by
  obtain ⟨_, -, same⟩ := map_eq_ok_iff.mp h
  exact same.symm

omit [PatternEngine] in
@[simp] theorem name_settleEntity (fromSource : Bool) (v : View) :
    (v.settleEntity fromSource).name = v.name := by
  unfold settleEntity
  split <;> rfl

/-- A definition gives a view of the name it stands under. -/
theorem name_of_ofNode? {name : String} {n : Node} {v : View} (h : ofNode? name n = .ok v) :
    v.name = name := by
  obtain ⟨d, -, h⟩ := bind_eq_ok.mp h
  simp only [ofDefinition?, bind_eq_ok] at h
  obtain ⟨_, -, _, -, _, -, _, -, _, -, _, -, _, -, _, -, _, -, _, -, _, -, _, -, _, -, h⟩ := h
  rw [eq_of_checked? h, name_settleEntity]

end View

namespace Registry

variable {r : Registry} {strict : Bool} {document : Node} {views : List View}

/-! ### Documents -/

/-- The views that a document defines: one for each entry, in order, under the name
that its key gives. -/
def Defines : Node → List View → Prop
  | .null, views => views = []
  | .mapping entries, views =>
    List.Forall₂ (fun entry v => viewName? entry.1 = .ok v.name ∧
      View.ofNode? v.name entry.2 = .ok v) entries views
  | _, _ => False

/-- The names of views that may stand behind a registry: new to it, and distinct. -/
structure Fresh (r : Registry) (views : List View) : Prop where
  new : ∀ v ∈ views, r.contains v.name = false
  distinct : (View.names views).Nodup

/-- What reading entries adds to the views read before: a view for each entry, and no
name twice. -/
theorem defines_of_readEntries? {read : List View} {entries : List (Node × Node)}
    (fresh : r.Fresh read) (h : r.readEntries? read entries = .ok views) :
    ∃ more, views = read ++ more ∧ Defines (.mapping entries) more ∧ r.Fresh views := by
  induction entries generalizing read with
  | nil =>
    obtain rfl := Except.ok.inj h
    exact ⟨[], (List.append_nil _).symm, .nil, fresh⟩
  | cons entry rest ih =>
    obtain ⟨key, definition⟩ := entry
    obtain ⟨name, named, h⟩ := bind_eq_ok.mp h
    dsimp only at h
    split at h
    · exact nomatch h
    next unknown =>
    obtain ⟨v, defined, onward⟩ := bind_eq_ok.mp h
    obtain rfl : v.name = name := View.name_of_ofNode? defined
    simp only [Bool.or_eq_true, not_or, Bool.not_eq_true] at unknown
    have fresh' : r.Fresh (read ++ [v]) := by
      refine ⟨fun w mem => ?_, ?_⟩
      · rcases List.mem_append.mp mem with old | last
        · exact fresh.new w old
        · rw [List.mem_singleton.mp last]
          exact unknown.1
      · rw [View.names, List.map_append, List.nodup_append]
        refine ⟨fresh.distinct, by simp, fun a old b last => ?_⟩
        obtain ⟨w, mem, rfl⟩ := List.mem_map.mp old
        rw [List.map_singleton, List.mem_singleton] at last
        have differs := List.any_eq_false.mp unknown.2 w mem
        rw [last]
        simpa using differs
    obtain ⟨more, rfl, defines, fresh''⟩ := ih fresh' onward
    exact ⟨v :: more, by simp, .cons ⟨named, defined⟩ defines, fresh''⟩

/-- **What a document adds**: the views it defines, under new and distinct names. -/
theorem defines_of_readDocument? (h : r.readDocument? document = .ok views) :
    Defines document views ∧ r.Fresh views := by
  have none_fresh : r.Fresh [] := ⟨by simp, by simp [View.names]⟩
  unfold readDocument? at h
  split at h
  · obtain rfl := Except.ok.inj h
    exact ⟨rfl, none_fresh⟩
  · obtain ⟨more, rfl, defines, fresh⟩ := defines_of_readEntries? none_fresh h
    exact ⟨defines, fresh⟩
  · exact nomatch h

/-- New views pass every check of their document, or the document holds nothing. -/
theorem checked_of_newViews? (h : r.newViews? strict document = .ok views) :
    (document = .null ∧ views = []) ∨
      r.readDocument? document = .ok views ∧
        (strict = true → r.checkReferences views = .ok ()) ∧ r.checkNewCycles views = .ok () := by
  unfold newViews? at h
  split at h
  · exact .inl ⟨rfl, (Except.ok.inj h).symm⟩
  obtain ⟨views', read, h⟩ := bind_eq_ok.mp h
  cases strict with
  | false =>
    obtain ⟨_, acyclic, h⟩ := bind_eq_ok.mp h
    obtain rfl := Except.ok.inj h
    exact .inr ⟨read, nofun, acyclic⟩
  | true =>
    obtain ⟨_, closed, h⟩ := bind_eq_ok.mp h
    obtain ⟨_, acyclic, h⟩ := bind_eq_ok.mp h
    obtain rfl := Except.ok.inj h
    exact .inr ⟨read, fun _ => closed, acyclic⟩

theorem defines_of_newViews? (h : r.newViews? strict document = .ok views) :
    Defines document views ∧ r.Fresh views := by
  rcases checked_of_newViews? h with ⟨rfl, rfl⟩ | ⟨read, -⟩
  · exact ⟨rfl, by simp, by simp [View.names]⟩
  · exact defines_of_readDocument? read

/-! ### Adding views -/

omit [PatternEngine] in
/-- Views of fresh names are all added, in order. -/
theorem registerAll_of_fresh (fresh : r.Fresh views) :
    (registerAll views r).1 = .ok () ∧ (registerAll views r).2.views = r.views ++ views := by
  induction views generalizing r with
  | nil => exact ⟨rfl, (List.append_nil _).symm⟩
  | cons v rest ih =>
    have new : r.contains v.name = false := fresh.new v List.mem_cons_self
    obtain ⟨apart, distinct⟩ := List.nodup_cons.mp fresh.distinct
    have added : r.register v = .ok ⟨r.views ++ [v], distinct_append new⟩ := dif_pos new
    have fresh' : Fresh ⟨r.views ++ [v], distinct_append new⟩ rest := by
      refine ⟨fun w mem => ?_, distinct⟩
      have old := fresh.new w (List.mem_cons_of_mem _ mem)
      have differs : v.name ≠ w.name := fun same => apart (same ▸ List.mem_map_of_mem mem)
      simp only [contains, List.any_append, List.any_cons, List.any_nil, Bool.or_false,
        Bool.or_eq_false_iff, beq_eq_false_iff_ne]
      exact ⟨old, differs⟩
    obtain ⟨done, after⟩ := ih fresh'
    rw [registerAll, added]
    exact ⟨done, by rw [after, List.append_assoc, List.singleton_append]⟩

/-- A refused document leaves the registry as it was. -/
theorem load_rolls_back {e : ViewError} (h : (loadInto strict document r).1 = .error e) :
    (loadInto strict document r).2 = r := by
  unfold loadInto at h ⊢
  cases added : r.newViews? strict document with
  | error e => rfl
  | ok views =>
    have done := (registerAll_of_fresh (defines_of_newViews? added).2).1
    rw [added] at h
    cases registered : registerAll views r with
    | mk result r' =>
      rw [registered] at done
      subst done
      simp [registered] at h

/-- A document that is not refused adds its views behind those that were there. -/
theorem load_appends (h : (loadInto strict document r).1 = .ok views) :
    r.newViews? strict document = .ok views ∧
      (loadInto strict document r).2.views = r.views ++ views := by
  unfold loadInto at h ⊢
  cases added : r.newViews? strict document with
  | error e =>
    rw [added] at h
    exact nomatch h
  | ok new =>
    obtain ⟨done, after⟩ := registerAll_of_fresh (defines_of_newViews? added).2
    rw [added] at h
    cases registered : registerAll new r with
    | mk result r' =>
      rw [registered] at done after
      subst done
      simp only [registered, Except.ok.injEq] at h
      subst h
      exact ⟨rfl, by simpa [registered] using after⟩

/-! ### Invariants of loading -/

/-- No registered view refers to itself, directly or through others. -/
def Acyclic (r : Registry) : Prop :=
  (referencesOf r.views).Acyclic

/-- Every reference of a registered view is to a registered view. -/
def Closed (r : Registry) : Prop :=
  ∀ v ∈ r.views, ∀ name ∈ v.references, r.contains name = true

omit [PatternEngine] in
theorem keys_referencesOf (views : List View) : Keyed.keys (referencesOf views) = View.names views := by
  rw [Keyed.keys, referencesOf, List.map_map]
  rfl

omit [PatternEngine] in
theorem isEmpty_cycleMembers_iff (distinct : (View.names views).Nodup) :
    (referencesOf views).cycleMembers.isEmpty = true ↔ (referencesOf views).Acyclic := by
  rw [List.isEmpty_iff, ReferenceGraph.cycleMembers_eq_nil_iff]
  rwa [keys_referencesOf]

omit [PatternEngine] in
/-- The check of a registry passes when its references form no circle. -/
theorem checkCycles_eq_ok_iff : r.checkCycles = .ok () ↔ r.Acyclic := by
  rw [Acyclic, ← isEmpty_cycleMembers_iff r.distinct, checkCycles, cycleMembers]
  split
  · next closed => exact iff_of_true rfl closed
  · next circle => exact iff_of_false nofun circle

omit [PatternEngine] in
/-- New views pass the check when they form no circle with the views already there. -/
theorem checkNewCycles_eq_ok_iff (distinct : (View.names (r.views ++ views)).Nodup) :
    r.checkNewCycles views = .ok () ↔ (referencesOf (r.views ++ views)).Acyclic := by
  rw [← isEmpty_cycleMembers_iff distinct, checkNewCycles]
  split
  · next closed => exact iff_of_true rfl closed
  · next circle => exact iff_of_false nofun circle

/-- **Loading keeps references acyclic**: the check reads old and new views together. -/
theorem Acyclic.load (h : r.Acyclic) : (loadInto strict document r).2.Acyclic := by
  cases result : (loadInto strict document r).1 with
  | error e =>
    rw [load_rolls_back result]
    exact h
  | ok views =>
    obtain ⟨added, after⟩ := load_appends result
    have distinct := (loadInto strict document r).2.distinct
    rw [Acyclic, after]
    rw [after] at distinct
    rcases checked_of_newViews? added with ⟨-, rfl⟩ | ⟨-, -, acyclic⟩
    · rw [List.append_nil]
      exact h
    · exact (checkNewCycles_eq_ok_iff distinct).mp acyclic

omit [PatternEngine] in
/-- Views that pass the check of references refer to old views or to each other. -/
theorem known_of_checkReferences (h : r.checkReferences views = .ok ()) {v : View} (mem : v ∈ views)
    {name : String} (refers : name ∈ v.references) : name ∈ r.names ++ View.names views := by
  unfold checkReferences at h
  split at h
  · exact nomatch h
  next all =>
  have known := List.findSome?_eq_none_iff.mp all v mem
  rw [unknownReference?, Option.map_eq_none_iff, List.find?_eq_none] at known
  exact List.contains_iff_mem.mp (by simpa only [Bool.not_eq_true, Bool.not_eq_false'] using known name refers)

/-- **A strict load leaves no reference open.** -/
theorem Closed.load (h : r.Closed) : (loadInto true document r).2.Closed := by
  cases result : (loadInto true document r).1 with
  | error e =>
    rw [load_rolls_back result]
    exact h
  | ok views =>
    obtain ⟨added, after⟩ := load_appends result
    intro v mem name refers
    rw [contains_iff, names, after, View.names, List.map_append]
    rw [after] at mem
    rcases List.mem_append.mp mem with old | new
    · exact List.mem_append_left _ (contains_iff.mp (h v old name refers))
    · rcases checked_of_newViews? added with ⟨-, rfl⟩ | ⟨-, closed, -⟩
      · cases new
      · exact known_of_checkReferences (closed rfl) new refers

/-! ### Loads in sequence -/

/-- A document to load, and whether references to unknown views are refused. -/
structure LoadCall where
  strict : Bool
  document : Node

/-- The registry after loads one after another; a refused document is passed over. -/
def loadAll (calls : List LoadCall) (r : Registry) : Registry :=
  calls.foldl (fun r call => (loadInto call.strict call.document r).2) r

omit [PatternEngine] in
theorem acyclic_empty : Acyclic empty := by
  intro name cycle
  obtain ⟨_, ⟨_, mem, _⟩, _⟩ := Relation.TransGen.head'_iff.mp cycle
  exact nomatch mem

theorem acyclic_loadAll (h : r.Acyclic) (calls : List LoadCall) : (loadAll calls r).Acyclic := by
  induction calls generalizing r with
  | nil => exact h
  | cons call calls ih => exact ih h.load

theorem closed_loadAll (h : r.Closed) {calls : List LoadCall}
    (strict : ∀ call ∈ calls, call.strict = true) : (loadAll calls r).Closed := by
  induction calls generalizing r with
  | nil => exact h
  | cons call calls ih =>
    have first : (loadInto call.strict call.document r).2.Closed := by
      rw [strict call List.mem_cons_self]
      exact h.load
    exact ih first fun later mem => strict later (List.mem_cons_of_mem _ mem)

end Registry

end BookmarkViews
