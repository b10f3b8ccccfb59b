import BookmarkViews.Pattern.Standard
import BookmarkViews.Proofs.Run.Loaded
import Mathlib

/-!
Loading documents in any order.

A document that is not loaded strictly is taken when its definitions read by themselves,
their names are new, and no circle of references arises (`load_eq_ok_iff`). So whether a
list of documents is taken does not depend on where a circle closes or a name comes again:
all of its documents are taken when together they are `Loadable`
(`loadDocuments_empty_iff`), and that does not depend on their order (`Loadable.perm`).
-/

namespace BookmarkViews.Registry

variable {r r' : Registry} {document : Node} {documents documents' : List Node}
  {blocks : List (List View)} {views : List View}

section

variable [PatternEngine]

/-- Load documents one after another, up to the first that is refused; references to views
that are not known yet stay open. -/
def loadDocuments (r : Registry) (documents : List Node) : Except ViewError Registry :=
  documents.foldlM (fun r document => (r.load false document).map (·.2)) r

/-! ### One document -/

omit [PatternEngine] in
theorem eq_of_views (h : r.views = r'.views) : r = r' := by
  cases r
  cases r'
  cases h
  rfl

omit [PatternEngine] in
/-- New names are those that can stand behind the registered ones. -/
theorem fresh_iff : r.Fresh views ↔ (View.names (r.views ++ views)).Nodup := by
  rw [View.names, List.map_append, List.nodup_append]
  constructor
  · intro fresh
    refine ⟨r.distinct, fresh.distinct, fun a old b new same => ?_⟩
    obtain ⟨v, mem, rfl⟩ := List.mem_map.mp new
    have unknown := fresh.new v mem
    rw [contains_iff.mpr (same ▸ old)] at unknown
    exact nomatch unknown
  · rintro ⟨-, distinct, apart⟩
    refine ⟨fun v mem => Bool.eq_false_iff.mpr fun known => ?_, distinct⟩
    exact apart v.name (contains_iff.mp known) v.name (List.mem_map_of_mem mem) rfl

/-- Definitions that read by themselves are read together when their names are new. -/
theorem readEntries?_of_defines {read more : List View} {entries : List (Node × Node)}
    (defines : Defines (.mapping entries) more) (fresh : r.Fresh (read ++ more)) :
    r.readEntries? read entries = .ok (read ++ more) := by
  induction entries generalizing read more with
  | nil =>
    obtain rfl := List.forall₂_nil_left_iff.mp defines
    rw [List.append_nil]
    rfl
  | cons entry rest ih =>
    obtain ⟨v, later, ⟨named, defined⟩, onward, rfl⟩ := List.forall₂_cons_left_iff.mp defines
    obtain ⟨key, definition⟩ := entry
    have unknown : r.contains v.name = false := fresh.new v (by simp)
    have unread : read.any (·.name == v.name) = false := by
      have distinct := fresh.distinct
      rw [View.names, List.map_append, List.nodup_append] at distinct
      refine List.any_eq_false.mpr fun w mem => ?_
      simpa using distinct.2.2 w.name (List.mem_map_of_mem mem) v.name (by simp)
    have fresh_on : r.Fresh (read ++ [v] ++ later) := by rwa [List.append_assoc]
    have read_on := ih onward fresh_on
    rw [List.append_assoc] at read_on
    refine bind_eq_ok.mpr ⟨v.name, named, ?_⟩
    dsimp only
    rw [unknown, unread]
    exact bind_eq_ok.mpr ⟨v, defined, read_on⟩

/-- **When the views of a document may be added** to a registry without circles. -/
theorem newViews?_eq_ok_iff (acyclic : r.Acyclic) :
    r.newViews? false document = .ok views ↔
      Defines document views ∧ r.Fresh views ∧ (referencesOf (r.views ++ views)).Acyclic := by
  have search (fresh : r.Fresh views) :
      r.checkNewCycles views = .ok () ↔ (referencesOf (r.views ++ views)).Acyclic :=
    checkNewCycles_eq_ok_iff (fresh_iff.mp fresh)
  constructor
  · intro h
    obtain ⟨defines, fresh⟩ := defines_of_newViews? h
    refine ⟨defines, fresh, ?_⟩
    rcases checked_of_newViews? h with ⟨-, rfl⟩ | ⟨-, -, checked⟩
    · rwa [List.append_nil]
    · exact (search fresh).mp checked
  · rintro ⟨defines, fresh, apart⟩
    cases document with
    | null =>
      obtain rfl : views = [] := defines
      rfl
    | mapping entries =>
      have read : r.readEntries? [] entries = .ok ([] ++ views) :=
        readEntries?_of_defines defines fresh
      exact bind_eq_ok.mpr ⟨views, read, bind_eq_ok.mpr ⟨(), (search fresh).mpr apart, rfl⟩⟩
    | bool _ | number _ | text _ | sequence _ | tagged _ _ => exact defines.elim

/-- **When a document is taken**, and what the registry is then: the views that it defines
stand behind the others, and references form no circle. -/
theorem load_eq_ok_iff (acyclic : r.Acyclic) :
    (r.load false document).map (·.2) = .ok r' ↔
      ∃ views, Defines document views ∧ r'.views = r.views ++ views ∧ r'.Acyclic := by
  rw [map_eq_ok_iff]
  constructor
  · rintro ⟨_, loaded, rfl⟩
    unfold load at loaded
    split at loaded
    · next views _ taken =>
      obtain rfl := Except.ok.inj loaded
      obtain ⟨added, after⟩ := load_appends (congrArg Prod.fst taken)
      rw [taken] at after
      obtain ⟨defines, -, apart⟩ := (newViews?_eq_ok_iff acyclic).mp added
      exact ⟨views, defines, after, by rwa [Acyclic, after]⟩
    · cases loaded
  · rintro ⟨views, defines, after, apart⟩
    have fresh : r.Fresh views := fresh_iff.mpr (after ▸ r'.distinct)
    rw [Acyclic, after] at apart
    have added := (newViews?_eq_ok_iff acyclic).mpr ⟨defines, fresh, apart⟩
    obtain ⟨done, stand⟩ := registerAll_of_fresh fresh
    refine ⟨(views, r'), ?_, rfl⟩
    cases registered : registerAll views r with
    | mk result r'' =>
      rw [registered] at done stand
      obtain rfl : r'' = r' := eq_of_views (stand.trans after.symm)
      subst done
      rw [load, loadInto, added]
      dsimp only
      rw [registered]

/-! ### Documents one after another -/

/-- **When all documents are taken**, and what the registry is then. -/
theorem loadDocuments_eq_ok_iff (acyclic : r.Acyclic) :
    r.loadDocuments documents = .ok r' ↔
      ∃ blocks, List.Forall₂ Defines documents blocks ∧
        r'.views = r.views ++ blocks.flatten ∧ r'.Acyclic := by
  induction documents generalizing r with
  | nil =>
    constructor
    · intro h
      obtain rfl := Except.ok.inj h
      exact ⟨[], .nil, by simp, acyclic⟩
    · rintro ⟨blocks, defines, after, -⟩
      obtain rfl := List.forall₂_nil_left_iff.mp defines
      obtain rfl : r' = r := eq_of_views (by simpa using after)
      rfl
  | cons document rest ih =>
    rw [loadDocuments, List.foldlM_cons, bind_eq_ok]
    constructor
    · rintro ⟨between, first, onward⟩
      obtain ⟨views, defines, after, apart⟩ := (load_eq_ok_iff acyclic).mp first
      obtain ⟨blocks, later, final, whole⟩ := (ih apart).mp onward
      exact ⟨views :: blocks, .cons defines later, by rw [final, after]; simp, whole⟩
    · rintro ⟨blocks, defines, final, whole⟩
      obtain ⟨views, later, first, onward, rfl⟩ := List.forall₂_cons_left_iff.mp defines
      rw [List.flatten_cons, ← List.append_assoc] at final
      -- The registry between the two steps holds the first views of the last one.
      have front : (r.views ++ views).Sublist r'.views := final ▸ List.sublist_append_left _ _
      let between : Registry := ⟨r.views ++ views, r'.distinct.sublist (front.map _)⟩
      have apart : between.Acyclic := whole.mono (front.map _).subset
      exact ⟨between, (load_eq_ok_iff acyclic).mpr ⟨views, first, rfl, apart⟩,
        (ih apart).mpr ⟨later, onward, final, whole⟩⟩

/-- Documents that can be loaded together, with the views of each: every definition reads
by itself, no two have one name, and their references form no circle. -/
structure Loadable (documents : List Node) (blocks : List (List View)) : Prop where
  defines : List.Forall₂ Defines documents blocks
  distinct : (View.names blocks.flatten).Nodup
  acyclic : (referencesOf blocks.flatten).Acyclic

/-- The registry of all views of the documents. -/
def Loadable.registry (h : Loadable documents blocks) : Registry :=
  ⟨blocks.flatten, h.distinct⟩

theorem loadDocuments_empty_eq_ok_iff :
    empty.loadDocuments documents = .ok r ↔
      ∃ blocks, ∃ h : Loadable documents blocks, r = h.registry := by
  rw [loadDocuments_eq_ok_iff acyclic_empty]
  constructor
  · rintro ⟨blocks, defines, after, apart⟩
    have after : r.views = blocks.flatten := after
    have loadable : Loadable documents blocks :=
      ⟨defines, after ▸ r.distinct, by rwa [Acyclic, after] at apart⟩
    exact ⟨blocks, loadable, eq_of_views after⟩
  · rintro ⟨blocks, loadable, rfl⟩
    exact ⟨blocks, loadable.defines, rfl, loadable.acyclic⟩

/-- **Documents are taken when they can be loaded together.** -/
theorem loadDocuments_empty_iff :
    (∃ r, empty.loadDocuments documents = .ok r) ↔ ∃ blocks, Loadable documents blocks := by
  constructor
  · rintro ⟨r, loaded⟩
    obtain ⟨blocks, loadable, -⟩ := loadDocuments_empty_eq_ok_iff.mp loaded
    exact ⟨blocks, loadable⟩
  · rintro ⟨blocks, loadable⟩
    exact ⟨loadable.registry, loadDocuments_empty_eq_ok_iff.mpr ⟨blocks, loadable, rfl⟩⟩

/-! ### Any order -/

/-- **Whether documents can be loaded together does not depend on their order.** -/
theorem Loadable.perm (h : Loadable documents blocks) (same : documents.Perm documents') :
    ∃ blocks', Loadable documents' blocks' ∧ blocks'.flatten.Perm blocks.flatten := by
  obtain ⟨blocks', defines, moved⟩ := List.perm_comp_forall₂ same.symm h.defines
  have views : blocks'.flatten.Perm blocks.flatten := moved.flatten
  have names : (View.names blocks'.flatten).Perm (View.names blocks.flatten) := views.map _
  exact ⟨blocks', ⟨defines, names.nodup_iff.mpr h.distinct,
    h.acyclic.mono (views.map _).subset⟩, views⟩

omit [PatternEngine] in
/-- Registries with the same views find the same under every name. -/
theorem find?_of_perm (same : r.views.Perm r'.views) (name : String) :
    r.find? name = r'.find? name := by
  have found {r r' : Registry} (same : r.views.Perm r'.views) {v : View}
      (h : r.find? name = some v) : r'.find? name = some v := by
    rw [← name_of_find? h]
    exact find?_of_mem (same.subset (mem_of_find? h))
  exact Option.ext fun v => ⟨found same, found same.symm⟩

/-- **The order of documents does not matter.** Documents are all taken in one order when
they are in another, and then every name stands for the same view. They are taken exactly
when every definition reads by itself, no two have one name, and their references form no
circle. -/
theorem load_in_any_order (same : documents.Perm documents') :
    ((∃ r, empty.loadDocuments documents = .ok r) ↔
        ∃ r, empty.loadDocuments documents' = .ok r) ∧
      (∀ r r', empty.loadDocuments documents = .ok r → empty.loadDocuments documents' = .ok r' →
        ∀ name, r.find? name = r'.find? name) ∧
      ((∃ r, empty.loadDocuments documents = .ok r) ↔ ∃ blocks, Loadable documents blocks) := by
  refine ⟨?_, fun r r' loaded loaded' name => ?_, loadDocuments_empty_iff⟩
  · rw [loadDocuments_empty_iff, loadDocuments_empty_iff]
    constructor
    · rintro ⟨blocks, loadable⟩
      exact (loadable.perm same).imp fun _ h => h.1
    · rintro ⟨blocks, loadable⟩
      exact (loadable.perm same.symm).imp fun _ h => h.1
  · obtain ⟨blocks, loadable, rfl⟩ := loadDocuments_empty_eq_ok_iff.mp loaded
    obtain ⟨blocks', loadable', views⟩ := loadable.perm same
    have other := loadDocuments_empty_eq_ok_iff.mpr ⟨blocks', loadable', rfl⟩
    obtain rfl := Except.ok.inj (loaded'.symm.trans other)
    exact find?_of_perm views.symm name

end

/-- A view over one that another document defines. -/
def overDocument : Node :=
  .mapping [(.text "over", .mapping [(.text "from", .text "below")])]

/-- The view below, its name between blanks. -/
def belowDocument : Node :=
  .mapping [(.text " below ", .null)]

open StandardPatterns

/-- A document may come before the one that it refers to, or after it. -/
theorem load_in_any_order_forward :
    [overDocument, belowDocument].Perm [belowDocument, overDocument] ∧
      ∃ r r', empty.loadDocuments [overDocument, belowDocument] = .ok r ∧
        empty.loadDocuments [belowDocument, overDocument] = .ok r' ∧
        r.names = ["over", "below"] ∧ r'.names = ["below", "over"] ∧
        ∀ name, r.find? name = r'.find? name := by
  have forward : (empty.loadDocuments [overDocument, belowDocument]).map names =
      .ok ["over", "below"] := by cbv
  have backward : (empty.loadDocuments [belowDocument, overDocument]).map names =
      .ok ["below", "over"] := by cbv
  obtain ⟨r, loaded, named⟩ := map_eq_ok_iff.mp forward
  obtain ⟨r', loaded', named'⟩ := map_eq_ok_iff.mp backward
  have swapped : [overDocument, belowDocument].Perm [belowDocument, overDocument] := .swap _ _ _
  exact ⟨swapped, r, r', loaded, loaded', named, named',
    (load_in_any_order swapped).2.1 r r' loaded loaded'⟩

end BookmarkViews.Registry
