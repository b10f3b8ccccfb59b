import BookmarkViews.Pattern.Standard
import BookmarkViews.Proofs.Param.Coercion
import BookmarkViews.Proofs.Param.Filling
import BookmarkViews.Run.Prepare

/-!
The parameters of a view once they are bound, and its templates filled in with them.

* `View.bindParams?_eq_ok_iff`: binding, parameter by parameter;
* `View.checkAllSlots_eq_ok_iff`: the slots of a checked view name its parameters;
* `View.templates_filled`: every template of a checked view can be filled in.
-/

namespace BookmarkViews.View

/-! ### Binding -/

section Binding

variable {view : String} {supplied bound : Params} {declared : List (String × ParamSpec)}

/-- An entry binds a parameter: it has its name, and the value supplied for it or else its
default, coerced as declared. -/
def Binds (supplied : Params) (param : String × ParamSpec) (entry : String × Value) : Prop :=
  entry.1 = param.1 ∧
    ∃ v, (Keyed.get? supplied param.1).or param.2.default = some v ∧
      param.2.coerce? v = .ok entry.2

/-- Parameters are bound one by one, in the order of their declarations. -/
theorem bindParams?_eq_ok_iff :
    bindParams? view supplied declared = .ok bound ↔
      List.Forall₂ (Binds supplied) declared bound := by
  induction declared generalizing bound with
  | nil =>
    rw [bindParams?, List.forall₂_nil_left_iff, Except.ok.injEq, eq_comm]
  | cons param rest ih =>
    obtain ⟨name, spec⟩ := param
    rw [bindParams?, List.forall₂_cons_left_iff]
    constructor
    · intro h
      split at h
      · exact nomatch h
      · next v found =>
        split at h
        · exact nomatch h
        · next w coerced =>
          obtain ⟨later, binds, h⟩ := bind_eq_ok.mp h
          obtain rfl := Except.ok.inj h
          exact ⟨(name, w), later, ⟨rfl, v, found, coerced⟩, ih.mp binds, rfl⟩
    · rintro ⟨⟨_, w⟩, later, ⟨rfl, v, found, coerced⟩, binds, rfl⟩
      simp only [found, coerced]
      exact bind_eq_ok.mpr ⟨later, ih.mpr binds, rfl⟩

/-- The bound names are the declared ones. -/
theorem keys_of_binds (binds : List.Forall₂ (Binds supplied) declared bound) :
    Keyed.keys bound = Keyed.keys declared := by
  induction binds with
  | nil => rfl
  | cons first _ ih => exact congrArg₂ List.cons first.1 ih

/-- Bound parameters bind as what they are. -/
theorem binds_bound (distinct : (Keyed.keys declared).Nodup)
    (binds : List.Forall₂ (Binds supplied) declared bound) :
    List.Forall₂ (Binds bound) declared bound := by
  have apart : (Keyed.keys bound).Nodup := by rwa [keys_of_binds binds]
  rw [List.forall₂_iff_zip] at binds ⊢
  refine ⟨binds.1, fun {param entry} paired => ?_⟩
  obtain ⟨named, v, -, coerced⟩ := binds.2 paired
  have found : Keyed.get? bound param.1 = some entry.2 := by
    rw [← named]
    exact Keyed.get?_of_mem apart (List.of_mem_zip paired).2
  exact ⟨named, entry.2, by rw [found, Option.some_or], ParamSpec.coerce?_of_coerce? coerced⟩

end Binding

/-! ### Declared slots -/

section

variable [PatternEngine]

section Declared

variable {view : String} {declared : List String}

omit [PatternEngine] in
theorem checkDeclared_eq_ok_iff {names : List String} :
    checkDeclared view declared names = .ok () ↔ ∀ name ∈ names, name ∈ declared := by
  induction names with
  | nil => simp [checkDeclared]
  | cons name rest ih =>
    rw [checkDeclared, List.forall_mem_cons, ← ih, ← List.contains_iff_mem]
    split
    · next known => exact (and_iff_right known).symm
    · next unknown => exact iff_of_false nofun fun both => unknown both.1

theorem checkSlots_eq_ok_iff {r : Requirement} :
    checkSlots view declared r = .ok () ↔
      ∀ n, r.draft = .template n → SlotsAmong declared n.slotNames? := by
  unfold checkSlots
  split
  · next ready => simp [ready]
  · next n template =>
    rw [template, Node.parameters?]
    cases slots : n.slotNames? with
    | error fault => simp [SlotsAmong, slots, Except.map]
    | ok names => simp [SlotsAmong, slots, Except.map, checkDeclared_eq_ok_iff]

theorem checkAllSlots_eq_ok_iff {requirements : List Requirement} :
    checkAllSlots view declared requirements = .ok () ↔
      ∀ r ∈ requirements, ∀ n, r.draft = .template n → SlotsAmong declared n.slotNames? := by
  induction requirements with
  | nil => simp [checkAllSlots]
  | cons r rest ih =>
    have first : checkSlots view declared r = .ok () ↔ _ := checkSlots_eq_ok_iff
    rw [checkAllSlots, List.forall_mem_cons, ← ih, ← first]
    split
    · next failed => simp [failed]
    · next passed => simp [passed]

/-- The slots of a checked view name its parameters. -/
theorem slotsAmong_of_check {v : View} (checked : v.check = .ok ()) :
    ∀ r ∈ v.requirements, ∀ n, r.draft = .template n →
      SlotsAmong (Keyed.keys v.params) n.slotNames? := by
  obtain ⟨-, -, checked⟩ := bind_eq_ok.mp checked
  obtain ⟨-, -, checked⟩ := bind_eq_ok.mp checked
  obtain ⟨-, -, checked⟩ := bind_eq_ok.mp checked
  obtain ⟨-, -, checked⟩ := bind_eq_ok.mp checked
  exact checkAllSlots_eq_ok_iff.mp checked

end Declared

/-! ### Templates of checked views -/

variable {v : View} {supplied bound : Params}

/-- A template of a checked view is filled in with the bound parameters. -/
theorem exists_filled (checked : v.check = .ok ())
    (binds : bindParams? v.name supplied v.params = .ok bound) {r : Requirement}
    (mem : r ∈ v.requirements) {n : Node} (template : r.draft = .template n) :
    ∃ filled, n.fill? bound = .ok filled := by
  apply n.exists_fill?_iff.mpr
  rw [keys_of_binds (bindParams?_eq_ok_iff.mp binds)]
  exact slotsAmong_of_check checked r mem n template

/-- A filled template is read as what it was filled to. -/
theorem resolve?_of_fill? {params : Params} {n filled : Node} (h : n.fill? params = .ok filled) :
    (Draft.template n).resolve? params = Condition.ofNode? filled := by
  rw [Draft.resolve?, h]

/-- **The templates of a checked view are filled in** whenever its parameters are bound, so a
condition fails only where the filled text cannot be read. The bound parameters are the
declared ones in their order; the declared names being distinct, they are bound to themselves
when they are supplied in their turn. -/
theorem templates_filled (checked : v.check = .ok ())
    (binds : bindParams? v.name supplied v.params = .ok bound) :
    (∀ r ∈ v.requirements, ∀ n, r.draft = .template n →
        ∃ filled, n.fill? bound = .ok filled ∧
          r.draft.resolve? bound = Condition.ofNode? filled) ∧
      (∀ r ∈ v.requirements, ∀ m, r.draft.resolve? bound = .error m →
        ∃ n filled, r.draft = .template n ∧ n.fill? bound = .ok filled ∧
          Condition.ofNode? filled = .error m) ∧
      Keyed.keys bound = Keyed.keys v.params ∧
      ((Keyed.keys v.params).Nodup → bindParams? v.name bound v.params = .ok bound) ∧
      ∀ (spec : ParamSpec) (x y : Value), spec.coerce? x = .ok y → spec.coerce? y = .ok y := by
  have bindings := bindParams?_eq_ok_iff.mp binds
  have fills : ∀ r ∈ v.requirements, ∀ n, r.draft = .template n →
      ∃ filled, n.fill? bound = .ok filled ∧
        r.draft.resolve? bound = Condition.ofNode? filled := by
    intro r mem n template
    obtain ⟨filled, fills⟩ := exists_filled checked binds mem template
    exact ⟨filled, fills, by rw [template, resolve?_of_fill? fills]⟩
  refine ⟨fills, ?_, keys_of_binds bindings, ?_, fun spec x y => ParamSpec.coerce?_of_coerce?⟩
  · intro r mem m failed
    cases draft : r.draft with
    | ready c =>
      rw [draft] at failed
      exact nomatch failed
    | template n =>
      obtain ⟨filled, filledTo, read⟩ := fills r mem n draft
      exact ⟨n, filled, rfl, filledTo, by rw [← read, failed]⟩
  · intro distinct
    exact bindParams?_eq_ok_iff.mpr (binds_bound distinct bindings)

end

/-- A view whose filter and exclusion have slots at every depth. -/
def taggedSince : View where
  name := "tagged since"
  entity := some .bookmark
  filters := [⟨⟨"tags", []⟩, .template (.mapping [(.text "and", .sequence
    [.text (Template.slotText "tags"), .tagged "!only" (.mapping [(.text "not",
      .text (Template.slotText "tag" ++ ", " ++ Template.slotText "tags"))])])])⟩]
  exclude := [⟨⟨"added", []⟩,
    .template (.text ("before " ++ Template.slotText "days" ++ " days ago"))⟩]
  params := [("tags", .required .list), ("tag", .required .text),
    ("days", .withDefault (.ofInt 30))]

open StandardPatterns

/-- All its templates are filled in once the tags are supplied. -/
theorem templates_filled_nested :
    let bound := [("tags", .list [.text "b", .text "c"]), ("tag", .text "a"), ("days", .ofInt 30)]
    taggedSince.check = .ok () ∧
      bindParams? taggedSince.name [("tag", .text "a"), ("tags", .text "b, c")]
        taggedSince.params = .ok bound ∧
      (∀ r ∈ taggedSince.requirements, ∀ n, r.draft = .template n →
        ∃ filled, n.fill? bound = .ok filled ∧
          r.draft.resolve? bound = Condition.ofNode? filled) ∧
      bindParams? taggedSince.name bound taggedSince.params = .ok bound := by
  have checked : taggedSince.check = .ok () := by decide +kernel
  have distinct : (Keyed.keys taggedSince.params).Nodup := by decide
  have binds : bindParams? taggedSince.name [("tag", .text "a"), ("tags", .text "b, c")]
      taggedSince.params =
        .ok [("tags", .list [.text "b", .text "c"]), ("tag", .text "a"), ("days", .ofInt 30)] := by
    decide +kernel
  obtain ⟨fills, -, -, rebinds, -⟩ := templates_filled checked binds
  exact ⟨checked, binds, fills, rebinds distinct⟩

end BookmarkViews.View
