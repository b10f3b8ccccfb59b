import BookmarkViews.Pattern.Standard
import BookmarkViews.Proofs.Run.DependencyOrder
import BookmarkViews.Proofs.Run.Loaded
import BookmarkViews.Run.Validation
import Mathlib

/-!
What the check of loaded views promises about running them.

The check prepares every view without parameters and forgives a missing one. A
preparation is depth first, so the forgiven failure may be that of a view below, and
then the columns of the view itself are never looked at (`Registry.StopsBelow`).
`Registry.execute_of_validated` says that this is the only way past the check, and
`Registry.validated_hides_field` that it is one.
-/

namespace BookmarkViews

open Relation

variable {r : Registry} {supplied : Params} {v w : View} {e : QueryError}

section

variable [PatternEngine]

/-- Explaining a query fails as preparing it does. -/
theorem explain_eq_error_iff {ctx : RunContext} :
    explain ctx r supplied v = .error e ↔ r.prepare supplied v = .error e := by
  constructor
  · intro h
    rcases bind_eq_error.mp h with h | ⟨_, -, h⟩
    · exact h
    · exact nomatch h
  · intro h
    exact bind_eq_error.mpr (.inl h)

namespace View

omit [PatternEngine] in
/-- The checks of a view depend on the shapes of the views it refers to only. -/
theorem checkShape_congr {f g : String → Option Shape}
    (h : ∀ name ∈ v.references, f name = g name) : v.checkShape f = v.checkShape g := by
  rw [checkShape, checkShape, Shape.resolve_congr h]

/-- A view by itself fails for its columns when they do not fit, and only then. -/
theorem checkShape_of_prepareAlone {views : PreparedViews} (ofShape : e.isOfShape = true)
    (h : v.prepareAlone supplied views = .error e) :
    ∃ cause, v.checkShape views.shape? = .error cause := by
  rcases prepareAlone_error h with ⟨cause, unfit, -⟩ | ⟨_, unbound, rfl⟩ | ⟨_, _, rfl⟩
  · exact ⟨cause, unfit⟩
  · rcases bindParams?_fails unbound with ⟨_, _, -, -, rfl⟩ | ⟨_, _, rfl⟩ <;> exact nomatch ofShape
  · exact nomatch ofShape

/-- A view by itself misses a parameter that it declares without a default. -/
theorem required_of_prepareAlone {views : PreparedViews} {name param : String}
    (h : v.prepareAlone supplied views = .error (.run (.missingParam name param))) :
    name = v.name ∧ ∃ spec, (param, spec) ∈ v.params ∧ spec.default = none := by
  rcases prepareAlone_error h with ⟨_, unfit, same⟩ | ⟨_, unbound, same⟩ | ⟨_, _, same⟩
  · obtain rfl := QueryError.run.inj same
    exact nomatch checkShape_fails unfit
  · obtain rfl := QueryError.run.inj same
    rcases bindParams?_fails unbound with ⟨_, spec, mem, required, same⟩ | ⟨_, _, same⟩
    · obtain ⟨rfl, rfl⟩ := RunError.missingParam.inj same
      exact ⟨rfl, spec, mem, required⟩
    · exact nomatch same
  · exact nomatch same

end View

end

namespace Registry

section

variable [PatternEngine]

/-- A failure of a registered view that is not about references is that of one view by
itself: of the view, or of one below it. -/
theorem prepare_fails_alone (mem : v ∈ r.views) (other : e.isOfReferences = false)
    (h : r.prepare supplied v = .error e) :
    ∃ w ∈ r.views, ReflTransGen (referencesOf r.views).Refers v.name w.name ∧
      ∃ below, r.InOrder supplied below ∧ (∀ ref ∈ w.references, ref ∈ Keyed.keys below) ∧
        w.prepareAlone supplied below = .error e := by
  rcases bind_eq_error.mp h with h | ⟨below, prepared, h⟩
  · obtain ⟨w, registered, ⟨first, asked, way⟩, alone⟩ := prepareReferences_fails_alone .nil other h
    exact ⟨w, registered, .head (refers_of_mem mem asked) way, alone⟩
  · have grown := prepareReferences_grown .nil prepared
    rcases bind_eq_error.mp h with alone | ⟨_, -, h⟩
    · exact ⟨v, mem, .refl, below, grown.inOrder, grown.lists, alone⟩
    · exact nomatch h

/-! ### Registries without findings -/

/-- A registry without findings leaves no reference open. -/
theorem closed_of_findings (valid : r.findings = []) : r.Closed := by
  have none_open : r.unresolvedReferences = [] := (List.append_eq_nil_iff.mp valid).1
  intro v mem name refers
  have resolved := List.flatMap_eq_nil_iff.mp none_open v mem
  rw [List.map_eq_nil_iff, List.filter_eq_nil_iff] at resolved
  simpa using resolved name refers

/-- In a registry without findings a view fails without parameters only for one of
those. -/
theorem missingParam_of_findings (valid : r.findings = []) (mem : v ∈ r.views)
    (h : r.prepare [] v = .error e) : ∃ view param, e = .run (.missingParam view param) := by
  have silent : r.check? v = none :=
    List.filterMap_eq_nil_iff.mp (List.append_eq_nil_iff.mp valid).2 v mem
  have forgiven : e.isForgiven = true := by
    rw [check?, explain_eq_error_iff.mpr h] at silent
    by_contra refused
    simp [refused] at silent
  have failed : (execute .withoutRecords r [] v).result = .error e := result_execute_of_error h
  have found : e.isMissingView = false := (closed_of_findings valid).execute_ne_missing mem failed
  rcases e with cause | cause | _
  · exact nomatch forgiven
  · cases cause with
    | missingParam view param => exact ⟨view, param, rfl⟩
    | missingView view name => exact nomatch found
    | _ => exact nomatch forgiven
  · exact nomatch forgiven

/-- The check of a view stops at a required parameter of a view below, before it comes
to the columns of the view itself. -/
def StopsBelow (r : Registry) (w : View) : Prop :=
  ∃ u ∈ r.views, TransGen (referencesOf r.views).Refers w.name u.name ∧
    ∃ param spec, (param, spec) ∈ u.params ∧ spec.default = none ∧
      explain .withoutRecords r [] w = .error (.run (.missingParam u.name param))

/-- A view whose columns do not fit is found by the check, unless the check stops below
it: the shapes of the views it refers to are the same without parameters. -/
theorem stopsBelow_of_checkShape (valid : r.findings = []) (mem : w ∈ r.views)
    {below : PreparedViews} (inOrder : r.InOrder supplied below)
    (lists : ∀ ref ∈ w.references, ref ∈ Keyed.keys below) {cause : RunError}
    (unfit : w.checkShape below.shape? = .error cause) : r.StopsBelow w := by
  cases prepared : r.prepareReferences [] w.name [w.name] w.references [] with
  | ok views =>
    have grown := prepareReferences_grown .nil prepared
    have unfit' : w.checkShape views.shape? = .error cause := by
      rw [← unfit]
      apply View.checkShape_congr
      intro ref asked
      exact grown.inOrder.shape?_eq inOrder (grown.lists ref asked) (lists ref asked)
    have failed : r.prepare [] w = .error (.run cause) :=
      bind_eq_error.mpr (.inr ⟨views, prepared,
        bind_eq_error.mpr (.inl (View.prepareAlone_of_checkShape unfit' []))⟩)
    obtain ⟨_, _, same⟩ := missingParam_of_findings valid mem failed
    obtain rfl := QueryError.run.inj same
    exact nomatch View.checkShape_fails unfit
  | error e =>
    have failed : r.prepare [] w = .error e := bind_eq_error.mpr (.inl prepared)
    obtain ⟨view, param, rfl⟩ := missingParam_of_findings valid mem failed
    obtain ⟨u, registered, ⟨first, asked, way⟩, _, -, -, alone⟩ :=
      prepareReferences_fails_alone .nil rfl prepared
    obtain ⟨rfl, spec, declared, required⟩ := View.required_of_prepareAlone alone
    have below : TransGen (referencesOf r.views).Refers w.name u.name :=
      .head' (refers_of_mem mem asked) way
    refine ⟨u, registered, below, param, spec, declared, required, ?_⟩
    exact explain_eq_error_iff.mpr failed

/-- **What a load without findings promises.** Executing a registered view never fails
for a circle or for a missing view, and it fails for columns that do not fit only where
a view, itself or one it needs, was not checked: a view further down has a required
parameter, and the check stopped there. -/
theorem execute_of_validated (calls : List LoadCall) (valid : (loadAll calls empty).findings = []) :
    let r := loadAll calls empty
    ∀ v ∈ r.views, ∀ ctx supplied e, (execute ctx r supplied v).result = .error e →
      e.isCycle = false ∧ e.isMissingView = false ∧
        (e.isOfShape = true → ∃ w ∈ r.views,
          ReflTransGen (referencesOf r.views).Refers v.name w.name ∧ r.StopsBelow w) := by
  intro r v mem ctx supplied e h
  refine ⟨?_, ?_, ?_⟩
  · exact (acyclic_loadAll acyclic_empty calls).execute_ne_cycle mem h
  · exact (closed_of_findings valid).execute_ne_missing mem h
  · intro ofShape
    rcases error_of_execute h with failed | ⟨_, rfl⟩
    · obtain ⟨w, registered, way, below, inOrder, lists, alone⟩ :=
        prepare_fails_alone mem (QueryError.isOfReferences_of_isOfShape ofShape) failed
      obtain ⟨cause, unfit⟩ := View.checkShape_of_prepareAlone ofShape alone
      exact ⟨w, registered, way, stopsBelow_of_checkShape valid registered inOrder lists unfit⟩
    · exact nomatch ofShape

end

/-! ### A view that the check does not come to -/

open StandardPatterns

/-- A view with a required parameter, and one over it that asks for a field that does
not exist. -/
def wornDocument : Node :=
  .mapping [
    (.text "rated", .mapping [
      (.text "params", .mapping [(.text "min", .text "int")]),
      (.text "filter", .mapping [(.text "stars", .text ">= \x7b\x7bparams.min\x7d\x7d")])]),
    (.text "worn", .mapping [
      (.text "from", .text "rated"),
      (.text "filter", .mapping [(.text "karma", .text "> 3")])])]

/-- The view over the other. -/
def wornView : View :=
  { name := "worn", source := some "rated"
    filters := [⟨⟨"karma", []⟩, .ready (.compare .gt (.int 3))⟩] }

/-- The views of the document. -/
def wornRegistry : Registry :=
  let rated : View :=
    { name := "rated", params := [("min", { type := .int })]
      filters := [⟨⟨"stars", []⟩, .template (.text ">= \x7b\x7bparams.min\x7d\x7d")⟩] }
  ⟨[rated, wornView], by decide⟩

theorem loadAll_worn : loadAll [⟨true, wornDocument⟩] empty = wornRegistry := by
  have same : (loadAll [⟨true, wornDocument⟩] empty).views = wornRegistry.views := by
    decide +kernel
  cases loaded : loadAll [⟨true, wornDocument⟩] empty
  rw [loaded] at same
  cases same
  rfl

theorem findings_worn : wornRegistry.findings = [] := by cbv

/-- Given the parameter, the view over the other fails for its field. -/
theorem execute_worn (ctx : RunContext) :
    (execute ctx wornRegistry [("min", .number (.int 3))] wornView).result =
      .error (.run (.unknownField "worn" "karma" .bookmark)) := by
  have failed : (wornRegistry.prepare [("min", .number (.int 3))] wornView).map (fun _ => ()) =
      .error (.run (.unknownField "worn" "karma" .bookmark)) := by cbv
  exact result_execute_of_error (map_eq_error_iff.mp failed)

/-- The execution that fails for its field has a view in it whose check stopped. -/
theorem execute_of_validated_worn :
    (loadAll [⟨true, wornDocument⟩] empty).findings = [] ∧
      ∃ w ∈ (loadAll [⟨true, wornDocument⟩] empty).views,
        ReflTransGen (referencesOf (loadAll [⟨true, wornDocument⟩] empty).views).Refers "worn"
          w.name ∧ (loadAll [⟨true, wornDocument⟩] empty).StopsBelow w := by
  have valid : (loadAll [⟨true, wornDocument⟩] empty).findings = [] := by
    rw [loadAll_worn]
    exact findings_worn
  have mem : wornView ∈ (loadAll [⟨true, wornDocument⟩] empty).views := by
    rw [loadAll_worn]
    decide
  have failed : (execute .withoutRecords (loadAll [⟨true, wornDocument⟩] empty)
      [("min", .number (.int 3))] wornView).result =
        .error (.run (.unknownField "worn" "karma" .bookmark)) := by
    rw [loadAll_worn]
    exact execute_worn .withoutRecords
  exact ⟨valid, (execute_of_validated _ valid wornView mem _ _ _ failed).2.2 rfl⟩

/-- **A view can pass the check and have a field that does not exist**: the check stops
at the required parameter of the view below. -/
theorem validated_hides_field :
    (loadAll [⟨true, wornDocument⟩] empty).findings = [] ∧
      wornView ∈ (loadAll [⟨true, wornDocument⟩] empty).views ∧
      (execute .withoutRecords (loadAll [⟨true, wornDocument⟩] empty)
        [("min", .number (.int 3))] wornView).result =
          .error (.run (.unknownField "worn" "karma" .bookmark)) := by
  rw [loadAll_worn]
  exact ⟨findings_worn, by decide, execute_worn .withoutRecords⟩

end Registry

end BookmarkViews
