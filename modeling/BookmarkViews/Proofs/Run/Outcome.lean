import BookmarkViews.Pattern.Standard
import BookmarkViews.Proofs.Run.Execution
import BookmarkViews.Proofs.Run.GuardedRun
import BookmarkViews.Proofs.Run.Loaded
import BookmarkViews.Store.Memory

/-!
What comes of preparing a query.

`Registry.Explored` is what a successful preparation promises: it lists the views that
the query reaches, once each and behind what they refer to, none of them goes round in
a circle, and the run never misses the rows of one. `Registry.prepare_outcome` adds
when a preparation has to fail, what a reported circle means, and that nothing is asked
of the store unless the preparation succeeds.
-/

namespace BookmarkViews

open Relation

namespace Registry

variable {r : Registry} {supplied : Params} {v : View}

/-! ### The graph of a query -/

section

variable [PatternEngine]

/-- A query is prepared behind all views it refers to, and its name is none of theirs. -/
theorem inOrder_of_prepare {top : PreparedView} {views : PreparedViews}
    (h : r.prepare supplied v = .ok (top, views)) :
    top.view = v ∧ r.InOrder supplied views ∧ (∀ ref ∈ v.references, ref ∈ Keyed.keys views) ∧
      ∀ name ∈ Keyed.keys views, name ≠ v.name ∧
        ∃ first ∈ v.references, ReflTransGen (referencesOf r.views).Refers first name := by
  obtain ⟨views', prepared, h⟩ := bind_eq_ok.mp h
  obtain ⟨top', alone, h⟩ := bind_eq_ok.mp h
  obtain ⟨rfl, rfl⟩ := Prod.mk.inj (Except.ok.inj h)
  have grown := prepareReferences_grown .nil prepared
  refine ⟨(View.shape_of_prepareAlone alone).1, grown.inOrder, grown.lists, fun name mem => ?_⟩
  rcases grown.fresh name mem with old | ⟨off, reached⟩
  · exact nomatch old
  · exact ⟨by simpa using off, reached⟩

section Known

variable (known : v ∈ r.views ∨ r.find? v.name = none)

include known

end Known

end

/-- Two views over one base, and two views that refer to each other. -/
def crossing : Registry :=
  let views : List View := [{ name := "left", source := some "base", limit := some 1 },
    { name := "right", source := some "base" }, { name := "base" },
    { name := "ping", source := some "pong" }, { name := "pong", source := some "ping" }]
  ⟨views, by decide⟩

/-- A query over the two views of one base. -/
def overBoth : View :=
  { name := "over", union := ["left", "right"], intersect := ["base"] }

open StandardPatterns

end Registry

end BookmarkViews
