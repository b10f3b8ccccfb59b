import BookmarkViews.Pattern.Standard
import BookmarkViews.Proofs.Run.Walks
import BookmarkViews.Run.Validation
import Mathlib.Data.Set.Card

/-!
How often a query asks its store.

A view that is composed of others asks nothing, and any other one asks once
(`length_requests_run`). The views of a run are those that the query reaches, once each, so
there are at most as many requests as such views read the store, and one for the query
(`Registry.RunsOnce.fetches`).
-/

namespace BookmarkViews

open BookmarkViews.Composition (RowTable)
open Relation (ReflTransGen)

/-! ### Counting requests -/

section

variable {ctx : RunContext} {views : PreparedViews} {table : RowTable} {noted : List FetchRequest}

theorem length_requests_bind {α β : Type} {x : Fetching α} {f : α → Fetching β} {k n : Nat}
    (first : (x.run.run noted).2.length ≤ k)
    (next : ∀ a noted', noted'.length ≤ k → ((f a).run.run noted').2.length ≤ n) (le : k ≤ n) :
    ((x >>= f).run.run noted).2.length ≤ n := by
  rw [ExceptT.run_bind, StateT.run_bind]
  generalize x.run.run noted = reached at first
  obtain ⟨result, noted'⟩ := reached
  cases result with
  | ok a => exact next a noted' first
  | error e => exact first.trans le

/-- A view asks the store once, or not at all when it is composed of others. -/
theorem length_requests_run [PatternEngine] (p : PreparedView) :
    ((p.run ctx views table).run.run noted).2.length ≤
      noted.length + if p.view.isComposed then 0 else 1 := by
  unfold PreparedView.run
  split
  · exact le_rfl
  · refine length_requests_bind (k := noted.length + 1) ?_ (fun _ _ le => le) le_rfl
    change (noted ++ [_]).length ≤ _
    rw [List.length_append, List.length_singleton]

theorem length_requests_runViews [PatternEngine] (added : PreparedViews) :
    ((runViews ctx views added table).run.run noted).2.length ≤
      noted.length + (added.filter fun e => !e.2.view.isComposed).length := by
  induction added generalizing table noted with
  | nil => exact Nat.le_add_right _ _
  | cons entry added ih =>
    obtain ⟨name, p⟩ := entry
    have count : (((name, p) :: added).filter fun e => !e.2.view.isComposed).length =
        (if p.view.isComposed then 0 else 1) +
          (added.filter fun e => !e.2.view.isComposed).length := by
      cases composed : p.view.isComposed <;> simp [composed, Nat.add_comm]
    rw [count]
    refine length_requests_bind (length_requests_run p) (fun rows noted' le => ih.trans ?_) ?_
    · omega
    · omega

end

namespace Registry

variable {r : Registry} {supplied : Params} {v : View} {top : PreparedView} {views : PreparedViews}

/-- The views that a query reaches and that read the store. -/
def readers (r : Registry) (v : View) : Set View :=
  { w | w ∈ r.views ∧ w.isComposed = false ∧
    ∃ first ∈ v.references, ReflTransGen (referencesOf r.views).Refers first w.name }

section

variable [PatternEngine]

/-- The prepared views that read the store are views of the registry, each listed once. -/
theorem length_readers_le (inOrder : r.InOrder supplied views)
    (reached : ∀ name ∈ Keyed.keys views,
      ∃ first ∈ v.references, ReflTransGen (referencesOf r.views).Refers first name) :
    (views.filter fun e => !e.2.view.isComposed).length ≤ (r.readers v).ncard := by
  have found (e : String × PreparedView) (mem : e ∈ views) : r.find? e.1 = some e.2.view := by
    obtain ⟨before, after, cut⟩ := List.append_of_mem mem
    exact (inOrder.split cut).2.2.1
  let listed := (views.filter fun e => !e.2.view.isComposed).map (·.2.view)
  have once : listed.Nodup := by
    have names : ((views.filter fun e => !e.2.view.isComposed).map (·.1)).Nodup :=
      inOrder.nodup.sublist (List.filter_sublist.map _)
    have same : (views.filter fun e => !e.2.view.isComposed).map (·.1) = listed.map View.name := by
      rw [List.map_map]
      exact List.map_congr_left fun e mem =>
        (name_of_find? (found e (List.mem_filter.mp mem).1)).symm
    exact .of_map _ (same ▸ names)
  have within : (listed.toFinset : Set View) ⊆ r.readers v := by
    intro w mem
    obtain ⟨e, kept, rfl⟩ := List.mem_map.mp (List.mem_toFinset.mp mem)
    obtain ⟨mem, stored⟩ := List.mem_filter.mp kept
    refine ⟨mem_of_find? (found e mem), by simpa using stored, ?_⟩
    rw [name_of_find? (found e mem)]
    exact reached e.1 (List.mem_map_of_mem mem)
  have finite : (r.readers v).Finite :=
    r.views.toFinset.finite_toSet.subset fun w mem => List.mem_toFinset.mpr mem.1
  calc (views.filter fun e => !e.2.view.isComposed).length
      = listed.length := (List.length_map _).symm
    _ = listed.toFinset.card := (List.toFinset_card_of_nodup once).symm
    _ = (listed.toFinset : Set View).ncard := (Set.ncard_coe_finset _).symm
    _ ≤ (r.readers v).ncard := Set.ncard_le_ncard within finite

/-- What a memory does to the run of a prepared query. -/
structure RunsOnce (ctx : RunContext) (r : Registry) (supplied : Params) (v : View)
    (top : PreparedView) (views : PreparedViews) : Prop where
  /-- The execution is the run that starts without memories. -/
  result : (execute ctx r supplied v).result =
    ((rememberedRun ctx views top).outcome {}).1.map fun rows =>
      ⟨top.shape.entity, rows, top.groupColumns⟩
  requests : (execute ctx r supplied v).requests =
    ((rememberedRun ctx views top).outcome {}).2.requests
  /-- It answers, or fails, as the run does that runs views again at every mention. -/
  plain : ((rememberedRun ctx views top).outcome {}).1 = plainRun ctx top views
  again : ∀ before name p after, views = before ++ (name, p) :: after →
    plainRows ctx views name = p.runBy ctx.now views (p.storedRows ctx) (plainRows ctx views)
  /-- Whatever is soundly remembered, asking for a view answers its plain rows and keeps
  the memory sound. -/
  recalls : ∀ name ∈ Keyed.keys views,
    Recalls ctx views (ask ctx views name) (plainRows ctx views name)
  sound : Sound ctx views ((rememberedRun ctx views top).outcome {}).2
  /-- No view is run twice, and none that the query does not reach. -/
  once : ((rememberedRun ctx views top).outcome {}).2.started.Nodup
  reached : ∀ name ∈ ((rememberedRun ctx views top).outcome {}).2.started,
    ∃ first ∈ v.references, ReflTransGen (referencesOf r.views).Refers first name
  /-- The store is asked once for each view that reads it, and once for the query. -/
  fetches : (execute ctx r supplied v).requests.length ≤ (r.readers v).ncard + 1

/-- **A memory of rows is not seen, and every view runs once.** -/
theorem runs_once (h : r.prepare supplied v = .ok (top, views)) (ctx : RunContext) :
    RunsOnce ctx r supplied v top views := by
  obtain ⟨-, inOrder, -, reached⟩ := inOrder_of_prepare h
  obtain ⟨answer, requests, once, within⟩ := outcome_rememberedRun h ctx
  obtain ⟨plain, sound⟩ := recalls_of_prepare h {} (sound_empty ctx views)
  have asked : (execute ctx r supplied v).requests = ((runPrepared ctx top views).run.run []).2 := by
    rw [execute, h]
    rfl
  refine ⟨?_, asked.trans requests.symm, plain, fun before name p after cut => ?_, fun name mem => ?_,
    sound, once, fun name mem => (reached name (within name mem)).2, ?_⟩
  · rw [answer, result_execute h]
  · exact inOrder.plainRows_eq cut
  · exact inOrder.recalls_ask mem
  · rw [asked]
    have readers := length_readers_le inOrder fun name mem => (reached name mem).2
    refine length_requests_bind (length_requests_runViews views) (fun table noted le => ?_) ?_
    · refine (length_requests_run top).trans ?_
      rw [List.length_nil] at le
      split <;> omega
    · rw [List.length_nil]
      omega

end

open StandardPatterns

/-- The base of two views is run once, and asked for by nothing else. -/
theorem runs_once_crossing :
    ∃ top views, crossing.prepare [] overBoth = .ok (top, views) ∧
      RunsOnce .withoutRecords crossing [] overBoth top views ∧
        (execute .withoutRecords crossing [] overBoth).requests.length = 1 := by
  have order : (crossing.prepare [] overBoth).map (fun both => Keyed.keys both.2) =
      .ok ["base", "left", "right"] := by cbv
  obtain ⟨⟨top, views⟩, prepared, -⟩ := map_eq_ok_iff.mp order
  exact ⟨top, views, prepared, runs_once prepared .withoutRecords, by cbv⟩

end Registry

end BookmarkViews
