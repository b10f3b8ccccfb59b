import BookmarkViews.Proofs.Run.PlainRows

/-!
The rows of a query with a memory of the views that were run.

`rememberedRun` is the recursion of `plainRun`, except that rows are kept once a view was
run to its end, and taken from there where the view is mentioned again. `Recalls` says
that this is not seen: from every memory that holds plain rows only, an answer or a failure
is the plain one, and the memory is left with plain rows.

* `Recalls.bind`, `Recalls.mapM`, `Recalls.remembered`: what one step keeps;
* `Registry.InOrder.recalls_ask`: asking for a listed view recalls its plain rows.
-/

namespace BookmarkViews

open BookmarkViews.Composition (RowTable)

/-! ### A memory of rows -/

/-- What a run knows and what it has done. -/
structure RunState where
  /-- The rows of the views that were run to their end. -/
  table : RowTable := []
  /-- The views that were run, also those that did not come to their end. -/
  started : List String := []
  requests : List FetchRequest := []

/-- A computation that remembers rows, asks a store, and may fail as a query does. -/
abbrev Remembering := ExceptT QueryError (StateM RunState)

namespace Remembering

variable {α β : Type}

/-- What a computation comes to from a state. -/
def outcome (x : Remembering α) (s : RunState) : Except QueryError α × RunState :=
  x.run.run s

theorem outcome_bind (x : Remembering α) (f : α → Remembering β) (s : RunState) :
    (x >>= f).outcome s =
      match x.outcome s with
      | (.ok a, s') => (f a).outcome s'
      | (.error e, s') => (.error e, s') := by
  simp only [outcome, ExceptT.run_bind, StateT.run_bind]
  cases x.run.run s with
  | mk result s' => cases result <;> rfl

/-- A computation that asks a store, with a memory that it does not touch. -/
def ofFetching (x : Fetching α) : Remembering α := do
  let s ← get
  let (result, requests) := x.run.run s.requests
  set { s with requests }
  ExceptT.mk (pure (result.mapError .failed))

theorem outcome_ofFetching (x : Fetching α) (s : RunState) :
    (ofFetching x).outcome s =
      ((x.answer s.requests).mapError .failed, { s with requests := (x.run.run s.requests).2 }) :=
  rfl

end Remembering

open Remembering

/-- The rows of a view, remembered from an earlier run or else by running it. -/
def remembered (name : String) (rows : Remembering (List Row)) : Remembering (List Row) := do
  match Keyed.get? (← get).table name with
  | some known => return known
  | none =>
    modify fun s => { s with started := s.started ++ [name] }
    let found ← rows
    modify fun s => { s with table := Keyed.insert s.table name found }
    return found

theorem remembered_known {s : RunState} {name : String} {known : List Row}
    (h : Keyed.get? s.table name = some known) (rows : Remembering (List Row)) :
    (remembered name rows).outcome s = (.ok known, s) := by
  rw [remembered, outcome_bind]
  change (match Keyed.get? s.table name with
    | some known => (return known : Remembering (List Row))
    | none => _).outcome s = _
  rw [h]
  rfl

theorem remembered_new {s : RunState} {name : String} (h : Keyed.get? s.table name = none)
    (rows : Remembering (List Row)) :
    (remembered name rows).outcome s =
      match rows.outcome { s with started := s.started ++ [name] } with
      | (.ok found, s') => (.ok found, { s' with table := Keyed.insert s'.table name found })
      | (.error e, s') => (.error e, s') := by
  rw [remembered, outcome_bind]
  change (match Keyed.get? s.table name with
    | some known => (return known : Remembering (List Row))
    | none => _).outcome s = _
  rw [h, outcome_bind]
  change (rows >>= _).outcome _ = _
  rw [outcome_bind]
  cases rows.outcome { s with started := s.started ++ [name] } with
  | mk result s' => cases result <;> rfl

variable [PatternEngine]

section

variable (ctx : RunContext) (views : PreparedViews)

/-- The rows of a view, remembered for every view that it mentions. -/
def rememberedRows : String → Remembering (List Row) :=
  rowsBy ctx.now views (fun p => ofFetching (p.runStored ctx)) remembered views.reverse

/-- Ask for the rows of a view. -/
def ask (name : String) : Remembering (List Row) :=
  remembered name (rememberedRows ctx views name)

/-- The rows of a query, remembered for every view that it mentions. -/
def rememberedRun (top : PreparedView) : Remembering (List Row) :=
  top.runBy ctx.now views (ofFetching (top.runStored ctx)) (ask ctx views)

/-! ### What is remembered -/

/-- Every entry holds the plain rows of its view. -/
def Sound (s : RunState) : Prop :=
  ∀ name rows, Keyed.get? s.table name = some rows → plainRows ctx views name = .ok rows

/-- A computation answers what a plain one does whatever it soundly remembers, and
remembers soundly what it has found, also when it fails. -/
def Recalls {α : Type} (x : Remembering α) (y : Except QueryError α) : Prop :=
  ∀ s, Sound ctx views s → (x.outcome s).1 = y ∧ Sound ctx views (x.outcome s).2

end

section

variable {ctx : RunContext} {views : PreparedViews} {α β : Type}

theorem recalls_pure (a : α) : Recalls ctx views (pure a) (pure a) :=
  fun _ sound => ⟨rfl, sound⟩

theorem recalls_ofExcept (x : Except QueryError α) :
    Recalls ctx views (ofExcept x) (ofExcept x) := by
  intro s sound
  cases x <;> exact ⟨rfl, sound⟩

theorem Recalls.bind {x : Remembering α} {y : Except QueryError α} {f : α → Remembering β}
    {g : α → Except QueryError β} (first : Recalls ctx views x y)
    (next : ∀ a, Recalls ctx views (f a) (g a)) : Recalls ctx views (x >>= f) (y >>= g) := by
  intro s sound
  obtain ⟨rfl, after⟩ := first s sound
  rw [outcome_bind]
  generalize x.outcome s = reached at after
  obtain ⟨result, s'⟩ := reached
  cases result with
  | ok a => exact next a s' after
  | error e => exact ⟨rfl, after⟩

theorem Recalls.mapM {f : String → Remembering α} {g : String → Except QueryError α}
    {names : List String} (each : ∀ name ∈ names, Recalls ctx views (f name) (g name)) :
    Recalls ctx views (names.mapM f) (names.mapM g) := by
  induction names with
  | nil => exact recalls_pure []
  | cons name rest ih =>
    rw [List.mapM_cons, List.mapM_cons]
    refine (each name List.mem_cons_self).bind fun a => Recalls.bind ?_ fun _ => recalls_pure _
    exact ih fun n mem => each n (List.mem_cons_of_mem _ mem)

/-- Asking the store does not touch the memory. -/
theorem recalls_stored (p : PreparedView) :
    Recalls ctx views (ofFetching (p.runStored ctx)) (p.storedRows ctx) := by
  intro s sound
  rw [outcome_ofFetching, PreparedView.storedRows, p.answer_runStored, p.answer_runStored]
  exact ⟨rfl, sound⟩

/-- A run over remembered rows is remembered as the run over plain rows. -/
theorem Recalls.runBy {p : PreparedView} {f : String → Remembering (List Row)}
    {g : String → Except QueryError (List Row)}
    (each : ∀ name ∈ p.view.mentions, Recalls ctx views (f name) (g name)) :
    Recalls ctx views (p.runBy ctx.now views (ofFetching (p.runStored ctx)) f)
      (p.runBy ctx.now views (p.storedRows ctx) g) := by
  unfold PreparedView.runBy
  split
  · refine Recalls.bind (Recalls.bind (.mapM fun name mem => ?_) fun _ => recalls_pure _)
      fun _ => recalls_ofExcept _
    exact (each name mem).bind fun _ => recalls_pure _
  · exact recalls_stored p

/-- What is remembered of a view are its plain rows. -/
theorem Recalls.remembered {name : String} {x : Remembering (List Row)}
    (h : Recalls ctx views x (plainRows ctx views name)) :
    Recalls ctx views (remembered name x) (plainRows ctx views name) := by
  intro s sound
  cases known : Keyed.get? s.table name with
  | some rows =>
    rw [remembered_known known]
    exact ⟨(sound name rows known).symm, sound⟩
  | none =>
    rw [remembered_new known]
    obtain ⟨answer, after⟩ := h { s with started := s.started ++ [name] } sound
    generalize x.outcome { s with started := s.started ++ [name] } = result at answer after
    obtain ⟨answer', s'⟩ := result
    cases answer' with
    | error e => exact ⟨answer, after⟩
    | ok rows =>
      refine ⟨answer, fun other found entry => ?_⟩
      rw [Keyed.get?_insert] at entry
      split at entry
      · next same => rw [same, ← Option.some_inj.mp entry, ← answer]
      · exact after other found entry

end

section

variable {r : Registry} {supplied : Params} {ctx : RunContext} {views : PreparedViews}

/-- The rows of a listed view come about by asking for what it mentions. -/
theorem Registry.InOrder.rememberedRows_eq (h : r.InOrder supplied views)
    {before after : PreparedViews} {name : String} {p : PreparedView}
    (cut : views = before ++ (name, p) :: after) :
    rememberedRows ctx views name =
      p.runBy ctx.now views (ofFetching (p.runStored ctx)) (ask ctx views) :=
  h.rowsBy_eq cut ctx.now _ _

/-- **Asking for a listed view recalls its plain rows.** -/
theorem Registry.InOrder.recalls_ask (h : r.InOrder supplied views) {name : String}
    (mem : name ∈ Keyed.keys views) :
    Recalls ctx views (ask ctx views name) (plainRows ctx views name) := by
  refine h.forall_names (P := fun name => Recalls ctx views (ask ctx views name)
    (plainRows ctx views name)) ?_ name mem
  intro before name p after cut ih
  refine .remembered ?_
  rw [h.rememberedRows_eq cut, h.plainRows_eq cut]
  exact .runBy fun ref mention => ih ref (View.mem_references.mpr mention)

/-- A query over remembered rows recalls its plain rows. -/
theorem Registry.InOrder.recalls_run (h : r.InOrder supplied views) {top : PreparedView}
    (listed : ∀ ref ∈ top.view.references, ref ∈ Keyed.keys views) :
    Recalls ctx views (rememberedRun ctx views top) (plainRun ctx top views) :=
  .runBy fun ref mention => h.recalls_ask (listed ref (View.mem_references.mpr mention))

end

end BookmarkViews
