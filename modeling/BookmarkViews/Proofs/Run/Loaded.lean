import BookmarkViews.Proofs.Run.Execution
import BookmarkViews.Proofs.Run.Preparation
import BookmarkViews.Proofs.View.Loading

/-!
Executing views of a registry that was filled by loading documents.

Preparation keeps its own list of names on the way. Over an acyclic registry it
never finds a name there again (`Registry.Acyclic.execute_ne_cycle`), and over a
closed one it finds every name it looks for (`Registry.Closed.execute_ne_missing`).
-/

namespace BookmarkViews

/-- A failure that reports a circle of references. -/
def QueryError.isCycle : QueryError → Bool
  | .run (.cycle _) | .view (.cycle _) => true
  | _ => false

/-- A failure that reports a view that is not registered. -/
def QueryError.isMissingView : QueryError → Bool
  | .run (.missingView _ _) | .view (.unresolved _ _) => true
  | _ => false

theorem QueryError.isOfReferences_eq (e : QueryError) :
    e.isOfReferences = (e.isCycle || e.isMissingView) := by
  rcases e with e | e | _
  · cases e <;> rfl
  · cases e <;> rfl
  · rfl

variable [PatternEngine]

namespace Registry

variable {r : Registry} {supplied : Params} {ctx : RunContext} {v : View} {e : QueryError}

omit [PatternEngine] in
theorem refers_of_mem (mem : v ∈ r.views) {name : String} (h : name ∈ v.references) :
    (referencesOf r.views).Refers v.name name :=
  ⟨v.references, List.mem_map_of_mem mem, h⟩

omit [PatternEngine] in
/-- A registered view is the one found under its name. -/
theorem find?_of_mem (mem : v ∈ r.views) : r.find? v.name = some v := by
  cases found : r.find? v.name with
  | none => exact absurd (beq_self_eq_true v.name) (List.find?_eq_none.mp found v mem)
  | some w =>
    exact congrArg some (List.inj_on_of_nodup_map r.distinct (mem_of_find? found) mem (name_of_find? found))

/-- How a registered view fails: by itself or in the store, at a reference to a name
that no view has, or on a walk along references that comes back. -/
theorem execute_fails (mem : v ∈ r.views) (h : (execute ctx r supplied v).result = .error e) :
    e.isOfReferences = false ∨
      (∃ view name, (referencesOf r.views).Refers view name ∧ r.find? name = none ∧
        e = .run (.missingView view name)) ∨
      ∃ path, ClosedWalk (referencesOf r.views).Refers path ∧ e = .run (.cycle path) := by
  rcases error_of_execute h with h | ⟨cause, rfl⟩
  · rcases bind_eq_error.mp h with h | ⟨views, -, h⟩
    · refine prepareReferences_fails (fun w mem name => refers_of_mem mem) ⟨.singleton _, rfl⟩ ?_ h
      exact fun name => refers_of_mem mem
    rcases bind_eq_error.mp h with h | ⟨top, -, h⟩
    · exact .inl (View.prepareAlone_fails h)
    · exact nomatch h
  · exact .inl rfl

/-- **A registered view of an acyclic registry never fails for a circle.** -/
theorem Acyclic.execute_ne_cycle (acyclic : r.Acyclic) (mem : v ∈ r.views)
    (h : (execute ctx r supplied v).result = .error e) : e.isCycle = false := by
  rcases execute_fails mem h with other | ⟨_, _, -, -, rfl⟩ | ⟨path, walk, -⟩
  · rw [QueryError.isOfReferences_eq, Bool.or_eq_false_iff] at other
    exact other.1
  · rfl
  · obtain ⟨name, cycle⟩ := walk.transGen
    exact absurd cycle (acyclic name)

/-- **A registered view of a closed registry never misses a view.** -/
theorem Closed.execute_ne_missing (closed : r.Closed) (mem : v ∈ r.views)
    (h : (execute ctx r supplied v).result = .error e) : e.isMissingView = false := by
  rcases execute_fails mem h with other | ⟨view, name, refers, missing, -⟩ | ⟨_, -, rfl⟩
  · rw [QueryError.isOfReferences_eq, Bool.or_eq_false_iff] at other
    exact other.2
  · obtain ⟨references, listed, mem⟩ := refers
    obtain ⟨w, registered, entry⟩ := List.mem_map.mp listed
    obtain ⟨rfl, rfl⟩ := Prod.mk.inj entry
    have known := closed w registered name mem
    rw [find?, List.find?_eq_none] at missing
    obtain ⟨u, registered, named⟩ := List.any_eq_true.mp known
    exact absurd named (missing u registered)
  · rfl

/-- **Loading is all or nothing, and keeps views runnable.** After any loads from
nothing: a refused document changes nothing; one that is taken adds exactly the
views it defines, in order, and adding them is never refused; references are
acyclic; and a registered view never fails for a circle, nor, after strict loads
only, for a missing view. -/
theorem load_sequence (calls : List LoadCall) :
    let r := loadAll calls empty
    (∀ strict document,
      (∀ e, (loadInto strict document r).1 = .error e → (loadInto strict document r).2 = r) ∧
      (∀ views, (loadInto strict document r).1 = .ok views →
        Defines document views ∧ (loadInto strict document r).2.views = r.views ++ views) ∧
      (∀ views, r.newViews? strict document = .ok views → (registerAll views r).1 = .ok ())) ∧
    r.Acyclic ∧
    ∀ v ∈ r.views, ∀ ctx supplied,
      executeNamed ctx r supplied v.name = execute ctx r supplied v ∧
      ∀ e, (execute ctx r supplied v).result = .error e →
        e.isCycle = false ∧ ((∀ call ∈ calls, call.strict = true) → e.isMissingView = false) := by
  intro r
  have acyclic : r.Acyclic := acyclic_loadAll acyclic_empty calls
  refine ⟨fun strict document => ⟨fun e => load_rolls_back, fun views h => ?_, fun views h => ?_⟩,
    acyclic, fun v mem ctx supplied => ⟨?_, fun e h => ⟨acyclic.execute_ne_cycle mem h, ?_⟩⟩⟩
  · obtain ⟨added, after⟩ := load_appends h
    exact ⟨(defines_of_newViews? added).1, after⟩
  · exact (registerAll_of_fresh (defines_of_newViews? h).2).1
  · rw [executeNamed, find?_of_mem mem]
  · intro strict
    have closed : r.Closed := closed_loadAll (by exact nofun) strict
    exact closed.execute_ne_missing mem h

end Registry

end BookmarkViews
