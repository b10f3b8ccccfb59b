import BookmarkViews.Keyed
import BookmarkViews.Text.Order

/-!
Cycles among views that refer to each other.

The search is Kahn's: every known name waits for the known names it refers to, and is
visited once all of them have been. `cycleMembers` lists, in the order of texts, the
names that are never visited: those on a cycle, and those that lead to one.
-/

namespace BookmarkViews

/-- What every known name refers to. -/
abbrev ReferenceGraph := List (String × List String)

/-- How many names a known name still waits for. -/
abbrev Waiting := List (String × Nat)

namespace Waiting

/-- How many names wait for another. -/
def blocked (waiting : Waiting) : Nat :=
  waiting.countP (0 < ·.2)

/-- A name waits for one name less. -/
def lower (waiting : Waiting) (name : String) : Waiting :=
  waiting.map fun e => (e.1, if e.1 = name then e.2 - 1 else e.2)

/-- A name waits for one name less; when that was the last one it is ready. -/
def release (state : Waiting × List String) (name : String) : Waiting × List String :=
  (state.1.lower name,
    if Keyed.get? state.1 name = some 1 then state.2 ++ [name] else state.2)

/-- Several names wait for one name less: what they wait for then, and which of them are
ready. -/
def releaseAll (waiting : Waiting) (names : List String) : Waiting × List String :=
  names.foldl release (waiting, [])

theorem blocked_lower_le (waiting : Waiting) (name : String) :
    (waiting.lower name).blocked ≤ waiting.blocked := by
  rw [blocked, lower, List.countP_map]
  refine List.countP_mono_left fun e _ h => ?_
  simp only [Function.comp, decide_eq_true_eq] at h ⊢
  split at h <;> omega

/-- A name that gets ready is blocked no more. -/
theorem blocked_lower_lt {waiting : Waiting} {name : String}
    (last : Keyed.get? waiting name = some 1) :
    (waiting.lower name).blocked < waiting.blocked := by
  induction waiting with
  | nil => exact nomatch last
  | cons e waiting ih =>
    obtain ⟨key, count⟩ := e
    have later := blocked_lower_le waiting name
    rw [Keyed.get?_cons] at last
    simp only [blocked, lower, List.map_cons, List.countP_cons] at later ih ⊢
    by_cases same : name = key
    · obtain rfl : count = 1 := by simpa [same] using last
      simpa [same] using Nat.lt_succ_of_le later
    · have onward := ih (by simpa [same] using last)
      simp only [Ne.symm same, ↓reduceIte]
      omega

theorem length_release_le (state : Waiting × List String) (name : String) :
    (release state name).2.length + (release state name).1.blocked ≤
      state.2.length + state.1.blocked := by
  unfold release
  split
  · next last =>
    have := blocked_lower_lt last
    simp only [List.length_append, List.length_singleton]
    omega
  · exact Nat.add_le_add_left (blocked_lower_le _ _) _

/-- Each name that gets ready was blocked before. -/
theorem length_releaseAll_le (waiting : Waiting) (names : List String) :
    (waiting.releaseAll names).2.length + (waiting.releaseAll names).1.blocked ≤
      waiting.blocked := by
  suffices steps : ∀ state : Waiting × List String,
      (names.foldl release state).2.length + (names.foldl release state).1.blocked ≤
        state.2.length + state.1.blocked by
    simpa [releaseAll] using steps (waiting, [])
  induction names with
  | nil => exact fun _ => Nat.le_refl _
  | cons name names ih =>
    exact fun state => Nat.le_trans (ih (release state name)) (length_release_le state name)

end Waiting

namespace ReferenceGraph

/-- The known names among references, each once. -/
def knownOf (g : ReferenceGraph) (references : List String) : List String :=
  (references.filter (Keyed.has g)).eraseDups

/-- The names that wait for a name. -/
def dependents (g : ReferenceGraph) (name : String) : List String :=
  Keyed.keys (g.filter fun e => (g.knownOf e.2).contains name)

/-- At the start a name waits for all known names it refers to. -/
def waiting (g : ReferenceGraph) : Waiting :=
  g.map fun e => (e.1, (g.knownOf e.2).length)

/-- A search under way. -/
structure Search where
  /-- The names to visit next. -/
  queue : List String
  waiting : Waiting
  /-- How many names have been visited. -/
  visited : Nat

/-- Visit a name before the others of the queue; the names that get ready by that stand
behind them. -/
def visit (g : ReferenceGraph) (name : String) (s : Search) : Search :=
  let released := s.waiting.releaseAll (g.dependents name)
  { queue := s.queue ++ Text.sorted released.2
    waiting := released.1
    visited := s.visited + 1 }

theorem visit_decreases (g : ReferenceGraph) (name : String) (s : Search) :
    (g.visit name s).queue.length + (g.visit name s).waiting.blocked ≤
      s.queue.length + s.waiting.blocked := by
  have := s.waiting.length_releaseAll_le (g.dependents name)
  simp only [visit, List.length_append, Text.length_sorted]
  omega

/-- Visit the names of the queue until there is none. -/
def search (g : ReferenceGraph) : Search → Search
  | ⟨[], waiting, visited⟩ => ⟨[], waiting, visited⟩
  | ⟨name :: queue, waiting, visited⟩ => g.search (g.visit name ⟨queue, waiting, visited⟩)
termination_by s => s.queue.length + s.waiting.blocked
decreasing_by
  exact Nat.lt_of_le_of_lt (g.visit_decreases name ⟨queue, waiting, visited⟩)
    (Nat.add_lt_add_right (Nat.lt_succ_self queue.length) _)

/-- The search from the names that wait for nothing. -/
def searched (g : ReferenceGraph) (names : List String) : Search :=
  let ready := names.filter fun name => Keyed.get? g.waiting name == some 0
  g.search ⟨Text.sorted ready, g.waiting, 0⟩

/-- The names on a cycle or leading to one, in the order of texts. The known names are
listed before the search and after it, each time in any order. -/
def cycleMembersVia (g : ReferenceGraph) (before after : List String) : List String :=
  let s := g.searched before
  if s.visited = g.length then []
  else Text.sorted (after.filter fun name => (Keyed.get? s.waiting name).any (0 < ·))

/-- The names on a cycle or leading to one, in the order of texts. -/
def cycleMembers (g : ReferenceGraph) : List String :=
  g.cycleMembersVia (Keyed.keys g) (Keyed.keys g)

end ReferenceGraph

end BookmarkViews
