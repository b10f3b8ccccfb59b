import BookmarkViews.Proofs.SortingOut
import BookmarkViews.Proofs.View.Cycles
import Mathlib

/-!
What the search for cycles finds.

After some names have been visited, every known name waits for the names it refers to
that are not among them, and those that wait for nothing are visited or in the queue
(`Search.Follows`). Every visit keeps this (`Search.Follows.visit`), so when the queue is
empty the visited names are the known names from which every way along references ends
(`Search.Follows.mem_done_iff`). The others are those that lead to a cycle
(`mem_cycleMembersVia_iff`).
-/

namespace BookmarkViews

open Relation (ReflTransGen TransGen)

/-! ### Waiting -/

namespace Waiting

variable {waiting : Waiting} {names : List String} {name k : String}

theorem get?_lower (waiting : Waiting) (name k : String) :
    Keyed.get? (waiting.lower name) k =
      if k = name then (Keyed.get? waiting k).map (· - 1) else Keyed.get? waiting k := by
  rw [lower, Keyed.get?_map fun key count => if key = name then count - 1 else count]
  split_ifs
  · rfl
  · exact Option.map_id'

/-- **What several different names wait for** when each waits for one name less: those
that waited for one are ready. -/
theorem releaseAll_spec (distinct : names.Nodup) (waiting : Waiting) :
    (∀ k, Keyed.get? (waiting.releaseAll names).1 k =
        if k ∈ names then (Keyed.get? waiting k).map (· - 1) else Keyed.get? waiting k) ∧
      (waiting.releaseAll names).2 = names.filter (Keyed.get? waiting · = some 1) := by
  suffices steps : ∀ ready : List String,
      (∀ k, Keyed.get? (names.foldl release (waiting, ready)).1 k =
        if k ∈ names then (Keyed.get? waiting k).map (· - 1) else Keyed.get? waiting k) ∧
      (names.foldl release (waiting, ready)).2 =
        ready ++ names.filter (Keyed.get? waiting · = some 1) from steps []
  induction names generalizing waiting with
  | nil => simp
  | cons name names ih =>
    obtain ⟨new, rest⟩ := List.nodup_cons.mp distinct
    have other {k : String} (mem : k ∈ names) : k ≠ name := fun same => new (same ▸ mem)
    intro ready
    obtain ⟨counts, freed⟩ := ih rest (waiting.lower name)
      (if Keyed.get? waiting name = some 1 then ready ++ [name] else ready)
    refine ⟨fun k => (counts k).trans ?_, freed.trans ?_⟩
    · by_cases later : k ∈ names
      · simp [later, get?_lower, other later]
      · by_cases same : k = name
        · simp [same, new, get?_lower]
        · simp [later, same, get?_lower]
    · have unchanged : names.filter (Keyed.get? (waiting.lower name) · = some 1) =
          names.filter (Keyed.get? waiting · = some 1) :=
        List.filter_congr fun k mem => by rw [get?_lower, if_neg (other mem)]
      rw [unchanged, List.filter_cons]
      by_cases last : Keyed.get? waiting name = some 1 <;> simp [last]

end Waiting

namespace ReferenceGraph

variable {g : ReferenceGraph} {a b name k : String} {names done queue : List String}
  {waiting : Waiting} {visited : Nat} {s : Search}

/-! ### References between known names -/

/-- The known names that a name refers to, each once. -/
def dependencies (g : ReferenceGraph) (name : String) : List String :=
  g.knownOf ((Keyed.get? g name).getD [])

theorem mem_knownOf_iff {references : List String} :
    name ∈ g.knownOf references ↔ name ∈ references ∧ name ∈ Keyed.keys g := by
  rw [knownOf, List.mem_eraseDups, List.mem_filter, Keyed.has_iff]

theorem nodup_dependencies (g : ReferenceGraph) (name : String) : (g.dependencies name).Nodup :=
  nodup_eraseDups _

theorem dependencies_of_mem (distinct : (Keyed.keys g).Nodup) {references : List String}
    (mem : (name, references) ∈ g) : g.dependencies name = g.knownOf references := by
  rw [dependencies, Keyed.get?_of_mem distinct mem, Option.getD_some]

theorem mem_dependencies_iff (distinct : (Keyed.keys g).Nodup) :
    b ∈ g.dependencies a ↔ g.KnownRefers a b := by
  constructor
  · intro mem
    obtain ⟨listed, known⟩ := mem_knownOf_iff.mp mem
    cases found : Keyed.get? g a with
    | none => simp [found] at listed
    | some references =>
      rw [found, Option.getD_some] at listed
      exact ⟨⟨references, Keyed.mem_of_get? found, listed⟩, known⟩
  · rintro ⟨⟨references, mem, listed⟩, known⟩
    rw [dependencies_of_mem distinct mem]
    exact mem_knownOf_iff.mpr ⟨listed, known⟩

theorem mem_dependents_iff : a ∈ g.dependents b ↔ g.KnownRefers a b := by
  constructor
  · intro mem
    obtain ⟨⟨_, references⟩, waits, rfl⟩ := List.mem_map.mp mem
    obtain ⟨entry, listed⟩ := List.mem_filter.mp waits
    obtain ⟨refers, known⟩ := mem_knownOf_iff.mp (List.contains_iff_mem.mp listed)
    exact ⟨⟨references, entry, refers⟩, known⟩
  · rintro ⟨⟨references, entry, refers⟩, known⟩
    have listed := List.contains_iff_mem.mpr (mem_knownOf_iff.mpr ⟨refers, known⟩)
    exact List.mem_map_of_mem (List.mem_filter.mpr ⟨entry, listed⟩)

theorem nodup_dependents (distinct : (Keyed.keys g).Nodup) (name : String) :
    (g.dependents name).Nodup :=
  distinct.sublist (List.filter_sublist.map _)

/-- At the start a known name waits for all known names it refers to. -/
theorem get?_waiting (known : name ∈ Keyed.keys g) :
    Keyed.get? g.waiting name = some (g.dependencies name).length := by
  obtain ⟨references, found⟩ := Keyed.exists_get?_of_mem known
  rw [ReferenceGraph.waiting, Keyed.get?_map fun _ references => (g.knownOf references).length,
    dependencies, found]
  rfl

/-- The known names that a name refers to and that have not been visited. -/
def unvisited (g : ReferenceGraph) (done : List String) (name : String) : List String :=
  (g.dependencies name).filter (· ∉ done)

/-- After one more visit a name waits for one less, if it waited for that one. -/
theorem unvisited_concat (g : ReferenceGraph) (done : List String) (name k : String) :
    g.unvisited (done ++ [name]) k = (g.unvisited done k).erase name := by
  have distinct := (g.nodup_dependencies k).filter (· ∉ done)
  rw [unvisited, unvisited, distinct.erase_eq_filter, List.filter_filter]
  refine List.filter_congr fun a _ => Bool.eq_iff_iff.mpr ?_
  simp [not_or, and_comm]

/-! ### What every visit keeps -/

/-- What holds of a search when the names `done` have been visited. -/
structure Search.Follows (g : ReferenceGraph) (done : List String) (s : Search) : Prop where
  /-- A known name waits for what it refers to and has not been visited. -/
  counts : ∀ name ∈ Keyed.keys g,
    Keyed.get? s.waiting name = some (g.unvisited done name).length
  /-- Names that wait for nothing are visited or in the queue. -/
  met : ∀ name, name ∈ done ++ s.queue ↔
    name ∈ Keyed.keys g ∧ g.unvisited done name = []
  /-- No name is visited or in the queue twice. -/
  once : (done ++ s.queue).Nodup
  visited : s.visited = done.length
  grounded : ∀ name ∈ done, g.Grounded name

theorem follows_start (distinct : (Keyed.keys g).Nodup) (listed : names.Perm (Keyed.keys g)) :
    Search.Follows g [] ⟨Text.sorted (names.filter (Keyed.get? g.waiting · == some 0)),
      g.waiting, 0⟩ where
  counts name known := by simpa [unvisited] using get?_waiting known
  met name := by
    simp only [List.nil_append, Text.mem_sorted, List.mem_filter, listed.mem_iff]
    refine and_congr_right fun known => ?_
    simp [get?_waiting known, unvisited]
  once := by
    rw [List.nil_append, (Text.sorted_perm _).nodup_iff]
    exact (listed.nodup_iff.mpr distinct).filter _
  visited := rfl
  grounded := by simp

namespace Search.Follows

/-- The first of the queue waits for nothing, and has not been visited. -/
theorem head (h : Follows g done ⟨name :: queue, waiting, visited⟩) :
    name ∉ done ∧ g.unvisited done name = [] := by
  refine ⟨fun before => ?_, ((h.met name).mp (by simp)).2⟩
  exact (List.nodup_append.mp h.once).2.2 name before name (by simp) rfl

/-- Who depends on the first of the queue waits for it, so no count gets below zero. -/
theorem mem_unvisited_iff (distinct : (Keyed.keys g).Nodup)
    (h : Follows g done ⟨name :: queue, waiting, visited⟩) :
    name ∈ g.unvisited done k ↔ k ∈ g.dependents name := by
  rw [unvisited, List.mem_filter, mem_dependencies_iff distinct, mem_dependents_iff]
  simp [h.head.1]

/-- **Ready become the names that waited for the visited name only.** -/
theorem mem_ready_iff (distinct : (Keyed.keys g).Nodup)
    (h : Follows g done ⟨name :: queue, waiting, visited⟩) :
    k ∈ (waiting.releaseAll (g.dependents name)).2 ↔
      k ∈ Keyed.keys g ∧ g.unvisited done k = [name] := by
  obtain ⟨-, ready⟩ := Waiting.releaseAll_spec (nodup_dependents distinct name) waiting
  rw [ready, List.mem_filter, ← h.mem_unvisited_iff distinct]
  constructor
  · rintro ⟨waits, last⟩
    have known : k ∈ Keyed.keys g :=
      mem_keys_of_refers (mem_dependents_iff.mp ((h.mem_unvisited_iff distinct).mp waits)).1
    have count := h.counts k known
    rw [of_decide_eq_true last, Option.some_inj] at count
    obtain ⟨only, single⟩ := List.length_eq_one_iff.mp count.symm
    rw [single, List.mem_singleton] at waits
    exact ⟨known, waits ▸ single⟩
  · rintro ⟨known, only⟩
    exact ⟨by simp [only], by simp [h.counts k known, only]⟩

/-- Taking a name from the queue to the visited ones changes nothing about who is met. -/
theorem met_head (h : Follows g done ⟨name :: queue, waiting, visited⟩) (k : String) :
    k ∈ done ++ [name] ++ queue ↔ k ∈ Keyed.keys g ∧ g.unvisited done k = [] := by
  rw [List.append_assoc]
  exact h.met k

/-- All that the first of the queue refers to has been visited or is unknown. -/
theorem grounded_head (distinct : (Keyed.keys g).Nodup)
    (h : Follows g done ⟨name :: queue, waiting, visited⟩) : g.Grounded name := by
  refine .intro _ fun b refers => ?_
  by_cases listed : b ∈ Keyed.keys g
  · have dependency := (mem_dependencies_iff distinct).mpr ⟨refers, listed⟩
    have gone := List.filter_eq_nil_iff.mp h.head.2 b dependency
    exact h.grounded b (by simpa using gone)
  · exact grounded_of_notMem listed

/-- **A visit**: who refers to the visited name waits for one name less, and those that
waited for no other get into the queue. -/
theorem visit (distinct : (Keyed.keys g).Nodup)
    (h : Follows g done ⟨name :: queue, waiting, visited⟩) :
    Follows g (done ++ [name]) (g.visit name ⟨queue, waiting, visited⟩) where
  counts k known := by
    have released := (Waiting.releaseAll_spec (nodup_dependents distinct name) waiting).1 k
    simp only [← h.mem_unvisited_iff distinct, h.counts k known] at released
    rw [unvisited_concat, List.length_erase]
    refine released.trans ?_
    split <;> rfl
  met k := by
    rw [ReferenceGraph.visit, ← List.append_assoc, List.mem_append, Text.mem_sorted, h.met_head,
      h.mem_ready_iff distinct, unvisited_concat, List.erase_eq_nil_iff, and_or_left]
  once := by
    rw [ReferenceGraph.visit, ← List.append_assoc]
    refine List.nodup_append.mpr ⟨List.append_assoc .. ▸ h.once, ?_, ?_⟩
    · have ready := (Waiting.releaseAll_spec (nodup_dependents distinct name) waiting).2
      rw [(Text.sorted_perm _).nodup_iff, ready]
      exact (nodup_dependents distinct name).filter _
    · -- who waits for the visited name has not been met, as it waits for something
      rintro k old _ fresh rfl
      rw [Text.mem_sorted, h.mem_ready_iff distinct, ((h.met_head k).mp old).2] at fresh
      exact absurd fresh.2.symm (List.cons_ne_nil name [])
  visited := by simpa [ReferenceGraph.visit] using h.visited
  grounded k mem := by
    rcases List.mem_append.mp mem with earlier | last
    · exact h.grounded k earlier
    · obtain rfl := List.mem_singleton.mp last
      exact h.grounded_head distinct

/-- **The whole search**: it goes on until the queue is empty. -/
theorem search (distinct : (Keyed.keys g).Nodup) (h : Follows g done s) :
    (g.search s).queue = [] ∧ ∃ done, Follows g done (g.search s) := by
  fun_induction g.search s generalizing done with
  | case1 => exact ⟨rfl, done, h⟩
  | case2 name queue waiting visited ih => exact ih (h.visit distinct)

/-- **When the queue is empty, the grounded names have been visited.** By induction on the
ways from a name: it waits for nothing once all it refers to has been visited. -/
theorem mem_done_iff (distinct : (Keyed.keys g).Nodup) (h : Follows g done s)
    (ended : s.queue = []) : name ∈ done ↔ name ∈ Keyed.keys g ∧ g.Grounded name := by
  have met := h.met
  rw [ended, List.append_nil] at met
  refine ⟨fun mem => ⟨((met name).mp mem).1, h.grounded name mem⟩, ?_⟩
  rintro ⟨known, grounded⟩
  induction grounded with
  | intro name _ ih =>
    refine (met name).mpr ⟨known, List.filter_eq_nil_iff.mpr fun b dependency => ?_⟩
    obtain ⟨refers, listed⟩ := (mem_dependencies_iff distinct).mp dependency
    simpa using ih b refers listed

end Search.Follows

/-! ### What is found -/

section Found

variable {before after : List String}

theorem follows_searched (distinct : (Keyed.keys g).Nodup) (listed : before.Perm (Keyed.keys g)) :
    (g.searched before).queue = [] ∧ ∃ done, Search.Follows g done (g.searched before) :=
  (follows_start distinct listed).search distinct

/-- **The cycle members are the names that lead to a cycle.** When as many names have been
visited as there are, all have. -/
theorem mem_cycleMembersVia_iff (distinct : (Keyed.keys g).Nodup)
    (first : before.Perm (Keyed.keys g)) (last : after.Perm (Keyed.keys g)) :
    name ∈ g.cycleMembersVia before after ↔ g.LeadsToCycle name := by
  obtain ⟨ended, done, h⟩ := follows_searched distinct first
  have finished (k : String) : k ∈ done ↔ k ∈ Keyed.keys g ∧ g.Grounded k :=
    h.mem_done_iff distinct ended
  have left_over : name ∈ g.cycleMembersVia before after ↔
      name ∈ Keyed.keys g ∧ name ∉ done := by
    unfold cycleMembersVia
    dsimp only
    split
    · next all =>
      have part : done.Subperm (Keyed.keys g) :=
        (List.nodup_append.mp h.once).1.subperm fun k mem => ((finished k).mp mem).1
      have whole := part.perm_of_length_le (by rw [← h.visited, all, Keyed.keys, List.length_map])
      simp [whole.mem_iff]
    · rw [Text.mem_sorted, List.mem_filter, last.mem_iff]
      refine and_congr_right fun known => ?_
      have met := h.met name
      rw [ended, List.append_nil] at met
      simp [h.counts name known, met, known, Nat.pos_iff_ne_zero]
  rw [left_over, ← not_grounded_iff, finished, not_and]
  constructor
  · rintro ⟨known, open_⟩
    exact open_ known
  · intro open_
    refine ⟨?_, fun _ => open_⟩
    exact by_contra fun unknown => open_ (grounded_of_notMem unknown)

theorem strictly_ordered_cycleMembersVia (distinct : (Keyed.keys g).Nodup)
    (last : after.Perm (Keyed.keys g)) :
    (g.cycleMembersVia before after).Pairwise fun a b => Text.order a b = .lt := by
  unfold cycleMembersVia
  dsimp only
  split
  · exact .nil
  · exact Text.strictly_sorted ((last.nodup_iff.mpr distinct).filter _)

/-- **In which order the names are listed makes no difference.** -/
theorem cycleMembersVia_eq (distinct : (Keyed.keys g).Nodup)
    (first : before.Perm (Keyed.keys g)) (last : after.Perm (Keyed.keys g)) :
    g.cycleMembersVia before after = g.cycleMembers :=
  Text.eq_of_strictly_ordered (strictly_ordered_cycleMembersVia distinct last)
    (strictly_ordered_cycleMembersVia distinct .rfl) fun _ =>
      (mem_cycleMembersVia_iff distinct first last).trans
        (mem_cycleMembersVia_iff distinct .rfl .rfl).symm

/-- Something leads to a cycle exactly when there is one. -/
theorem exists_leadsToCycle_iff :
    (∃ name, g.LeadsToCycle name) ↔ ∃ name, TransGen g.KnownRefers name name :=
  ⟨fun ⟨_, member, _, cycle⟩ => ⟨member, cycle⟩, fun ⟨name, cycle⟩ => ⟨name, name, .refl, cycle⟩⟩

/-- **There are cycle members exactly when there is a cycle.** -/
theorem cycleMembers_eq_nil_iff (distinct : (Keyed.keys g).Nodup) :
    g.cycleMembers = [] ↔ g.Acyclic := by
  simp only [List.eq_nil_iff_forall_not_mem, cycleMembers,
    mem_cycleMembersVia_iff distinct .rfl .rfl, Acyclic]
  rw [← not_exists, exists_leadsToCycle_iff, not_exists]
  exact forall_congr' fun _ => not_congr transGen_self_iff

/-- **The search for cycles is exact**, in whatever order the known names are listed before
and after it. It gives, strictly in the order of texts, the names from which some way along
known names leads to a name on a cycle of known names; none exactly when there is no cycle;
and always the same names. -/
theorem cycleMembersVia_exact (distinct : (Keyed.keys g).Nodup)
    (first : before.Perm (Keyed.keys g)) (last : after.Perm (Keyed.keys g)) :
    ((g.cycleMembersVia before after).Pairwise fun a b => Text.order a b = .lt) ∧
      (∀ name, name ∈ g.cycleMembersVia before after ↔
        ∃ member, ReflTransGen g.KnownRefers name member ∧
          TransGen g.KnownRefers member member) ∧
      (g.cycleMembersVia before after = [] ↔ ∀ name, ¬ TransGen g.KnownRefers name name) ∧
      g.cycleMembersVia before after = g.cycleMembers := by
  refine ⟨strictly_ordered_cycleMembersVia distinct last, fun name => ?_, ?_,
    cycleMembersVia_eq distinct first last⟩
  · exact mem_cycleMembersVia_iff distinct first last
  · rw [cycleMembersVia_eq distinct first last, cycleMembers_eq_nil_iff distinct]
    exact forall_congr' fun _ => not_congr transGen_self_iff.symm

/-- A circle of two views that refer to each other more than once, a view that leads to it,
one that refers to itself, and two that lead to neither. -/
def entangled : ReferenceGraph :=
  [("b", ["a", "a", "unknown"]), ("a", ["b", "b"]), ("f", ["d", "d"]), ("c", ["d", "a"]),
    ("e", ["e"]), ("d", ["unknown"])]

theorem cycleMembersVia_exact_entangled :
    (Keyed.keys entangled).Nodup ∧
      ["f", "d", "e", "c", "a", "b"].Perm (Keyed.keys entangled) ∧
      ["c", "e", "f", "b", "d", "a"].Perm (Keyed.keys entangled) ∧
      entangled.cycleMembersVia ["f", "d", "e", "c", "a", "b"] ["c", "e", "f", "b", "d", "a"] =
        ["a", "b", "c", "e"] ∧
      entangled.cycleMembers = ["a", "b", "c", "e"] ∧
      (∃ member, ReflTransGen entangled.KnownRefers "c" member ∧
        TransGen entangled.KnownRefers member member) ∧
      ¬ ∃ member, ReflTransGen entangled.KnownRefers "f" member ∧
        TransGen entangled.KnownRefers member member := by
  have distinct : (Keyed.keys entangled).Nodup := by decide
  have first : ["f", "d", "e", "c", "a", "b"].Perm (Keyed.keys entangled) := by decide
  have last : ["c", "e", "f", "b", "d", "a"].Perm (Keyed.keys entangled) := by decide
  have found : entangled.cycleMembersVia ["f", "d", "e", "c", "a", "b"]
      ["c", "e", "f", "b", "d", "a"] = ["a", "b", "c", "e"] := by cbv
  obtain ⟨-, members, -, same⟩ := cycleMembersVia_exact distinct first last
  rw [found] at members same
  exact ⟨distinct, first, last, found, same.symm, (members "c").mp (by decide),
    fun leads => absurd ((members "f").mpr leads) (by decide)⟩

end Found

end ReferenceGraph

end BookmarkViews
