import BookmarkViews.View.Cycles
import Mathlib.Data.List.Chain
import Mathlib.Logic.Relation
import Mathlib.Order.WellFoundedSet

/-!
References among views as a relation, and their cycles.

A name is grounded when every way along references from it ends. A walk that comes back
to where it started is a cycle (`ClosedWalk.transGen`), and as finitely many names refer
to others, a way that does not end leads to a cycle: `not_grounded_iff`.
-/

namespace BookmarkViews

open Relation (ReflTransGen TransGen)

/-! ### Closed walks -/

/-- A list of names that starts and ends with one name and follows a relation. -/
def ClosedWalk (R : String → String → Prop) (path : List String) : Prop :=
  ∃ name middle, path = name :: (middle ++ [name]) ∧ List.IsChain R path

/-- The last name of a walk can be reached from the first. -/
theorem transGen_of_isChain {R : String → String → Prop} {a b : String} {middle : List String}
    (walk : List.IsChain R (a :: (middle ++ [b]))) : TransGen R a b := by
  induction middle generalizing a with
  | nil =>
    rw [List.nil_append, List.isChain_cons_cons] at walk
    exact .single walk.1
  | cons c middle ih =>
    rw [List.cons_append, List.isChain_cons_cons] at walk
    exact .head walk.1 (ih walk.2)

theorem ClosedWalk.transGen {R : String → String → Prop} {path : List String}
    (h : ClosedWalk R path) : ∃ name, TransGen R name name := by
  obtain ⟨name, middle, rfl, walk⟩ := h
  exact ⟨name, transGen_of_isChain walk⟩

namespace ReferenceGraph

variable {g : ReferenceGraph} {a b name : String}

/-- A known name refers to another name, which need not be known. -/
def Refers (g : ReferenceGraph) (a b : String) : Prop :=
  ∃ references, (a, references) ∈ g ∧ b ∈ references

/-- A known name refers to a known name. -/
def KnownRefers (g : ReferenceGraph) (a b : String) : Prop :=
  g.Refers a b ∧ b ∈ Keyed.keys g

/-- No name reaches itself through references. -/
def Acyclic (g : ReferenceGraph) : Prop :=
  ∀ name, ¬ TransGen g.Refers name name

/-- Some way from a name along known names comes to a cycle of known names, or the name
itself is on one. -/
def LeadsToCycle (g : ReferenceGraph) (name : String) : Prop :=
  ∃ member, ReflTransGen g.KnownRefers name member ∧ TransGen g.KnownRefers member member

theorem mem_keys_of_refers (h : g.Refers a b) : a ∈ Keyed.keys g := by
  obtain ⟨references, mem, _⟩ := h
  exact List.mem_map_of_mem mem

/-! ### Ways along known names -/

theorem mem_keys_of_transGen (way : TransGen g.Refers a b) : a ∈ Keyed.keys g := by
  obtain ⟨_, refers, _⟩ := Relation.TransGen.head'_iff.mp way
  exact mem_keys_of_refers refers

/-- A way to a known name is along known names: those before it refer to others. -/
theorem transGen_knownRefers_iff (known : b ∈ Keyed.keys g) :
    TransGen g.KnownRefers a b ↔ TransGen g.Refers a b := by
  refine ⟨Relation.TransGen.mono (fun _ _ step => step.1) _ _, fun way => ?_⟩
  induction way using Relation.TransGen.head_induction_on with
  | single step => exact .single ⟨step, known⟩
  | head step rest ih => exact .head ⟨step, mem_keys_of_transGen rest⟩ ih

theorem transGen_self_iff : TransGen g.KnownRefers a a ↔ TransGen g.Refers a a := by
  constructor
  · exact Relation.TransGen.mono (fun _ _ step => step.1) _ _
  · exact fun way => (transGen_knownRefers_iff (mem_keys_of_transGen way)).mpr way

theorem leadsToCycle_iff : g.LeadsToCycle name ↔
    ∃ member, ReflTransGen g.Refers name member ∧ TransGen g.Refers member member := by
  refine exists_congr fun member => ?_
  rw [transGen_self_iff]
  refine and_congr_left fun cycle => ?_
  have known := mem_keys_of_transGen cycle
  rw [Relation.reflTransGen_iff_eq_or_transGen, Relation.reflTransGen_iff_eq_or_transGen,
    transGen_knownRefers_iff known]

/-! ### Grounded names -/

/-- Every way along references from a name ends. -/
def Grounded (g : ReferenceGraph) (name : String) : Prop :=
  Acc (fun b a => g.Refers a b) name

/-- An unknown name refers to nothing. -/
theorem grounded_of_notMem (h : name ∉ Keyed.keys g) : g.Grounded name :=
  .intro _ fun _ refers => absurd (mem_keys_of_refers refers) h

/-- A grounded name is not on a cycle, as going round it would not end. -/
theorem Grounded.not_transGen_self (h : g.Grounded name) : ¬ TransGen g.Refers name name := by
  have ends := h.transGen
  clear h
  induction ends with
  | intro name _ ih =>
    exact fun cycle => ih name (Relation.transGen_swap.mp cycle) cycle

theorem Grounded.of_reflTransGen (h : g.Grounded a) (way : ReflTransGen g.Refers a b) :
    g.Grounded b := by
  induction way with
  | refl => exact h
  | tail _ step ih => exact ih.inv step

/-- From a grounded name no way leads to a cycle. -/
theorem Grounded.not_leadsToCycle (h : g.Grounded name) : ¬ g.LeadsToCycle name := by
  rw [leadsToCycle_iff]
  rintro ⟨member, way, cycle⟩
  exact (h.of_reflTransGen way).not_transGen_self cycle

/-- **A way that does not end leads to a cycle.** Where no name on the way is on a cycle,
being farther along is a strict order of the finitely many known names. -/
theorem grounded_of_not_leadsToCycle (h : ¬ g.LeadsToCycle name) : g.Grounded name := by
  rw [leadsToCycle_iff, not_exists] at h
  let farther (b a : String) : Prop := ReflTransGen g.Refers name a ∧ TransGen g.Refers a b
  have : IsStrictOrder String farther :=
    { irrefl := fun a around => h a around
      trans := fun _ _ _ second first => ⟨first.1, first.2.trans second.2⟩ }
  have ends : {name | name ∈ Keyed.keys g}.WellFoundedOn farther :=
    (List.finite_toSet _).wellFoundedOn
  have reached : ∀ a ∈ Keyed.keys g, ReflTransGen g.Refers name a → g.Grounded a := by
    intro a known
    refine ends.induction (P := fun a => ReflTransGen g.Refers name a → g.Grounded a) known ?_
    intro a _ ih way
    refine .intro _ fun b refers => ?_
    by_cases listed : b ∈ Keyed.keys g
    · exact ih b listed ⟨way, .single refers⟩ (way.tail refers)
    · exact grounded_of_notMem listed
  by_cases known : name ∈ Keyed.keys g
  · exact reached name known .refl
  · exact grounded_of_notMem known

/-- **The names that are not grounded are those that lead to a cycle.** -/
theorem not_grounded_iff : ¬ g.Grounded name ↔ g.LeadsToCycle name :=
  ⟨fun h => by_contra fun none => h (grounded_of_not_leadsToCycle none),
    fun h grounded => grounded.not_leadsToCycle h⟩

/-- Fewer references do not make a cycle. -/
theorem Acyclic.mono {g' : ReferenceGraph} (acyclic : g'.Acyclic) (sub : g ⊆ g') : g.Acyclic := by
  intro name cycle
  refine acyclic name (Relation.TransGen.mono ?_ _ _ cycle)
  rintro a b ⟨references, mem, refers⟩
  exact ⟨references, sub mem, refers⟩

end ReferenceGraph

end BookmarkViews
