import BookmarkViews.Sorting.Basic
import Mathlib.Data.List.Pairwise
import Mathlib.Data.List.Perm.Basic
import Mathlib.Order.Compare

/-!
Stable order by a comparison.

A list is stably sorted when it has the items of another list, none before a lesser one, and
items that are equal to one another in the order of that list. Where a comparison is a total
preorder of the items, there is exactly one such list (`StablySorted.unique`), merge sort
gives it (`stablySorted_mergeSort`), a stable sort does not give up
(`Sorting.stableSort?_of_preorder`), and sorting by a second comparison and then by a first
one is sorting by both, the first before the second (`StablySorted.lex`).

The laws are asked of the items alone: a comparison that fails elsewhere still sorts them.
-/

namespace BookmarkViews

open Std (OrientedCmp ReflCmp TransCmp)

variable {α : Type} {cmp first second : α → α → Ordering} {items more sorted sorted' : List α}

/-! ### Comparisons -/

/-- A comparison is a total preorder of the items. -/
structure PreorderOn (cmp : α → α → Ordering) (items : List α) : Prop where
  laws : TransCmp fun a b : {a // a ∈ items} => cmp a b

namespace PreorderOn

theorem mono (h : PreorderOn cmp items) (sub : more ⊆ items) : PreorderOn cmp more where
  laws :=
    { eq_swap {a b} := h.laws.eq_swap (a := ⟨a, sub a.2⟩) (b := ⟨b, sub b.2⟩)
      isLE_trans {a b c} :=
        h.laws.isLE_trans (a := ⟨a, sub a.2⟩) (b := ⟨b, sub b.2⟩) (c := ⟨c, sub c.2⟩) }

theorem self (h : PreorderOn cmp items) {a : α} (ha : a ∈ items) : cmp a a = .eq :=
  have := h.laws
  @ReflCmp.compare_self _ (fun a b : {a // a ∈ items} => cmp a b) _ ⟨a, ha⟩

theorem antisymm (h : PreorderOn cmp items) {a b : α} (ha : a ∈ items) (hb : b ∈ items)
    (upward : (cmp a b).isLE) (downward : (cmp b a).isLE) : cmp a b = .eq :=
  have := h.laws
  @OrientedCmp.isLE_antisymm _ (fun a b : {a // a ∈ items} => cmp a b) _ ⟨a, ha⟩ ⟨b, hb⟩
    upward downward

/-- **A preorder within the ties of another is a preorder.** -/
theorem lex (h : PreorderOn first items) (h' : PreorderOn second items) :
    PreorderOn (fun a b => (first a b).then (second a b)) items where
  laws :=
    have := h.laws
    have := h'.laws
    inferInstanceAs (TransCmp (compareLex (fun a b : {a // a ∈ items} => first a b)
      fun a b : {a // a ∈ items} => second a b))

end PreorderOn

/-! ### Stable order -/

/-- The items of a list in stable order. -/
structure StablySorted (cmp : α → α → Ordering) (items sorted : List α) : Prop where
  perm : sorted.Perm items
  ordered : sorted.Pairwise fun a b => (cmp a b).isLE
  stable : ∀ a ∈ items, sorted.filter (cmp a · == .eq) = items.filter (cmp a · == .eq)

/-- **A list is determined by its items, their order, and the order of equal items.** The
first items of two such lists are equal to each other, and stand first among these. -/
theorem eq_of_stable (h : PreorderOn cmp sorted) (perm : sorted.Perm sorted')
    (ordered : sorted.Pairwise fun a b => (cmp a b).isLE)
    (ordered' : sorted'.Pairwise fun a b => (cmp a b).isLE)
    (stable : ∀ a ∈ sorted, sorted.filter (cmp a · == .eq) = sorted'.filter (cmp a · == .eq)) :
    sorted = sorted' := by
  induction sorted generalizing sorted' with
  | nil => exact perm.nil_eq
  | cons a rest ih =>
    cases sorted' with
    | nil => exact perm.eq_nil
    | cons b rest' =>
      rw [List.pairwise_cons] at ordered ordered'
      have ha : a ∈ a :: rest := List.mem_cons_self
      have hb : b ∈ a :: rest := perm.mem_iff.mpr List.mem_cons_self
      have tied : cmp a b = .eq := by
        refine h.antisymm ha hb ?_ ?_
        · rcases List.mem_cons.mp hb with rfl | later
          · simp [h.self ha]
          · exact ordered.1 b later
        · rcases List.mem_cons.mp (perm.mem_iff.mp ha) with rfl | later
          · simp [h.self ha]
          · exact ordered'.1 a later
      obtain rfl : a = b := by
        have front := congrArg List.head? (stable a ha)
        rwa [List.filter_cons_of_pos (by simp [h.self ha]), List.filter_cons_of_pos (by simp [tied]),
          List.head?_cons, List.head?_cons, Option.some_inj] at front
      refine congrArg (a :: ·) (ih (h.mono (List.subset_cons_self _ _)) perm.cons_inv ordered.2
        ordered'.2 fun c hc => ?_)
      have same := stable c (List.mem_cons_of_mem _ hc)
      rw [List.filter_cons, List.filter_cons] at same
      split_ifs at same
      · exact (List.cons_inj_right a).mp same
      · exact same

namespace StablySorted

/-- **There is one stable order.** -/
theorem unique (laws : PreorderOn cmp items) (h : StablySorted cmp items sorted)
    (h' : StablySorted cmp items sorted') : sorted = sorted' := by
  refine eq_of_stable (laws.mono h.perm.subset) (h.perm.trans h'.perm.symm) h.ordered h'.ordered ?_
  intro a ha
  have mem := h.perm.mem_iff.mp ha
  rw [h.stable a mem, h'.stable a mem]

/-- A list in stable order is its own stable order. -/
theorem refl (h : StablySorted cmp items sorted) : StablySorted cmp sorted sorted :=
  ⟨.refl _, h.ordered, fun _ _ => rfl⟩

/-- Items that are all equal are in stable order. -/
theorem refl_of_tied (tied : ∀ a ∈ items, ∀ b ∈ items, cmp a b = .eq) :
    StablySorted cmp items items :=
  ⟨.refl _, List.pairwise_of_forall_mem_list fun a ha b hb => by simp [tied a ha b hb],
    fun _ _ => rfl⟩

/-- **Stable order by a second comparison, and then by a first one, is stable order by
both.** What the first one leaves tied keeps the order of the second. -/
theorem lex (laws : PreorderOn first items) (h : StablySorted second items more)
    (h' : StablySorted first more sorted) :
    StablySorted (fun a b => (first a b).then (second a b)) items sorted where
  perm := h'.perm.trans h.perm
  ordered := by
    have onward := h'.ordered
    rw [List.pairwise_iff_forall_sublist] at onward ⊢
    intro a b pair
    have ha : a ∈ more := h'.perm.subset (pair.subset List.mem_cons_self)
    cases tied : first a b with
    | lt => rfl
    | gt => exact absurd (onward pair) (by simp [tied])
    | eq =>
      -- the pair is among the items equal to the first of it, and these kept their order
      have own : [a, b].filter (first a · == .eq) = [a, b] := by
        simp [tied, laws.self (h.perm.subset ha)]
      have before : [a, b].Sublist more := by
        have kept := pair.filter (first a · == .eq)
        rw [own, h'.stable a ha] at kept
        exact kept.trans List.filter_sublist
      exact List.pairwise_iff_forall_sublist.mp h.ordered before
  stable := by
    intro a ha
    have both (l : List α) : l.filter (fun b => (first a b).then (second a b) == .eq) =
        (l.filter (second a · == .eq)).filter (first a · == .eq) := by
      rw [List.filter_filter]
      refine List.filter_congr fun b _ => ?_
      cases first a b <;> simp
    have both' (l : List α) : l.filter (fun b => (first a b).then (second a b) == .eq) =
        (l.filter (first a · == .eq)).filter (second a · == .eq) := by
      rw [both, List.filter_comm]
    rw [both', h'.stable a (h.perm.mem_iff.mpr ha), ← both', both, h.stable a ha, ← both]

end StablySorted

/-! ### Merge sort -/

theorem isLE_total [OrientedCmp cmp] (a b : α) :
    ((cmp a b).isLE || (cmp b a).isLE) = true := by
  rw [@OrientedCmp.eq_swap _ cmp _ b a]
  cases cmp a b <;> rfl

/-- Merge sort by a lawful comparison keeps the order of items that are equal to one. They
are in order before the sort, and such a part of a list is a part of the sorted list. -/
theorem filter_mergeSort [TransCmp cmp] (items : List α) (a : α) :
    (items.mergeSort fun a b => (cmp a b).isLE).filter (cmp a · == .eq) =
      items.filter (cmp a · == .eq) := by
  have ordered : (items.filter (cmp a · == .eq)).Pairwise fun b c => (cmp b c).isLE := by
    refine List.pairwise_of_forall_mem_list fun b hb c hc => ?_
    have hb : cmp a b = .eq := by simpa using (List.mem_filter.mp hb).2
    have hc : cmp a c = .eq := by simpa using (List.mem_filter.mp hc).2
    have tied : cmp b c = .eq := TransCmp.eq_trans (OrientedCmp.eq_symm hb) hc
    simp [tied]
  have part := List.sublist_mergeSort (fun _ _ _ => TransCmp.isLE_trans) isLE_total ordered
    List.filter_sublist
  have part' := part.filter (cmp a · == .eq)
  rw [List.filter_filter, List.filter_congr fun b _ => Bool.and_self _] at part'
  exact (part'.eq_of_length ((List.mergeSort_perm _ _).filter _).length_eq.symm).symm

theorem StablySorted.map {β : Type} (f : α → β) {cmp : β → β → Ordering}
    (h : StablySorted (fun a b => cmp (f a) (f b)) items sorted) :
    StablySorted cmp (items.map f) (sorted.map f) where
  perm := h.perm.map f
  ordered := List.pairwise_map.mpr h.ordered
  stable b hb := by
    obtain ⟨a, ha, rfl⟩ := List.mem_map.mp hb
    rw [List.filter_map, List.filter_map]
    exact congrArg (List.map f) (h.stable a ha)

/-- **Merge sort gives the stable order.** The items are sorted as members of their own list,
among which the comparison is lawful everywhere. -/
theorem stablySorted_mergeSort (h : PreorderOn cmp items) :
    StablySorted cmp items (items.mergeSort fun a b => (cmp a b).isLE) := by
  have := h.laws
  let among (a b : {a // a ∈ items}) : Ordering := cmp a b
  have own : StablySorted among items.attach (items.attach.mergeSort fun a b => (among a b).isLE) :=
    { perm := List.mergeSort_perm _ _
      ordered := List.pairwise_mergeSort (fun _ _ _ => TransCmp.isLE_trans) isLE_total _
      stable a _ := filter_mergeSort items.attach a }
  have sorted := own.map Subtype.val
  rwa [List.map_mergeSort (s := fun a b => (cmp a b).isLE) fun _ _ _ _ => rfl,
    List.attach_map_subtype_val] at sorted

/-! ### Ranks -/

namespace Sorting

/-- An item that is less than another one has fewer items before it: it is one of those
before the other. -/
theorem rank_lt [TransCmp cmp] {a b : α} (ha : a ∈ items) (less : cmp a b = .lt) :
    rank cmp items a < rank cmp items b := by
  have also (c : α) (before : (cmp c a == .lt) = true) : (cmp c b == .lt) = true := by
    rw [beq_iff_eq] at before ⊢
    exact TransCmp.lt_trans before less
  have more (part : List α) : rank cmp part a ≤ rank cmp part b :=
    List.countP_mono_left fun c _ => also c
  obtain ⟨front, back, rfl⟩ := List.append_of_mem ha
  have split (c : α) : rank cmp (front ++ a :: back) c =
      rank cmp front c + (rank cmp back c + if cmp a c == .lt then 1 else 0) := by
    rw [rank, List.countP_append, List.countP_cons, rank, rank]
  have self : (if cmp a a == .lt then 1 else 0) = 0 := by simp [ReflCmp.compare_self]
  have one : (if cmp a b == .lt then 1 else 0) = 1 := by simp [less]
  rw [split, split, self, one]
  exact Nat.add_lt_add_of_le_of_lt (more front) (Nat.lt_succ_of_le (more back))

/-- **A lawful comparison compares ranks.** -/
theorem compare_rank [TransCmp cmp] {a b : α} (ha : a ∈ items) (hb : b ∈ items) :
    cmp a b = compare (rank cmp items a) (rank cmp items b) := by
  cases order : cmp a b with
  | lt => exact (Nat.compare_eq_lt.mpr (rank_lt ha order)).symm
  | eq =>
    have same : rank cmp items a = rank cmp items b :=
      List.countP_congr fun c _ => by rw [TransCmp.congr_right order]
    rw [same]
    exact (Nat.compare_eq_eq.mpr rfl).symm
  | gt => exact (Nat.compare_eq_gt.mpr (rank_lt hb (OrientedCmp.lt_of_gt order))).symm

theorem isOrdered_iff_rank : isOrdered cmp items = true ↔
    ∀ a ∈ items, ∀ b ∈ items, cmp a b = compare (rank cmp items a) (rank cmp items b) := by
  simp [isOrdered]

/-- **The ranks tell whether a comparison is a total preorder of the items.** -/
theorem isOrdered_iff : isOrdered cmp items = true ↔ PreorderOn cmp items := by
  rw [isOrdered_iff_rank]
  constructor
  · intro ranked
    have same : (fun a b : {a // a ∈ items} => cmp a b) =
        compareOn fun a : {a // a ∈ items} => rank cmp items a :=
      funext fun a => funext fun b => ranked a a.2 b b.2
    exact ⟨same ▸ inferInstance⟩
  · intro h a ha b hb
    have := h.laws
    let among (a b : {a // a ∈ items}) : Ordering := cmp a b
    have own (c : {a // a ∈ items}) : rank among items.attach c = rank cmp items c := by
      have along := List.countP_map (p := fun b => cmp b c == .lt) (l := items.attach)
        (f := Subtype.val)
      rw [List.attach_map_subtype_val] at along
      exact along.symm
    have lawful : among ⟨a, ha⟩ ⟨b, hb⟩ = _ :=
      compare_rank (List.mem_attach items _) (List.mem_attach items _)
    rwa [own, own] at lawful

/-- **A stable sort by a total preorder gives the stable order**, and does not give up. -/
theorem stableSort?_of_preorder (h : PreorderOn cmp items) :
    ∃ sorted, stableSort? cmp items = some sorted ∧ StablySorted cmp items sorted :=
  ⟨_, if_pos (isOrdered_iff.mpr h), stablySorted_mergeSort h⟩

end Sorting

/-! ### Blocks -/

/-- Where no item of a kind comes behind one of another kind, the items of the kind are a
block at the start. -/
theorem exists_block {p : α → Prop} (h : items.Pairwise fun a b => p b → p a) :
    ∃ front back, items = front ++ back ∧ (∀ a ∈ front, p a) ∧ ∀ a ∈ back, ¬ p a := by
  induction items with
  | nil => exact ⟨[], [], rfl, nofun, nofun⟩
  | cons a items ih =>
    obtain ⟨behind, rest⟩ := List.pairwise_cons.mp h
    by_cases ha : p a
    · obtain ⟨front, back, rfl, hfront, hback⟩ := ih rest
      exact ⟨a :: front, back, rfl, List.forall_mem_cons.mpr ⟨ha, hfront⟩, hback⟩
    · have none_later : ∀ b ∈ items, ¬ p b := fun b hb hp => ha (behind b hb hp)
      exact ⟨[], a :: items, rfl, nofun, List.forall_mem_cons.mpr ⟨ha, none_later⟩⟩

end BookmarkViews
