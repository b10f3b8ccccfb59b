import BookmarkViews.Sorting.Basic
import Mathlib.Data.List.Count
import Mathlib.Data.List.Perm.Basic

/-!
The steps of a sort keep all items.

A sort may give up where the comparison is no order, and what it gives there need not be in
any order; but it gives every item once, whatever the comparison (`perm_of_stableSort?`).
For most steps this is plain. The merge of two halves from both ends takes its items without
looking whether the other end has them; that both ends together took each half once is what
it checks in the end (`perm_of_mergeHalves`).
-/

namespace BookmarkViews.Sorting

variable {α : Type} {less : α → α → Bool} {items sorted : List α}

/-! ### Small lists -/

theorem insertBack_perm (x : α) (back : List α) : (insertBack less x back).Perm (x :: back) := by
  induction back with
  | nil => exact .refl _
  | cons y back ih =>
    rw [insertBack]
    split
    · exact (ih.cons y).trans (.swap x y back)
    · exact .refl _

theorem insertAll_perm (sorted items : List α) :
    (insertAll less sorted items).Perm (sorted ++ items) := by
  have put (back : List α) :
      (items.foldl (fun back x => insertBack less x back) back).Perm (back ++ items) := by
    induction items generalizing back with
    | nil => rw [List.append_nil, List.foldl_nil]
    | cons x items ih =>
      have one : (insertBack less x back ++ items).Perm (x :: back ++ items) :=
        (insertBack_perm x back).append_right items
      exact (ih _).trans (one.trans List.perm_middle.symm)
  exact (List.reverse_perm _).trans ((put _).trans ((List.reverse_perm sorted).append_right items))

theorem sortFour_perm (a b c d : α) : (sortFour less a b c d).Perm [a, b, c, d] := by
  classical
  rw [List.perm_iff_count]
  intro x
  unfold sortFour
  -- Every outcome of the comparisons lists the four items once.
  cases less b a <;> cases less d c <;> dsimp only [Bool.false_eq_true, if_false, if_true] <;>
    split_ifs <;>
      simp +arith only [List.cons_append, List.nil_append, List.count_cons, List.count_nil]

theorem sortHalf_perm (items : List α) : (sortHalf less items).Perm items := by
  unfold sortHalf
  split
  · next a b c d rest =>
    exact (insertAll_perm _ rest).trans ((sortFour_perm a b c d).append_right rest)
  · exact insertAll_perm [] _

/-! ### Halves -/

theorem perm_takeLeast (n : Nat) (left right : List α) :
    let t := takeLeast less n left right
    t.items.Perm (left.take t.left ++ right.take t.right) := by
  fun_induction takeLeast less n left right with
  | case1 n x left y right _ ih => exact (ih.cons y).trans List.perm_middle.symm
  | case2 n x left y right _ ih => exact ih.cons x
  | case3 => exact .refl _

theorem perm_takeGreatest (n : Nat) (left right : List α) :
    let t := takeGreatest less n left right
    t.items.Perm (left.take t.left ++ right.take t.right) := by
  fun_induction takeGreatest less n left right with
  | case1 n x left y right _ ih => exact ih.cons x
  | case2 n x left y right _ ih => exact (ih.cons y).trans List.perm_middle.symm
  | case3 => exact .refl _

theorem perm_takeOver {left right : List α} {low high : Taken α}
    (h : low.items.Perm (left.take low.left ++ right.take low.right)) :
    let t := takeOver left right low high
    t.items.Perm (left.take t.left ++ right.take t.right) := by
  intro t
  simp only [t, takeOver]
  split
  · rw [List.take_add_one, List.append_assoc]
    refine (h.append_right _).trans ?_
    rw [List.append_assoc]
    exact List.perm_append_comm.append_left _
  · rw [List.take_add_one, ← List.append_assoc]
    exact h.append_right _

/-- **Halves that are merged are merged whole.** What the end takes of a half is what the
start leaves of it, as together they take as many items as it has. -/
theorem perm_of_mergeHalves {left right : List α} (h : mergeHalves less left right = some sorted) :
    sorted.Perm (left ++ right) := by
  have rest {half : List α} {m n : Nat} (all : m + n = half.length) :
      (half.reverse.take n).Perm (half.drop m) := by
    rw [List.take_reverse, show half.length - n = m by omega]
    exact List.reverse_perm _
  unfold mergeHalves at h
  extract_lets low high low' at h
  have lowest : low'.items.Perm (left.take low'.left ++ right.take low'.right) := by
    simp only [low']
    split
    · exact perm_takeLeast _ left right
    · exact perm_takeOver (perm_takeLeast _ left right)
  have highest : high.items.Perm _ := perm_takeGreatest _ left.reverse right.reverse
  split at h
  · next whole =>
    obtain rfl := Option.some_inj.mp h
    have ends := (List.reverse_perm high.items).trans
      (highest.trans ((rest whole.1).append (rest whole.2)))
    refine (lowest.append ends).trans ?_
    conv_rhs => rw [← List.take_append_drop low'.left left, ← List.take_append_drop low'.right right]
    simp only [List.append_assoc]
    refine List.Perm.append_left _ ?_
    rw [← List.append_assoc, ← List.append_assoc]
    exact List.perm_append_comm.append_right _
  · exact nomatch h

theorem perm_of_sortSmall (h : sortSmall less items = some sorted) : sorted.Perm items := by
  have halves {f : List α → List α} (perm : ∀ l, (f l).Perm l)
      (h : mergeHalves less (f (items.take (items.length / 2))) (f (items.drop (items.length / 2))) =
        some sorted) : sorted.Perm items := by
    refine (perm_of_mergeHalves h).trans (((perm _).append (perm _)).trans ?_)
    rw [List.take_append_drop]
  unfold sortSmall at h
  simp only [List.splitAt_eq] at h
  split at h
  · rw [Option.some_inj.mp h]
  · split at h
    · exact halves sortHalf_perm h
    · exact halves (insertAll_perm []) h

/-! ### Runs -/

/-- A sort that gives every item once, where it gives any. -/
def KeepsItems (sort : List α → Option (List α)) : Prop :=
  ∀ items sorted, sort items = some sorted → sorted.Perm items

section

variable {later? : Option (List α → Option (List α))} {room : Nat}
  (keeps : ∀ sort, later? = some sort → KeepsItems sort)

include keeps

theorem perm_of_settle {run : Run α} (h : run.settle later? = some sorted) :
    sorted.Perm run.items := by
  unfold Run.settle at h
  split at h
  · next sort _ => exact keeps sort rfl _ _ h
  · rw [Option.some_inj.mp h]

omit keeps in
theorem mergeRuns_perm (left right : List α) : (mergeRuns less left right).Perm (left ++ right) := by
  unfold mergeRuns
  split
  · exact List.merge_perm_append _
  · refine (List.reverse_perm _).trans ((List.merge_perm_append _).trans ?_)
    refine ((List.reverse_perm right).append (List.reverse_perm left)).trans ?_
    exact List.perm_append_comm

theorem perm_of_joinRuns {left right run : Run α}
    (h : joinRuns less later? room left right = some run) :
    run.items.Perm (left.items ++ right.items) := by
  unfold joinRuns at h
  split at h
  · obtain ⟨first, settled, h⟩ := Option.bind_eq_some_iff.mp h
    obtain ⟨second, settled', h⟩ := Option.bind_eq_some_iff.mp h
    obtain rfl := Option.some_inj.mp h
    exact (mergeRuns_perm first second).trans
      ((perm_of_settle keeps settled).append (perm_of_settle keeps settled'))
  · obtain rfl := Option.some_inj.mp h
    exact .refl _

end

/-- A cut takes a run off the front, and the run is not empty. -/
theorem perm_of_cutRun {later : Bool} {goodLength : Nat} {run : Run α} {rest : List α}
    (good : 0 < goodLength) (nonempty : items ≠ [])
    (h : cutRun less later goodLength items = some (run, rest)) :
    (run.items ++ rest).Perm items ∧ rest.length < items.length := by
  have shorter {n : Nat} (pos : 0 < n) : (items.drop n).length < items.length := by
    rw [List.length_drop]
    exact Nat.sub_lt (List.length_pos_iff.mpr nonempty) pos
  unfold cutRun at h
  cases front : frontRun less items with
  | mk length descends =>
    simp only [front, List.splitAt_eq] at h
    split at h
    · next long =>
      obtain ⟨rfl, rfl⟩ := Prod.mk.inj (Option.some_inj.mp h)
      refine ⟨?_, shorter (Nat.lt_of_lt_of_le good long.2)⟩
      have turned : (if descends = true then (items.take length).reverse
          else items.take length).Perm (items.take length) := by
        split
        · exact List.reverse_perm _
        · exact .refl _
      exact (turned.append_right _).trans (.of_eq (List.take_append_drop length items))
    · split at h
      · obtain ⟨rfl, rfl⟩ := Prod.mk.inj (Option.some_inj.mp h)
        exact ⟨.of_eq (List.take_append_drop goodLength items), shorter good⟩
      · obtain ⟨sorted, small, h⟩ := Option.bind_eq_some_iff.mp h
        obtain ⟨rfl, rfl⟩ := Prod.mk.inj (Option.some_inj.mp h)
        refine ⟨?_, shorter (by decide)⟩
        have perm := (perm_of_sortSmall small).append_right (items.drop smallLength)
        rwa [List.take_append_drop] at perm

/-- The runs of a list hold its items: as many runs as items are enough, as none is empty. -/
theorem perm_of_cutRuns {later : Bool} {goodLength n : Nat} {runs : List (Run α)}
    (good : items ≠ [] → 0 < goodLength) (enough : items.length ≤ n)
    (h : cutRuns less later goodLength n items = some runs) :
    (runs.flatMap Run.items).Perm items := by
  induction n generalizing items runs with
  | zero =>
    obtain rfl := List.length_eq_zero_iff.mp (Nat.le_zero.mp enough)
    obtain rfl := Option.some_inj.mp h
    exact .refl _
  | succ n ih =>
    cases items with
    | nil =>
      obtain rfl := Option.some_inj.mp h
      exact .refl _
    | cons x items =>
      obtain ⟨⟨run, rest⟩, cut, h⟩ := Option.bind_eq_some_iff.mp h
      obtain ⟨behind, cut', h⟩ := Option.bind_eq_some_iff.mp h
      obtain rfl := Option.some_inj.mp h
      have good := good (List.cons_ne_nil _ _)
      obtain ⟨perm, shorter⟩ := perm_of_cutRun good (List.cons_ne_nil _ _) cut
      rw [List.length_cons] at enough shorter
      exact ((ih (fun _ => good) (by omega) cut').append_left run.items).trans perm

/-! ### The tree of runs -/

section

variable {join : Run α → Run α → Option (Run α)}
  (keeps : ∀ left right run, join left right = some run →
    run.items.Perm (left.items ++ right.items))

/-- Every run lies as deep as the root of the tree, or deeper. -/
theorem eq_nil_of_joinDeeper {before before' : List (Nat × Run α)} {last last' : Run α}
    (h : joinDeeper join 0 before last = some (before', last')) : before' = [] := by
  induction before generalizing last with
  | nil => exact (Prod.mk.inj (Option.some_inj.mp h)).1.symm
  | cons entry before ih =>
    obtain ⟨deep, left⟩ := entry
    rw [joinDeeper, if_pos (Nat.zero_le deep)] at h
    obtain ⟨joined, -, h⟩ := Option.bind_eq_some_iff.mp h
    exact ih h

/-- The items of joined runs and of the last one. -/
def itemsOf (before : List (Nat × Run α)) (last : Run α) : List α :=
  before.flatMap (·.2.items) ++ last.items

include keeps

theorem perm_of_joinDeeper {depth : Nat} {before before' : List (Nat × Run α)} {last last' : Run α}
    (h : joinDeeper join depth before last = some (before', last')) :
    (itemsOf before' last').Perm (itemsOf before last) := by
  induction before generalizing last with
  | nil =>
    obtain ⟨rfl, rfl⟩ := Prod.mk.inj (Option.some_inj.mp h)
    exact .refl _
  | cons entry before ih =>
    obtain ⟨deep, left⟩ := entry
    rw [joinDeeper] at h
    split at h
    · obtain ⟨joined, found, h⟩ := Option.bind_eq_some_iff.mp h
      refine (ih h).trans (((keeps _ _ _ found).append_left _).trans ?_)
      simp only [itemsOf, List.flatMap_cons]
      rw [← List.append_assoc]
      exact List.perm_append_comm.append_right _
    · obtain ⟨rfl, rfl⟩ := Prod.mk.inj (Option.some_inj.mp h)
      exact .refl _

theorem perm_of_joinAlong {n place : Nat} {before : List (Nat × Run α)} {last run : Run α}
    {runs : List (Run α)} (h : joinAlong join n before place last runs = some run) :
    run.items.Perm (itemsOf before last ++ runs.flatMap Run.items) := by
  induction runs generalizing before place last with
  | nil =>
    obtain ⟨⟨before', last'⟩, joined, rfl⟩ := Option.map_eq_some_iff.mp h
    obtain rfl := eq_nil_of_joinDeeper joined
    rw [List.flatMap_nil, List.append_nil]
    exact perm_of_joinDeeper keeps joined
  | cons next runs ih =>
    obtain ⟨⟨before', last'⟩, joined, h⟩ := Option.bind_eq_some_iff.mp h
    have perm := (perm_of_joinDeeper keeps joined).append_right (next.items ++ runs.flatMap Run.items)
    refine (ih h).trans (List.Perm.trans ?_ perm)
    simp only [itemsOf, List.flatMap_cons, List.append_assoc]
    refine List.perm_append_comm_assoc _ _ _

end

theorem rootOf_pos {n : Nat} (many : 2 ≤ n) : 0 < rootOf n := by
  have log : 1 ≤ n.log2 := (Nat.le_log2 (by omega)).mpr many
  have half : 2 ^ 1 ≤ 2 ^ ((1 + n.log2) / 2) := Nat.pow_le_pow_right (by decide) (by omega)
  unfold rootOf
  simp only [Nat.one_shiftLeft]
  exact Nat.div_pos (Nat.le_trans half (Nat.le_add_right _ _)) (by decide)

theorem keepsItems_sortRuns {later? : Option (List α → Option (List α))}
    (keeps : ∀ sort, later? = some sort → KeepsItems sort) (room : Nat) :
    KeepsItems (sortRuns less later? room) := by
  intro items sorted h
  obtain ⟨runs, cut, h⟩ := Option.bind_eq_some_iff.mp h
  have perm := perm_of_cutRuns ?_ (Nat.le_refl _) cut
  · cases runs with
    | nil =>
      obtain rfl := Option.some_inj.mp h
      exact perm
    | cons first runs =>
      obtain ⟨run, joined, h⟩ := Option.bind_eq_some_iff.mp h
      have along := perm_of_joinAlong (fun _ _ _ => perm_of_joinRuns keeps) joined
      exact (perm_of_settle keeps h).trans (along.trans perm)
  · intro nonempty
    have pos := List.length_pos_iff.mpr nonempty
    split
    · omega
    · exact rootOf_pos (by omega)

/-! ### Pivots -/

theorem perm_of_partitionAt {goesBefore : α → Bool} {place : Nat} {pivotBefore : Bool}
    {before rest : List α}
    (h : partitionAt goesBefore place pivotBefore items = (before, rest)) :
    (before ++ rest).Perm items := by
  unfold partitionAt at h
  rw [List.partition_eq_filter_filter] at h
  obtain ⟨rfl, rfl⟩ := Prod.mk.inj h
  rw [← List.map_append]
  have parts := (List.filter_append_perm (fun x : α × Nat =>
    if x.2 = place then pivotBefore else goesBefore x.1) items.zipIdx).map Prod.fst
  rwa [List.zipIdx_map_fst] at parts

theorem keepsItems_sortByPivots (room limit : Nat) (ancestor? : Option α) :
    KeepsItems (sortByPivots less room limit ancestor?) := by
  induction limit generalizing ancestor? with
  | zero =>
    intro items sorted h
    cases items with
    | nil =>
      obtain rfl := Option.some_inj.mp h
      exact .refl _
    | cons first rest =>
      rw [sortByPivots] at h
      split at h
      · exact perm_of_sortSmall h
      · exact keepsItems_sortRuns (by rintro _ ⟨⟩) room _ _ h
      · exact List.cons_ne_nil first rest
  | succ limit ih =>
    intro items sorted h
    cases items with
    | nil =>
      obtain rfl := Option.some_inj.mp h
      exact .refl _
    | cons first rest =>
      rw [sortByPivots] at h
      split at h
      · exact perm_of_sortSmall h
      extract_lets array item place pivot at h
      split at h
      next before behind parts =>
      split at h
      · split at h
        next equal behind' parts' =>
        obtain ⟨rest, sorted_behind, h⟩ := Option.bind_eq_some_iff.mp h
        obtain rfl := Option.some_inj.mp h
        exact ((ih _ _ _ sorted_behind).append_left equal).trans (perm_of_partitionAt parts')
      · obtain ⟨upper, sorted_behind, h⟩ := Option.bind_eq_some_iff.mp h
        obtain ⟨lower, sorted_before, h⟩ := Option.bind_eq_some_iff.mp h
        obtain rfl := Option.some_inj.mp h
        exact ((ih _ _ _ sorted_before).append (ih _ _ _ sorted_behind)).trans
          (perm_of_partitionAt parts)

/-! ### All lists -/

theorem keepsItems_sortBySteps : KeepsItems (sortBySteps less) := by
  intro items sorted h
  unfold sortBySteps at h
  extract_lets n room byPivots at h
  split at h
  · obtain rfl := Option.some_inj.mp h
    exact insertAll_perm [] items
  · refine keepsItems_sortRuns (fun sort used => ?_) _ _ _ h
    split at used
    · exact nomatch used
    · obtain rfl := Option.some_inj.mp used
      exact fun items => keepsItems_sortByPivots _ _ _ items

/-- **A sort gives every item once**, in whatever order, unless it gives up. -/
theorem perm_of_stableSort? {cmp : α → α → Ordering} (h : stableSort? cmp items = some sorted) :
    sorted.Perm items := by
  unfold stableSort? at h
  split at h
  · obtain rfl := Option.some_inj.mp h
    exact List.mergeSort_perm items _
  · exact keepsItems_sortBySteps items sorted h

end BookmarkViews.Sorting
