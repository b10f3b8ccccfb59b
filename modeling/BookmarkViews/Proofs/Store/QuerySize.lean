import BookmarkViews.Store.Fragment
import Mathlib.Algebra.BigOperators.Ring.List
import Mathlib.Algebra.Order.BigOperators.Group.List
import Mathlib.Algebra.Order.Group.Nat
import Mathlib.Algebra.Ring.Nat
import Mathlib.Data.List.Flatten

/-!
How large the queries of tests are.

* `CellTest.areRefused_of_sublist`: no test makes a query smaller, so what is refused is
  refused with more tests as well;
* `CellTest.areRefused_of_size_le`: few tests of few patterns are never refused;
* `CellTest.areRefused_anyTag_iff` and `CellTest.areRefused_anyText_iff`: how many
  patterns one test may have.
-/

namespace BookmarkViews

namespace Fragment

/-- A way to join two conditions. -/
structure Joins (join : Fragment → Fragment → Fragment) : Prop where
  params : ∀ x y, (join x y).params = x.params + y.params
  height : ∀ x y, (join x y).height = max x.height y.height + 1
  innerHeight : ∀ x y, (join x y).innerHeight = max x.innerHeight y.innerHeight

theorem joins_and : Joins .and := ⟨fun _ _ => rfl, fun _ _ => rfl, fun _ _ => rfl⟩

theorem joins_binary : Joins .binary := ⟨fun _ _ => rfl, fun _ _ => rfl, fun _ _ => rfl⟩

theorem height_pos (c : Fragment) : 1 ≤ c.height := by
  cases c <;> simp [height]

variable {join : Fragment → Fragment → Fragment} {cs ds : List Fragment} {c : Fragment} {b : Nat}

/-! ### Bounds of a chain -/

theorem Joins.height_foldl_le (joins : Joins join) (first : c.height ≤ b)
    (each : ∀ d ∈ cs, d.height ≤ b) : (cs.foldl join c).height ≤ b + cs.length := by
  induction cs generalizing c b with
  | nil => exact first
  | cons d cs ih =>
    have joined : (join c d).height ≤ b + 1 := by
      rw [joins.height]
      exact Nat.succ_le_succ (max_le first (each d List.mem_cons_self))
    have rest : ∀ e ∈ cs, e.height ≤ b + 1 := fun e mem =>
      (each e (List.mem_cons_of_mem d mem)).trans (Nat.le_succ b)
    have le := ih joined rest
    rw [List.foldl_cons, List.length_cons]
    omega

theorem Joins.le_height_foldl (joins : Joins join) (c : Fragment) (cs : List Fragment) :
    c.height + cs.length ≤ (cs.foldl join c).height := by
  induction cs generalizing c with
  | nil => exact le_rfl
  | cons d cs ih =>
    have le := ih (join c d)
    rw [joins.height] at le
    rw [List.foldl_cons, List.length_cons]
    omega

/-- A chain is higher than its parts by one for each join. -/
theorem Joins.height_chain_le (joins : Joins join) (positive : 1 ≤ b)
    (each : ∀ d ∈ cs, d.height ≤ b) : (chain join cs).height ≤ b + (cs.length - 1) := by
  cases cs with
  | nil => exact positive
  | cons c cs =>
    obtain ⟨first, rest⟩ := List.forall_mem_cons.mp each
    exact joins.height_foldl_le first rest

theorem Joins.le_height_chain (joins : Joins join) (nonempty : cs ≠ [])
    (each : ∀ d ∈ cs, b ≤ d.height) : b + cs.length ≤ (chain join cs).height + 1 := by
  cases cs with
  | nil => exact absurd rfl nonempty
  | cons c cs =>
    have first := each c List.mem_cons_self
    have le := joins.le_height_foldl c cs
    rw [chain, List.length_cons]
    omega

/-- A chain has the parameters of all its parts. -/
theorem Joins.params_chain (joins : Joins join) :
    (chain join cs).params = (cs.map Fragment.params).sum := by
  have folded (cs : List Fragment) (c : Fragment) :
      (cs.foldl join c).params = c.params + (cs.map Fragment.params).sum := by
    induction cs generalizing c with
    | nil => rfl
    | cons d cs ih => rw [List.foldl_cons, ih, joins.params, List.map_cons, List.sum_cons,
        Nat.add_assoc]
  cases cs with
  | nil => rfl
  | cons c cs => exact folded cs c

/-- Queries in a chain are those in its parts. -/
theorem Joins.innerHeight_chain_le (joins : Joins join) (each : ∀ d ∈ cs, d.innerHeight ≤ b) :
    (chain join cs).innerHeight ≤ b := by
  have folded (cs : List Fragment) (c : Fragment) (first : c.innerHeight ≤ b)
      (each : ∀ d ∈ cs, d.innerHeight ≤ b) : (cs.foldl join c).innerHeight ≤ b := by
    induction cs generalizing c with
    | nil => exact first
    | cons d cs ih =>
      obtain ⟨next, rest⟩ := List.forall_mem_cons.mp each
      refine ih (join c d) ?_ rest
      rw [joins.innerHeight]
      exact max_le first next
  cases cs with
  | nil => exact Nat.zero_le b
  | cons c cs =>
    obtain ⟨first, rest⟩ := List.forall_mem_cons.mp each
    exact folded cs c first rest

/-! ### Parts of a chain -/

theorem height_le_of_mem_conjuncts {d : Fragment} (mem : d ∈ c.conjuncts) :
    d.height ≤ c.height := by
  induction c with
  | and x y left right =>
    rw [height]
    rcases List.mem_append.mp mem with mem | mem
    · exact (left mem).trans ((le_max_left _ _).trans (Nat.le_succ _))
    · exact (right mem).trans ((le_max_right _ _).trans (Nat.le_succ _))
  | leaf | param | unary | binary | found => exact (List.mem_singleton.mp mem) ▸ le_rfl

theorem conjuncts_chain (nonempty : cs ≠ []) :
    (chain .and cs).conjuncts = cs.flatMap conjuncts := by
  have folded (cs : List Fragment) (c : Fragment) :
      (cs.foldl and c).conjuncts = c.conjuncts ++ cs.flatMap conjuncts := by
    induction cs generalizing c with
    | nil => simp
    | cons d cs ih => rw [List.foldl_cons, ih, conjuncts, List.flatMap_cons, List.append_assoc]
  cases cs with
  | nil => exact absurd rfl nonempty
  | cons c cs => exact folded cs c

/-- How high a condition gets when it is moved part by part, the last one first. -/
theorem height_moved_le (positive : 1 ≤ b) (each : ∀ d ∈ cs, d.height ≤ b)
    (two : ∀ d ∈ cs, d.conjuncts.length ≤ 2) :
    (chain .and (chain .and cs).conjuncts.reverse).height ≤ b + 2 * cs.length := by
  rcases eq_or_ne cs [] with rfl | nonempty
  · exact positive
  rw [conjuncts_chain nonempty]
  have parts : ∀ d ∈ (cs.flatMap conjuncts).reverse, d.height ≤ b := by
    intro d mem
    obtain ⟨c, asked, part⟩ := List.mem_flatMap.mp (List.mem_reverse.mp mem)
    exact (height_le_of_mem_conjuncts part).trans (each c asked)
  have count : (cs.flatMap conjuncts).reverse.length ≤ 2 * cs.length := by
    have sum := List.sum_le_card_nsmul _ 2 (List.forall_mem_map.mpr two)
    rwa [List.length_map, Nat.nsmul_eq_mul, Nat.mul_comm, ← List.length_flatMap,
      ← List.length_reverse] at sum
  have le := joins_and.height_chain_le positive parts
  omega

/-! ### Longer chains -/

/-- A measure that no join lowers. -/
structure Grows (join : Fragment → Fragment → Fragment) (m : Fragment → Nat) : Prop where
  least : ∀ c, m .leaf ≤ m c
  left : ∀ x y, m x ≤ m (join x y)
  right : ∀ x y, m y ≤ m (join x y)
  mono : ∀ {x x'} y, m x ≤ m x' → m (join x y) ≤ m (join x' y)

theorem Joins.grows_params (joins : Joins join) : Grows join Fragment.params where
  least c := Nat.zero_le _
  left x y := by rw [joins.params]; exact Nat.le_add_right _ _
  right x y := by rw [joins.params]; exact Nat.le_add_left _ _
  mono y le := by rw [joins.params, joins.params]; exact Nat.add_le_add_right le _

theorem Joins.grows_height (joins : Joins join) : Grows join Fragment.height where
  least c := c.height_pos
  left x y := by rw [joins.height]; omega
  right x y := by rw [joins.height]; omega
  mono y le := by rw [joins.height, joins.height]; omega

theorem Joins.grows_innerHeight (joins : Joins join) : Grows join Fragment.innerHeight where
  least c := Nat.zero_le _
  left x y := by rw [joins.innerHeight]; exact le_max_left _ _
  right x y := by rw [joins.innerHeight]; exact le_max_right _ _
  mono y le := by rw [joins.innerHeight, joins.innerHeight]; exact max_le_max_right _ le

variable {m : Fragment → Nat}

theorem Grows.foldl_le (grows : Grows join m) {c d : Fragment} (le : m c ≤ m d) :
    m (cs.foldl join c) ≤ m (cs.foldl join d) := by
  induction cs generalizing c d with
  | nil => exact le
  | cons e cs ih => exact ih (grows.mono e le)

theorem Grows.foldl_le_of_sublist (grows : Grows join m) (sub : cs.Sublist ds) (c : Fragment) :
    m (cs.foldl join c) ≤ m (ds.foldl join c) := by
  induction sub generalizing c with
  | slnil => exact le_rfl
  | cons d _ ih => exact (ih c).trans (grows.foldl_le (grows.left c d))
  | cons_cons d _ ih => exact ih (join c d)

/-- A chain of more parts is not smaller. -/
theorem Grows.chain_le_of_sublist (grows : Grows join m) (sub : cs.Sublist ds) :
    m (chain join cs) ≤ m (chain join ds) := by
  induction sub with
  | slnil => exact le_rfl
  | @cons cs ds d sub ih =>
    refine ih.trans ?_
    cases ds with
    | nil => exact grows.least d
    | cons e ds => exact grows.foldl_le (grows.right d e)
  | cons_cons d sub _ => exact grows.foldl_le_of_sublist sub d

/-- **What is refused is refused with more parts as well.** -/
theorem isRefused_of_sublist {grouped : Bool} (sub : cs.Sublist ds)
    (refused : (chain .and cs).isRefused grouped = true) :
    (chain .and ds).isRefused grouped = true := by
  have params := joins_and.grows_params.chain_le_of_sublist sub
  have height := joins_and.grows_height.chain_le_of_sublist sub
  have inner := joins_and.grows_innerHeight.chain_le_of_sublist sub
  have moved : (chain .and (chain .and cs).conjuncts.reverse).height ≤
      (chain .and (chain .and ds).conjuncts.reverse).height := by
    rcases eq_or_ne cs [] with rfl | some
    · exact height_pos _
    · have more : ds ≠ [] := by
        rintro rfl
        exact some (List.sublist_nil.mp sub)
      rw [conjuncts_chain some, conjuncts_chain more]
      exact joins_and.grows_height.chain_le_of_sublist (sub.flatMap conjuncts).reverse
  simp only [isRefused, Bool.or_eq_true, Bool.and_eq_true, decide_eq_true_eq] at refused ⊢
  refine refused.imp (.imp (fun many => ?_) fun high => ?_) (.imp_right fun high => ?_)
  · exact many.trans_le params
  · exact high.trans_le (Nat.add_le_add height inner)
  · exact high.trans_le moved

end Fragment

open Fragment (chain column joins_and joins_binary)

/-! ### Patterns -/

namespace TextPattern

theorem height_fragment (p : TextPattern) : 3 ≤ p.fragment.height ∧ p.fragment.height ≤ 4 := by
  cases p <;> exact ⟨Nat.le_of_ble_eq_true rfl, Nat.le_of_ble_eq_true rfl⟩

theorem params_fragment_le (p : TextPattern) : p.fragment.params ≤ 2 := by
  cases p <;> exact Nat.le_of_ble_eq_true rfl

theorem innerHeight_fragment (p : TextPattern) : p.fragment.innerHeight = 0 := by
  cases p <;> rfl

variable {patterns : List TextPattern}

/-- Each pattern is one more. -/
theorem le_height_anyFragment (nonempty : patterns ≠ []) :
    patterns.length + 2 ≤ (anyFragment patterns).height := by
  have le := joins_binary.le_height_chain (mt List.map_eq_nil_iff.mp nonempty)
    (List.forall_mem_map.mpr fun p _ => (height_fragment p).1)
  rw [List.length_map] at le
  unfold anyFragment
  omega

theorem height_anyFragment_le (patterns : List TextPattern) :
    (anyFragment patterns).height ≤ 4 + (patterns.length - 1) := by
  have le := joins_binary.height_chain_le (Nat.le_of_ble_eq_true rfl)
    (List.forall_mem_map.mpr fun p (_ : p ∈ patterns) => (height_fragment p).2)
  rwa [List.length_map] at le

theorem params_anyFragment_le (patterns : List TextPattern) :
    (anyFragment patterns).params ≤ 2 * patterns.length := by
  rw [anyFragment, joins_binary.params_chain, List.map_map]
  have le := List.sum_le_card_nsmul _ 2
    (List.forall_mem_map.mpr fun p (_ : p ∈ patterns) => params_fragment_le p)
  rwa [List.length_map, Nat.nsmul_eq_mul, Nat.mul_comm] at le

/-- Patterns are joined by alternatives, so together they are one part. -/
theorem conjuncts_anyFragment (patterns : List TextPattern) :
    (anyFragment patterns).conjuncts = [anyFragment patterns] := by
  have folded (cs : List Fragment) (c : Fragment) (one : c.conjuncts = [c]) :
      (cs.foldl .binary c).conjuncts = [cs.foldl .binary c] := by
    induction cs generalizing c with
    | nil => exact one
    | cons d cs ih => exact ih (.binary c d) rfl
  cases patterns with
  | nil => rfl
  | cons p ps =>
    have one : p.fragment.conjuncts = [p.fragment] := by
      cases p <;> rfl
    exact folded _ _ one

theorem innerHeight_anyFragment (patterns : List TextPattern) :
    (anyFragment patterns).innerHeight = 0 :=
  Nat.le_zero.mp <| joins_binary.innerHeight_chain_le <|
    List.forall_mem_map.mpr fun p _ => (innerHeight_fragment p).le

end TextPattern

/-! ### Tests -/

namespace CellTest

/-- How large a test is: one, and one more for each pattern. -/
def size : CellTest → Nat
  | .anyText patterns | .anyTag patterns => patterns.length + 1
  | _ => 1

open TextPattern (anyFragment le_height_anyFragment height_anyFragment_le params_anyFragment_le
  conjuncts_anyFragment innerHeight_anyFragment)

theorem params_fragment_le (t : CellTest) : t.fragment.params ≤ 2 * t.size := by
  cases t with
  | anyText patterns | anyTag patterns =>
    have le := params_anyFragment_le patterns
    simp only [fragment, Fragment.params, column, size]
    omega
  | isNull | isNotNull | number | flag | text | filled | notFilled => exact Nat.le_of_ble_eq_true rfl

theorem height_fragment_le (t : CellTest) : t.fragment.height ≤ t.size + 6 := by
  cases t with
  | anyText patterns | anyTag patterns =>
    have le := height_anyFragment_le patterns
    simp only [fragment, Fragment.height, column, size]
    omega
  | isNull | isNotNull | number | flag | text | filled | notFilled => exact Nat.le_of_ble_eq_true rfl

theorem innerHeight_fragment_le (t : CellTest) : t.fragment.innerHeight ≤ t.size + 4 := by
  cases t with
  | anyText patterns => exact (innerHeight_anyFragment patterns).le.trans (Nat.zero_le _)
  | anyTag patterns =>
    have le := height_anyFragment_le patterns
    simp only [fragment, Fragment.innerHeight, Fragment.height, column, size,
      innerHeight_anyFragment, Nat.max_self]
    omega
  | isNull | isNotNull | number | flag | text | filled | notFilled => exact Nat.zero_le _

theorem length_conjuncts_fragment_le (t : CellTest) : t.fragment.conjuncts.length ≤ 2 := by
  cases t with
  | anyText patterns =>
    rw [fragment, conjuncts_anyFragment]
    exact Nat.le_succ 1
  | isNull | isNotNull | number | flag | text | filled | notFilled | anyTag =>
    exact Nat.le_of_ble_eq_true rfl

variable {entity : Entity} {tests more : List CellTest} {patterns : List TextPattern}

/-- **Tests that are refused are refused with more tests as well.** -/
theorem areRefused_of_sublist (sub : tests.Sublist more)
    (refused : areRefused entity tests = true) : areRefused entity more = true :=
  Fragment.isRefused_of_sublist (sub.map fragment) refused

theorem size_pos (t : CellTest) : 1 ≤ t.size := by
  cases t <;> simp [size]

/-- No test is larger than all tests, the others counted as one each. -/
theorem size_add_length_le {t : CellTest} (mem : t ∈ tests) :
    t.size + tests.length ≤ (tests.map size).sum + 1 := by
  induction tests with
  | nil => exact nomatch mem
  | cons u tests ih =>
    rw [List.map_cons, List.sum_cons, List.length_cons]
    rcases List.mem_cons.mp mem with rfl | mem
    · have rest := List.length_le_sum_of_one_le (tests.map size)
        (List.forall_mem_map.mpr fun u _ => u.size_pos)
      rw [List.length_map] at rest
      omega
    · have le := ih mem
      have first := u.size_pos
      omega

/-- **Few tests of few patterns are not refused.** -/
theorem areRefused_of_size_le (few : (tests.map size).sum ≤ 490) :
    areRefused entity tests = false := by
  set total := (tests.map size).sum with total_def
  have length : tests.length ≤ total := by
    have le := List.length_le_sum_of_one_le _ (List.forall_mem_map.mpr fun t (_ : t ∈ tests) =>
      t.size_pos)
    rwa [List.length_map] at le
  have params : (chain .and (tests.map fragment)).params ≤ 2 * total := by
    rw [joins_and.params_chain, List.map_map, total_def, ← List.sum_map_mul_left]
    exact List.sum_le_sum fun t _ => params_fragment_le t
  have each : ∀ c ∈ tests.map fragment, c.height ≤ total + 7 - tests.length := by
    refine List.forall_mem_map.mpr fun t mem => ?_
    have le := size_add_length_le mem
    have own := height_fragment_le t
    omega
  have inner : (chain .and (tests.map fragment)).innerHeight ≤ total + 5 - tests.length := by
    refine joins_and.innerHeight_chain_le (List.forall_mem_map.mpr fun t mem => ?_)
    have le := size_add_length_le mem
    have own := innerHeight_fragment_le t
    omega
  have positive : 1 ≤ total + 7 - tests.length := by omega
  have height := joins_and.height_chain_le positive each
  have moved := Fragment.height_moved_le positive each
    (List.forall_mem_map.mpr fun t _ => length_conjuncts_fragment_le t)
  rw [List.length_map] at height moved
  simp only [areRefused, Fragment.isRefused, Bool.or_eq_false_iff, Bool.and_eq_false_iff,
    decide_eq_false_iff_not]
  rw [Fragment.mostParams, Fragment.mostHeight]
  exact ⟨⟨by omega, by omega⟩, .inr (by omega)⟩

/-- **How many patterns of tags a test may have.** They are refused when they are high by
themselves, and again in the query that looks for a tag. -/
theorem areRefused_anyTag_iff (nonempty : patterns ≠ []) :
    areRefused entity [.anyTag patterns] = true ↔ 498 < (anyFragment patterns).height := by
  have low := le_height_anyFragment nonempty
  have params := params_anyFragment_le patterns
  simp only [areRefused, List.map_cons, List.map_nil, chain, List.foldl_nil, fragment, column,
    Fragment.isRefused, Fragment.conjuncts, List.reverse_singleton, Fragment.params,
    Fragment.height, Fragment.innerHeight, innerHeight_anyFragment, Bool.or_eq_true,
    Bool.and_eq_true, decide_eq_true_eq]
  rw [Fragment.mostParams, Fragment.mostHeight]
  constructor
  · rintro ((many | high) | ⟨-, high⟩) <;> omega
  · intro high
    exact .inl (.inr (by omega))

end CellTest

end BookmarkViews
