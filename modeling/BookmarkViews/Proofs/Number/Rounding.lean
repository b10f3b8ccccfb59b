import BookmarkViews.Number.Binary64
import Mathlib.Algebra.Order.Ring.Int
import Mathlib.Data.Nat.Log

/-!
Rounding to the nearest double keeps order.

* `roundUnits_mono`: a greater count of units never rounds to a lower magnitude;
* `roundUnits_units`: a finite magnitude is the rounding of its own units;
* `compare?_ofInt_ofInt` and `compare?_ofInt_of_compareInt?`: the nearest doubles of
  two numbers are in the order of the numbers, or they are equal;
* `eq_of_ofInt_eq`: an integer below `2 ^ 53` shares its nearest double with no other.

So a comparison of nearest doubles can only go wrong by taking different numbers
for equal ones, never by turning their order around.
-/

namespace BookmarkViews.Binary64

/-! ### Halves -/

theorem le_halfEven {q num den : Nat} (pos : 0 < den) (h : q * den ≤ num) : q ≤ halfEven num den := by
  have floor : q ≤ num / den := (Nat.le_div_iff_mul_le pos).mpr h
  unfold halfEven
  dsimp only
  split_ifs <;> omega

theorem halfEven_le {q num den : Nat} (h : num < q * den) : halfEven num den ≤ q := by
  have floor : num / den < q := Nat.div_lt_of_lt_mul (by rwa [Nat.mul_comm] at h)
  unfold halfEven
  dsimp only
  split_ifs <;> omega

theorem halfEven_exact {q den : Nat} (pos : 0 < den) : halfEven (q * den) den = q := by
  unfold halfEven
  simp [Nat.mul_div_cancel _ pos, pos]

/-- Rounding to a fixed grid is monotone: between two multiples of the step the
threshold is one half. -/
theorem halfEven_mono {m n den : Nat} (h : m ≤ n) : halfEven m den ≤ halfEven n den := by
  rcases Nat.lt_or_eq_of_le (Nat.div_le_div_right (c := den) h) with below | same
  · rcases Nat.eq_zero_or_pos den with rfl | pos
    · simp at below
    have upper : halfEven m den ≤ m / den + 1 :=
      halfEven_le (by rw [Nat.add_mul, Nat.one_mul]; exact Nat.lt_div_mul_add pos)
    have lower : n / den ≤ halfEven n den := le_halfEven pos (Nat.div_mul_le_self n den)
    omega
  · have order : m % den ≤ n % den := by
      have hm := Nat.div_add_mod m den
      have hn := Nat.div_add_mod n den
      rw [same] at hm
      omega
    unfold halfEven
    dsimp only
    rw [same]
    split_ifs <;> omega

/-! ### Magnitudes -/

/-- The exponent of the grid that a count of units is rounded to. -/
def gridShift (n : Nat) : Nat :=
  n.log2 - 52

theorem roundUnits_one (n : Nat) :
    roundUnits n 1 = min infinity (gridShift n * 2 ^ 52 + halfEven n (2 ^ gridShift n)) := by
  simp [roundUnits, gridShift]

theorem gridShift_mono {m n : Nat} (h : m ≤ n) : gridShift m ≤ gridShift n := by
  rw [gridShift, gridShift, Nat.log2_eq_log_two, Nat.log2_eq_log_two]
  exact Nat.sub_le_sub_right (Nat.log_mono_right h) 52

/-- On its grid a count of units is less than `2 ^ 53` steps. -/
theorem lt_grid (n : Nat) : n < 2 ^ 53 * 2 ^ gridShift n := by
  rw [← Nat.pow_add]
  refine Nat.lt_of_lt_of_le Nat.lt_log2_self (Nat.pow_le_pow_right (by decide) ?_)
  unfold gridShift
  omega

/-- On every grid but the first it is at least `2 ^ 52` steps. -/
theorem grid_le {n : Nat} (h : gridShift n ≠ 0) : 2 ^ 52 * 2 ^ gridShift n ≤ n := by
  unfold gridShift at h ⊢
  have nonzero : n ≠ 0 := by
    rintro rfl
    simp at h
  rw [← Nat.pow_add, Nat.add_sub_of_le (by omega)]
  exact Nat.log2_self_le nonzero

/-- **Rounding is monotone.** On one grid by halves; from one grid to a later one
because the end of the first is the start of the next. -/
theorem roundUnits_mono {m n : Nat} (h : m ≤ n) : roundUnits m 1 ≤ roundUnits n 1 := by
  rw [roundUnits_one, roundUnits_one]
  refine min_le_min_left _ ?_
  rcases Nat.lt_or_eq_of_le (gridShift_mono h) with earlier | same
  · have upper : halfEven m (2 ^ gridShift m) ≤ 2 ^ 53 := halfEven_le (lt_grid m)
    have lower : 2 ^ 52 ≤ halfEven n (2 ^ gridShift n) :=
      le_halfEven (Nat.two_pow_pos _) (grid_le (by omega))
    omega
  · rw [same]
    exact Nat.add_le_add_left (halfEven_mono h) _

/-- Where the grid of a sum of units lies. -/
theorem gridShift_scaled {low shift : Nat} (h : low < 2 ^ 52) :
    gridShift ((2 ^ 52 + low) * 2 ^ shift) = shift := by
  have size : ((2 ^ 52 + low) * 2 ^ shift).log2 = 52 + shift := by
    have nonzero : (2 ^ 52 + low) * 2 ^ shift ≠ 0 :=
      Nat.ne_of_gt (Nat.mul_pos (by omega) (Nat.two_pow_pos _))
    rw [Nat.log2_eq_iff nonzero]
    constructor
    · rw [Nat.pow_add]
      exact Nat.mul_le_mul_right _ (Nat.le_add_right _ _)
    · rw [Nat.add_right_comm, Nat.pow_add]
      exact Nat.mul_lt_mul_of_pos_right (by omega : 2 ^ 52 + low < 2 ^ (52 + 1)) (Nat.two_pow_pos _)
  rw [gridShift, size, Nat.add_sub_cancel_left]

/-- **A finite magnitude is the rounding of its own units.** -/
theorem roundUnits_units {m : Nat} (h : m ≤ infinity) : roundUnits (units m) 1 = m := by
  have split := Nat.div_add_mod m (2 ^ 52)
  rw [roundUnits_one]
  unfold units
  dsimp only [Nat.pow_eq]
  split_ifs with first
  · have small : gridShift m = 0 := by
      rw [gridShift, Nat.sub_eq_zero_iff_le]
      have : m < 2 ^ 53 := by omega
      by_cases zero : m = 0
      · simp [zero]
      · exact Nat.le_of_lt_succ ((Nat.log2_lt zero).mpr this)
    have whole := halfEven_exact (q := m) (Nat.two_pow_pos (gridShift m))
    rw [small] at whole ⊢
    rw [Nat.pow_zero, Nat.mul_one] at whole
    rw [Nat.pow_zero, whole, Nat.zero_mul, Nat.zero_add, min_eq_right h]
  · have low : m % 2 ^ 52 < 2 ^ 52 := Nat.mod_lt _ (Nat.two_pow_pos _)
    rw [gridShift_scaled low, halfEven_exact (Nat.two_pow_pos _)]
    rw [min_eq_right] <;> omega

theorem roundUnits_le_infinity (n : Nat) : roundUnits n 1 ≤ infinity := by
  rw [roundUnits_one]
  exact min_le_left _ _

/-! ### Signed units -/

/-- The key of the double nearest to a count of units. -/
def nearestKey (u : Int) : Int :=
  if u < 0 then -(roundUnits u.natAbs 1 : Int) else roundUnits u.natAbs 1

theorem nearestKey_mono {u v : Int} (h : u ≤ v) : nearestKey u ≤ nearestKey v := by
  unfold nearestKey
  split_ifs with negative negative'
  · have := roundUnits_mono (m := v.natAbs) (n := u.natAbs) (by omega)
    omega
  · omega
  · omega
  · have := roundUnits_mono (m := u.natAbs) (n := v.natAbs) (by omega)
    omega

/-- The nearest doubles of two counts of units keep their order or fall together. -/
theorem compare_nearestKey (u v : Int) :
    compare (nearestKey u) (nearestKey v) = compare u v ∨
      compare (nearestKey u) (nearestKey v) = .eq := by
  rcases lt_trichotomy u v with less | rfl | greater
  · rcases (nearestKey_mono less.le).lt_or_eq with less' | same
    · exact .inl (by rw [compare_lt_iff_lt.mpr less', compare_lt_iff_lt.mpr less])
    · exact .inr (compare_eq_iff_eq.mpr same)
  · exact .inr (compare_eq_iff_eq.mpr rfl)
  · rcases (nearestKey_mono greater.le).lt_or_eq with greater' | same
    · exact .inl (by rw [compare_gt_iff_gt.mpr greater', compare_gt_iff_gt.mpr greater])
    · exact .inr (compare_eq_iff_eq.mpr same.symm)

theorem one_pos : 0 < one := by
  decide +kernel

theorem key_ofInt (n : Int) : (ofInt n).key = nearestKey (n * one) := by
  have sign : n * (one : Int) < 0 ↔ n < 0 := by
    constructor
    · exact fun h => neg_of_mul_neg_left h (Int.natCast_nonneg _)
    · exact fun h => mul_neg_of_neg_of_pos h (Int.natCast_pos.mpr one_pos)
  rw [nearestKey, Int.natAbs_mul, Int.natAbs_natCast, ofInt, ofRatio, key]
  simp only [decide_eq_true_eq, sign]

/-- A finite double is the nearest to its own value. -/
theorem key_eq_nearestKey {x : Binary64} (finite : x.isFinite = true) :
    x.key = nearestKey x.exact := by
  have small : x.magnitude ≤ infinity := Nat.le_of_lt (by simpa [isFinite] using finite)
  have own := roundUnits_units small
  unfold key nearestKey exact
  cases x.negative with
  | false =>
    have positive : ¬ (units x.magnitude : Int) < 0 := by omega
    rw [if_neg Bool.false_ne_true, if_neg Bool.false_ne_true, if_neg positive,
      Int.natAbs_natCast, own]
  | true =>
    rcases Nat.eq_zero_or_pos (units x.magnitude) with zero | pos
    · have none : x.magnitude = 0 := by
        rw [zero] at own
        exact own.symm
      rw [none]
      decide
    · have negative : -(units x.magnitude : Int) < 0 := by omega
      rw [if_pos rfl, if_pos rfl, if_pos negative, Int.natAbs_neg, Int.natAbs_natCast, own]

theorem isNaN_ofInt (n : Int) : (ofInt n).isNaN = false := by
  have small := roundUnits_le_infinity (n.natAbs * one)
  rw [isNaN, ofInt, ofRatio, decide_eq_false_iff_not]
  exact Nat.not_lt.mpr small

theorem isNaN_of_isFinite {x : Binary64} (finite : x.isFinite = true) : x.isNaN = false := by
  simp only [isFinite, isNaN, decide_eq_true_eq, decide_eq_false_iff_not] at finite ⊢
  omega

/-! ### Comparisons of nearest doubles -/

theorem compare?_eq_some {x y : Binary64} (hx : x.isNaN = false) (hy : y.isNaN = false) :
    x.compare? y = some (compare x.key y.key) := by
  simp [compare?, hx, hy]

theorem exists_compareInt? (n : Int) {x : Binary64} (finite : x.isFinite = true) :
    ∃ o, compareInt? n x = some o := by
  rw [compareInt?, isNaN_of_isFinite finite, finite, if_neg (by simp), if_pos rfl]
  exact ⟨_, rfl⟩

theorem compare?_swap (x y : Binary64) : y.compare? x = (x.compare? y).map Ordering.swap := by
  unfold compare?
  rw [Bool.or_comm]
  split_ifs
  · rfl
  · have turned : compare y.key x.key = (compare x.key y.key).swap := Std.OrientedCmp.eq_swap
    rw [Option.map_some, turned]

/-- **Nearest doubles of integers are in their order or equal.** -/
theorem compare?_ofInt_ofInt (i j : Int) :
    (ofInt i).compare? (ofInt j) = some (compare i j) ∨
      (ofInt i).compare? (ofInt j) = some .eq := by
  have units : compare (i * one) (j * one) = compare i j := by
    have pos : (0 : Int) < one := Int.natCast_pos.mpr one_pos
    rcases lt_trichotomy i j with less | rfl | greater
    · rw [compare_lt_iff_lt.mpr less, compare_lt_iff_lt]
      exact mul_lt_mul_of_pos_right less pos
    · rw [compare_eq_iff_eq.mpr rfl, compare_eq_iff_eq.mpr rfl]
    · rw [compare_gt_iff_gt.mpr greater, compare_gt_iff_gt]
      exact mul_lt_mul_of_pos_right greater pos
  rw [compare?_eq_some (isNaN_ofInt i) (isNaN_ofInt j), key_ofInt, key_ofInt, ← units,
    Option.some_inj, Option.some_inj]
  exact compare_nearestKey _ _

/-- **The nearest double of an integer and a finite double are in the order of the
integer and the double, or equal.** -/
theorem compare?_ofInt_of_compareInt? {n : Int} {x : Binary64} {o : Ordering}
    (finite : x.isFinite = true) (h : compareInt? n x = some o) :
    (ofInt n).compare? x = some o ∨ (ofInt n).compare? x = some .eq := by
  have number := isNaN_of_isFinite finite
  rw [compareInt?, number, finite, if_neg (by simp), if_pos rfl] at h
  rw [compare?_eq_some (isNaN_ofInt n) number, key_ofInt, key_eq_nearestKey finite, ← h,
    Option.some_inj, Option.some_inj]
  exact compare_nearestKey _ _

/-! ### Small integers -/

/-- **Small integers are doubles**: up to `2 ^ 53` some magnitude has exactly their
units. -/
theorem exists_units {m : Nat} (small : m ≤ 2 ^ 53) :
    ∃ magnitude ≤ infinity, units magnitude = m * one := by
  rcases Nat.eq_zero_or_pos m with rfl | pos
  · exact ⟨0, by decide, by decide +kernel⟩
  rcases Nat.lt_or_eq_of_le small with less | rfl
  · -- Scaled up, the integer has 53 bits, the first of which is implied.
    have bits : m.log2 < 53 := (Nat.log2_lt (by omega)).mpr less
    obtain ⟨gap, size⟩ := Nat.exists_eq_add_of_le (Nat.le_of_lt_succ bits)
    have scaled : 2 ^ 52 ≤ m * 2 ^ gap := by
      rw [size, Nat.pow_add]
      exact Nat.mul_le_mul_right _ (Nat.log2_self_le (by omega))
    have below : m * 2 ^ gap < 2 ^ 53 := by
      have bound : m * 2 ^ gap < 2 ^ (m.log2 + 1) * 2 ^ gap :=
        Nat.mul_lt_mul_of_pos_right Nat.lt_log2_self (Nat.two_pow_pos _)
      rwa [← Nat.pow_add, Nat.add_right_comm, ← size] at bound
    obtain ⟨low, high⟩ := Nat.exists_eq_add_of_le scaled
    refine ⟨(m.log2 + 1023) * 2 ^ 52 + low, by unfold infinity; omega, ?_⟩
    have step : ((m.log2 + 1023) * 2 ^ 52 + low) / 2 ^ 52 = m.log2 + 1023 := by omega
    have rest : ((m.log2 + 1023) * 2 ^ 52 + low) % 2 ^ 52 = low := by omega
    have unit {k : Nat} (h : k = 1074) : 2 ^ k = one := by
      subst h
      decide +kernel
    unfold units
    dsimp only [Nat.pow_eq]
    rw [step, rest, if_neg (by omega), ← high, Nat.mul_assoc, ← Nat.pow_add, unit (by omega)]
  · exact ⟨1076 * 2 ^ 52, by decide, by decide +kernel⟩

/-- Below `2 ^ 53` a greater integer has a greater nearest double. -/
theorem roundUnits_lt {m n : Nat} (less : m < n) (small : m < 2 ^ 53) :
    roundUnits (m * one) 1 < roundUnits (n * one) 1 := by
  obtain ⟨x, finite, xs⟩ := exists_units small.le
  obtain ⟨y, finite', ys⟩ := exists_units (Nat.succ_le_of_lt small)
  have next : roundUnits ((m + 1) * one) 1 ≤ roundUnits (n * one) 1 :=
    roundUnits_mono (Nat.mul_le_mul_right one less)
  have order : roundUnits (m * one) 1 ≤ roundUnits ((m + 1) * one) 1 :=
    roundUnits_mono (Nat.mul_le_mul_right one (Nat.le_succ m))
  rw [← xs, roundUnits_units finite] at order ⊢
  rw [← ys, roundUnits_units finite'] at order next
  -- Integers that differ have different units, so their magnitudes differ.
  have apart : x ≠ y := by
    rintro rfl
    have same := Nat.eq_of_mul_eq_mul_right one_pos (xs.symm.trans ys)
    omega
  omega

/-- **An integer below `2 ^ 53` shares its nearest double with no other integer.** -/
theorem eq_of_ofInt_eq {i j : Int} (small : j.natAbs < 2 ^ 53) (same : ofInt i = ofInt j) :
    i = j := by
  obtain ⟨sign, magnitude⟩ := Binary64.mk.inj same
  rcases Nat.lt_trichotomy i.natAbs j.natAbs with less | equal | greater
  · exact absurd magnitude (roundUnits_lt less (less.trans small)).ne
  · have sides : i < 0 ↔ j < 0 := decide_eq_decide.mp sign
    omega
  · exact absurd magnitude (roundUnits_lt greater small).ne'

/-- Integers have the same nearest double exactly when these have the same value. -/
theorem sameValue_ofInt_iff {i j : Int} :
    (ofInt i).sameValue (ofInt j) = true ↔ ofInt i = ofInt j := by
  have nonzero {n : Int} (negative : n < 0) : 0 < (ofInt n).magnitude := by
    have zero : roundUnits (0 * one) 1 < roundUnits (n.natAbs * one) 1 :=
      roundUnits_lt (by omega) (by omega)
    exact Nat.zero_lt_of_lt zero
  rw [sameValue, compare?_eq_some (isNaN_ofInt i) (isNaN_ofInt j), beq_iff_eq, Option.some_inj,
    compare_eq_iff_eq]
  refine ⟨fun keys => ?_, fun same => by rw [same]⟩
  have signs (n : Int) : (ofInt n).negative = decide (n < 0) := rfl
  have magnitudes : (ofInt i).negative = (ofInt j).negative ∧
      (ofInt i).magnitude = (ofInt j).magnitude := by
    simp only [key, signs, decide_eq_true_eq] at keys ⊢
    split_ifs at keys with hi hj hj
    · exact ⟨by simp [hi, hj], by omega⟩
    · have := nonzero hi
      omega
    · have := nonzero hj
      omega
    · exact ⟨by simp [hi, hj], by omega⟩
  rw [Binary64.mk.injEq]
  exact magnitudes

end BookmarkViews.Binary64
