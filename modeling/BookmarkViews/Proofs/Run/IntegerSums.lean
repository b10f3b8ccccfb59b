import BookmarkViews.Proofs.Value.Integers
import BookmarkViews.Run.Grouping
import Mathlib

/-!
Sums of integers.

The sum of a column is an integer as long as every sum along the way has 64 bits; once one
has not, the sum is a double for good. So for rows in their order it is exact when the sums
of all leading rows have 64 bits (`sum_eq_ofInt_iff`), and in every order when the sum of
the positive integers and that of the negative ones have (`sum_exact_iff`): these two are the
farthest sums that any order comes by.
-/

namespace BookmarkViews

open Decimal (fits64 fits64_iff)

/-! ### Integers in any order -/

/-- The sum of the negative integers of a list. -/
def negativeSum (xs : List Int) : Int :=
  (xs.filter (· < 0)).sum

/-- The sum of the positive integers of a list. -/
def positiveSum (xs : List Int) : Int :=
  (xs.filter (0 < ·)).sum

theorem negativeSum_cons (x : Int) (xs : List Int) :
    negativeSum (x :: xs) = min x 0 + negativeSum xs := by
  unfold negativeSum
  by_cases negative : x < 0
  · rw [List.filter_cons_of_pos (by simpa using negative), List.sum_cons]
    omega
  · rw [List.filter_cons_of_neg (by simpa using negative)]
    omega

theorem positiveSum_cons (x : Int) (xs : List Int) :
    positiveSum (x :: xs) = max x 0 + positiveSum xs := by
  unfold positiveSum
  by_cases positive : 0 < x
  · rw [List.filter_cons_of_pos (by simpa using positive), List.sum_cons]
    omega
  · rw [List.filter_cons_of_neg (by simpa using positive)]
    omega

/-- **The sum of leading items lies between those of all negative and of all positive
items.** -/
theorem sum_take_bounds (xs : List Int) (k : Nat) :
    negativeSum xs ≤ (xs.take k).sum ∧ (xs.take k).sum ≤ positiveSum xs := by
  induction xs generalizing k with
  | nil => simp [negativeSum, positiveSum]
  | cons x xs ih =>
    rw [negativeSum_cons, positiveSum_cons]
    cases k with
    | zero =>
      have rest := ih 0
      rw [List.take_zero, List.sum_nil] at rest ⊢
      omega
    | succ k =>
      have rest := ih k
      rw [List.take_succ_cons, List.sum_cons]
      omega

theorem negativeSum_perm {xs ys : List Int} (perm : xs.Perm ys) : negativeSum xs = negativeSum ys :=
  (perm.filter _).sum_eq

theorem positiveSum_perm {xs ys : List Int} (perm : xs.Perm ys) : positiveSum xs = positiveSum ys :=
  (perm.filter _).sum_eq

/-- All sums of leading items have 64 bits. -/
def LeadingFit (xs : List Int) : Prop :=
  ∀ k, fits64 (xs.take k).sum = true

/-- **All orders have leading sums of 64 bits when the farthest sums have.** The farthest are
reached with all positive items in front, and with all negative items in front. -/
theorem forall_perm_leadingFit_iff {α : Type} (f : α → Option Int) (items : List α) :
    (∀ ordered : List α, ordered.Perm items → LeadingFit (ordered.filterMap f)) ↔
      fits64 (positiveSum (items.filterMap f)) = true ∧
        fits64 (negativeSum (items.filterMap f)) = true := by
  constructor
  · intro all
    have front (p : Int → Bool) : fits64 ((items.filterMap f).filter p).sum = true := by
      have picked : (items.filter fun a => (f a).any p).filterMap f =
          (items.filterMap f).filter p := by
        rw [List.filterMap_filter, List.filter_filterMap]
        refine List.filterMap_congr fun a _ => ?_
        cases f a <;> simp [Option.filter]
      have leading := all _ (List.filter_append_perm (fun a => (f a).any p) items)
        ((items.filterMap f).filter p).length
      rwa [List.filterMap_append, picked, List.take_left' rfl] at leading
    exact ⟨front _, front _⟩
  · rintro ⟨positive, negative⟩ ordered perm k
    have bounds := sum_take_bounds (ordered.filterMap f) k
    rw [negativeSum_perm (perm.filterMap f), positiveSum_perm (perm.filterMap f)] at bounds
    rw [fits64_iff] at *
    omega

/-! ### The total along the way -/

namespace Grouping

theorem foldl_intTotal?_none (ns : List Number) : ns.foldl intTotal? none = none := by
  induction ns with
  | nil => rfl
  | cons n ns ih => exact ih

theorem intTotal?_int {x : Int} (fits : fits64 x = true) (t : Int) :
    intTotal? (some t) (.int x) = if fits64 (t + x) then some (t + x) else none := by
  simp only [intTotal?, Number.int64?, if_pos fits]

/-- **The integer total lasts while all leading sums have 64 bits.** -/
theorem foldl_intTotal?_eq_some_iff {xs : List Int} (fits : ∀ x ∈ xs, fits64 x = true)
    {start total : Int} (begun : fits64 start = true) :
    (xs.map Number.int).foldl intTotal? (some start) = some total ↔
      (∀ k, fits64 (start + (xs.take k).sum) = true) ∧ start + xs.sum = total := by
  induction xs generalizing start with
  | nil => simp [begun]
  | cons x xs ih =>
    obtain ⟨first, rest⟩ := List.forall_mem_cons.mp fits
    have shift (k : Nat) : start + ((x :: xs).take (k + 1)).sum = start + x + (xs.take k).sum := by
      rw [List.take_succ_cons, List.sum_cons, Int.add_assoc]
    rw [List.map_cons, List.foldl_cons, intTotal?_int first]
    split_ifs with onward
    · rw [ih rest onward, List.sum_cons, ← Int.add_assoc]
      refine and_congr_left fun _ => ⟨fun all k => ?_, fun all k => ?_⟩
      · cases k with
        | zero => simpa using begun
        | succ k => exact shift k ▸ all k
      · exact shift k ▸ all (k + 1)
    · rw [foldl_intTotal?_none]
      refine ⟨nofun, fun all => absurd (all.1 1) ?_⟩
      rw [shift 0]
      simpa using onward

/-! ### Columns of integers -/

/-- The integers of 64 bits at a field. -/
def integersAt (field : FieldPath) (rows : List Row) : List Int :=
  rows.filterMap fun row => (Row.at row field).int64?

section

variable {field : FieldPath} {rows rows' : List Row}

theorem fits_of_mem_integersAt {x : Int} (mem : x ∈ integersAt field rows) : fits64 x = true := by
  obtain ⟨row, _, found⟩ := List.mem_filterMap.mp mem
  cases value : Row.at row field with
  | number n =>
    rw [value, Value.int64?] at found
    exact (Number.int64?_eq_some_iff.mp found).2
  | _ => simp [value, Value.int64?] at found

/-- Where all numbers at a field are integers of 64 bits, these are what is summed. -/
theorem numbers_presentValues (integral : ∀ row ∈ rows, (Row.at row field).Integral) :
    numbers (presentValues field rows) = (integersAt field rows).map Number.int := by
  unfold numbers presentValues integersAt
  rw [List.filter_filterMap, List.filterMap_filterMap, List.map_filterMap]
  refine List.filterMap_congr fun row mem => ?_
  have own := integral row mem
  unfold Row.at at own ⊢
  cases found : Row.lookup row field with
  | none => rfl
  | some v =>
    rw [found] at own
    cases v with
    | number n =>
      obtain ⟨i, exact_⟩ := Option.isSome_iff_exists.mp (own n rfl)
      obtain ⟨rfl, -⟩ := Number.int64?_eq_some_iff.mp exact_
      simp [Option.filter, Value.isNull, Value.int64?, exact_]
    | _ => simp [Option.filter, Value.isNull, Value.int64?]

/-- A double is never the value of an integer. -/
theorem ofFloat_ne_ofInt (x : Binary64) (n : Int) : Value.ofFloat x ≠ Value.ofInt n := by
  unfold Value.ofFloat Value.ofInt
  split_ifs <;> simp

/-- **A sum of integers is exact when all leading sums have 64 bits.** -/
theorem sum_eq_ofInt_iff (integral : ∀ row ∈ rows, (Row.at row field).Integral) :
    sum (presentValues field rows) = .ofInt (integersAt field rows).sum ↔
      LeadingFit (integersAt field rows) := by
  have fits : ∀ x ∈ integersAt field rows, fits64 x = true := fun _ => fits_of_mem_integersAt
  have lasts (total : Int) :
      ((integersAt field rows).map Number.int).foldl intTotal? (some 0) = some total ↔
        LeadingFit (integersAt field rows) ∧ (integersAt field rows).sum = total := by
    have from_zero := @foldl_intTotal?_eq_some_iff _ fits 0 total (by decide)
    simpa only [Int.zero_add, LeadingFit] using from_zero
  unfold sum
  rw [numbers_presentValues integral]
  dsimp only
  split
  case h_1 total found =>
    obtain ⟨fit, rfl⟩ := (lasts total).mp found
    exact iff_of_true rfl fit
  case h_2 lost =>
    refine iff_of_false (ofFloat_ne_ofInt _ _) fun fit => ?_
    rw [(lasts _).mpr ⟨fit, rfl⟩] at lost
    exact nomatch lost

/-- A column with the sum of a field. -/
def sumOf (name : String) (field : FieldPath) : Aggregate :=
  ⟨name, .sum, some field⟩

theorem computeOne_sumOf (input : Schema) (rows : List Row) (name : String) (field : FieldPath) :
    computeOne input rows (sumOf name field) = sum (presentValues field rows) := rfl

end

/-- **When sums of integers are exact.** Let all numbers at a field be integers of 64 bits.
Rows in any order sum to their total exactly when the integers of all leading rows sum to 64
bits. All orders of the rows sum to the total exactly when the positive integers sum to 64
bits, and so do the negative ones. -/
theorem sum_exact_iff (input : Schema) (rows : List Row) (name : String) (field : FieldPath)
    (integral : ∀ row ∈ rows, (Row.at row field).Integral) :
    (∀ ordered : List Row, ordered.Perm rows →
        (computeOne input ordered (sumOf name field) = .ofInt (integersAt field rows).sum ↔
          LeadingFit (integersAt field ordered))) ∧
      ((∀ ordered : List Row, ordered.Perm rows →
          computeOne input ordered (sumOf name field) = .ofInt (integersAt field rows).sum) ↔
        fits64 (positiveSum (integersAt field rows)) = true ∧
          fits64 (negativeSum (integersAt field rows)) = true) := by
  have each : ∀ ordered : List Row, ordered.Perm rows →
      (computeOne input ordered (sumOf name field) = .ofInt (integersAt field rows).sum ↔
        LeadingFit (integersAt field ordered)) := by
    intro ordered perm
    have total : (integersAt field rows).sum = (integersAt field ordered).sum :=
      (perm.symm.filterMap _).sum_eq
    rw [computeOne_sumOf, total]
    exact sum_eq_ofInt_iff fun row mem => integral row (perm.mem_iff.mp mem)
  refine ⟨each, (forall₂_congr each).trans ?_⟩
  exact forall_perm_leadingFit_iff (fun row => (Row.at row field).int64?) rows

/-- Stars that sum to the greatest integer of 64 bits, with one more on the way. -/
def overflowing : List Row :=
  [[("stars", .number (.int 9223372036854775807))], [("stars", .number (.int 1))],
    [("stars", .number (.int (-1)))]]

/-- The same stars without a greater sum on the way. -/
def ascending : List Row :=
  [[("stars", .number (.int (-1)))], [("stars", .number (.int 1))],
    [("stars", .number (.int 9223372036854775807))]]

/-- One order of the rows sums to their total, though not every order does. -/
theorem sum_exact_iff_ascending :
    (∀ row ∈ overflowing, (Row.at row ⟨"stars", []⟩).Integral) ∧
      ascending.Perm overflowing ∧
      computeOne (.of .bookmark) ascending (sumOf "total" ⟨"stars", []⟩) =
        .ofInt 9223372036854775807 ∧
      ¬ ∀ ordered : List Row, ordered.Perm overflowing →
        computeOne (.of .bookmark) ordered (sumOf "total" ⟨"stars", []⟩) =
          .ofInt 9223372036854775807 := by
  have integral : ∀ row ∈ overflowing, (Row.at row ⟨"stars", []⟩).Integral := by decide
  have perm : ascending.Perm overflowing := by decide
  have along : LeadingFit (integersAt ⟨"stars", []⟩ ascending) := by
    intro k
    match k with
    | 0 | 1 | 2 => rfl
    | k + 3 =>
      have all : (integersAt ⟨"stars", []⟩ ascending).length ≤ k + 3 := Nat.le_add_left 3 k
      rw [List.take_of_length_le all]
      rfl
  have total : (integersAt ⟨"stars", []⟩ overflowing).sum = 9223372036854775807 := by decide
  obtain ⟨each, every⟩ := sum_exact_iff (.of .bookmark) overflowing "total" ⟨"stars", []⟩ integral
  rw [total] at each every
  refine ⟨integral, perm, (each ascending perm).mpr along, fun all => ?_⟩
  exact absurd (every.mp all).1 (by decide)

/-- **A total of 64 bits can come out as a double.** All stars are integers of 64 bits, and
they sum to the greatest of these, but the first two do not. -/
theorem sum_of_overflowing :
    (∀ row ∈ overflowing, (Row.at row ⟨"stars", []⟩).Integral) ∧
      (integersAt ⟨"stars", []⟩ overflowing).sum = 9223372036854775807 ∧
      fits64 9223372036854775807 = true ∧
      computeOne (.of .bookmark) overflowing (sumOf "total" ⟨"stars", []⟩) =
        .number (.float (Binary64.ofInt 9223372036854775808)) := by
  refine ⟨by decide, by decide, by decide, ?_⟩
  decide +kernel

end Grouping

end BookmarkViews
