import BookmarkViews.Proofs.Number.Rounding
import BookmarkViews.Proofs.Time.DayCount
import BookmarkViews.Proofs.Value.Integers
import BookmarkViews.Value.Order
import Mathlib.Order.Compare

/-!
How far the values of one field are in order.

Every part of the order is a total preorder but one: texts by their characters, instants
by their numbers, what has no place of its own by kind and JSON text. The exception are
numbers. Two integers of 64 bits are compared exactly, and with any other number they are
compared as doubles. So a number that is no such integer can be equal to two different
integers that have its double in common (`Number.Blurs`).

* `order_self`, `order_swap`: every value is equal to itself, and two values are in
  reverse order the other way round;
* `order_isLE_trans`: three values are in order unless the middle one blurs the others;
* `order_preorder_iff`: the laws of three values hold exactly then.
-/

namespace BookmarkViews

open Std (OrientedCmp TransCmp)

/-! ### Numbers -/

namespace Binary64

instance : TransCmp totalCompare :=
  inferInstanceAs (TransCmp (compareOn totalKey))

/-- Numbers in one place of the order of all numbers are the same. -/
theorem eq_of_totalCompare {x y : Binary64} (h : x.totalCompare y = .eq) : x = y :=
  totalKey_injective (compare_eq_iff_eq.mp h)

theorem totalCompare_self (x : Binary64) : x.totalCompare x = .eq :=
  compare_eq_iff_eq.mpr rfl

/-- **The nearest doubles of integers are in the order of all numbers, or equal.** -/
theorem totalKey_ofInt_mono {i j : Int} (h : i ≤ j) : (ofInt i).totalKey ≤ (ofInt j).totalKey := by
  have scaled {m n : Nat} (le : m ≤ n) : roundUnits (m * one) 1 ≤ roundUnits (n * one) 1 :=
    roundUnits_mono (Nat.mul_le_mul_right one le)
  simp only [totalKey, ofInt, ofRatio, decide_eq_true_eq]
  split_ifs with first second
  · have := scaled (m := j.natAbs) (n := i.natAbs) (by omega)
    omega
  · omega
  · omega
  · have := scaled (m := i.natAbs) (n := j.natAbs) (by omega)
    omega

end Binary64

namespace Number

/-- A number that is no integer of 64 bits has the nearest double of two different
integers of 64 bits. -/
structure Blurs (k m n : Number) : Prop where
  inexact : k.int64? = none
  integers : ∃ i j, m.int64? = some i ∧ n.int64? = some j ∧ i ≠ j
  left : m.toFloat = k.toFloat
  right : n.toFloat = k.toFloat

end Number

namespace Value

open Number (Blurs)

theorem numberOrder_int {m n : Number} {i j : Int} (hm : m.int64? = some i)
    (hn : n.int64? = some j) : numberOrder m n = compare i j := by
  rw [numberOrder, hm, hn]

/-- Unless both are integers of 64 bits, numbers are compared as doubles. -/
theorem numberOrder_float {m n : Number} (h : m.int64? = none ∨ n.int64? = none) :
    numberOrder m n = m.toFloat.totalCompare n.toFloat := by
  unfold numberOrder
  rcases h with h | h
  · rw [h]
  · rw [h]
    cases m.int64? <;> rfl

theorem numberOrder_self (n : Number) : numberOrder n n = .eq := by
  cases h : n.int64? with
  | some i => exact (numberOrder_int h h).trans (compare_eq_iff_eq.mpr rfl)
  | none => exact (numberOrder_float (.inl h)).trans (Binary64.totalCompare_self _)

theorem numberOrder_swap (m n : Number) : numberOrder n m = (numberOrder m n).swap := by
  cases hm : m.int64? with
  | none =>
    rw [numberOrder_float (.inr hm), numberOrder_float (.inl hm)]
    exact OrientedCmp.eq_swap
  | some i =>
    cases hn : n.int64? with
    | none =>
      rw [numberOrder_float (.inl hn), numberOrder_float (.inr hn)]
      exact OrientedCmp.eq_swap
    | some j =>
      rw [numberOrder_int hn hm, numberOrder_int hm hn]
      exact OrientedCmp.eq_swap

/-- What is not greater as a number is not greater as a double. -/
theorem totalCompare_of_numberOrder {m n : Number} (h : (numberOrder m n).isLE) :
    (m.toFloat.totalCompare n.toFloat).isLE := by
  cases hm : m.int64? with
  | none => rwa [numberOrder_float (.inl hm)] at h
  | some i =>
    cases hn : n.int64? with
    | none => rwa [numberOrder_float (.inr hn)] at h
    | some j =>
      rw [numberOrder_int hm hn, Int.isLE_compare] at h
      rw [Number.toFloat_of_int64? hm, Number.toFloat_of_int64? hn, Binary64.totalCompare,
        Int.isLE_compare]
      exact Binary64.totalKey_ofInt_mono h

/-- **Three numbers are in order unless the middle one blurs the others.** -/
theorem numberOrder_isLE_trans {m k n : Number} (clear : ¬ k.Blurs m n)
    (first : (numberOrder m k).isLE) (second : (numberOrder k n).isLE) :
    (numberOrder m n).isLE := by
  have low := totalCompare_of_numberOrder first
  have high := totalCompare_of_numberOrder second
  cases hm : m.int64? with
  | none =>
    rw [numberOrder_float (.inl hm)]
    exact TransCmp.isLE_trans low high
  | some i =>
    cases hn : n.int64? with
    | none =>
      rw [numberOrder_float (.inr hn)]
      exact TransCmp.isLE_trans low high
    | some j =>
      cases hk : k.int64? with
      | some l =>
        rw [numberOrder_int hm hk] at first
        rw [numberOrder_int hk hn] at second
        rw [numberOrder_int hm hn]
        exact TransCmp.isLE_trans first second
      | none =>
        rw [numberOrder_int hm hn, Int.isLE_compare]
        by_contra greater
        -- the doubles of the two integers lie around that of the middle, in the wrong order
        have back : (n.toFloat.totalCompare m.toFloat).isLE := by
          rw [Number.toFloat_of_int64? hn, Number.toFloat_of_int64? hm, Binary64.totalCompare,
            Int.isLE_compare]
          exact Binary64.totalKey_ofInt_mono (Int.le_of_lt (Int.not_le.mp greater))
        have left : m.toFloat.totalCompare k.toFloat = .eq :=
          OrientedCmp.isLE_antisymm low (TransCmp.isLE_trans high back)
        have right : k.toFloat.totalCompare n.toFloat = .eq :=
          OrientedCmp.isLE_antisymm high (TransCmp.isLE_trans back low)
        exact clear
          { inexact := hk
            integers := ⟨i, j, hm, hn, fun same => greater (Int.le_of_eq same)⟩
            left := Binary64.eq_of_totalCompare left
            right := (Binary64.eq_of_totalCompare right).symm }

/-! ### Values of one kind -/

instance : TransCmp looseOrder :=
  let texts (a b : Value) : Ordering := Text.order a.compact b.compact
  have : TransCmp texts :=
    { eq_swap {a b} := @OrientedCmp.eq_swap _ Text.order _ a.compact b.compact
      isLE_trans {a b c} :=
        @TransCmp.isLE_trans _ Text.order _ a.compact b.compact c.compact }
  inferInstanceAs (TransCmp (compareLex (compareOn rank) texts))

instance : TransCmp dateOrder where
  eq_swap {a b} := by
    unfold dateOrder
    cases a.instant? <;> cases b.instant?
    case none.none => exact @OrientedCmp.eq_swap _ looseOrder _ _ _
    case some.some => exact @OrientedCmp.eq_swap _ Instant.compare _ _ _
    all_goals rfl
  isLE_trans {a b c} first second := by
    unfold dateOrder at *
    cases ha : a.instant? <;> cases hb : b.instant? <;> cases hc : c.instant? <;>
      simp only [ha, hb, hc] at first second ⊢
    case none.none.none => exact TransCmp.isLE_trans first second
    case some.some.some => exact TransCmp.isLE_trans first second
    all_goals first | rfl | exact absurd first (by decide) | exact absurd second (by decide)

/-- The number by which a value stands among others of a field. -/
def orderedNumber? (type : Option FieldType) : Value → Option Number
  | .number n => if type.all FieldType.isNumeric then some n else none
  | _ => none

/-- The text by which a value that is no such number stands among others of its kind. -/
def orderedText (type : Option FieldType) : Value → String
  | .text s => if type.all (· == .text) then s else (text s).compact
  | v => v.compact

/-- The order of two values of one kind in a field without dates. -/
def kindOrder (type : Option FieldType) (a b : Value) : Ordering :=
  match orderedNumber? type a, orderedNumber? type b with
  | some m, some n => numberOrder m n
  | _, _ => Text.order (orderedText type a) (orderedText type b)

/-- Flags come in the order of their JSON texts. -/
theorem compare_bool (s t : Bool) :
    compare s t = Text.order (bool s).compact (bool t).compact := by
  cases s <;> cases t <;> decide

/-- Among values of different kinds nothing but the kind counts. -/
theorem then_of_rank_ne {a b : Value} (different : a.rank ≠ b.rank) (o : Ordering) :
    (compare a.rank b.rank).then o = compare a.rank b.rank := by
  cases h : compare a.rank b.rank with
  | eq => exact absurd (compare_eq_iff_eq.mp h) different
  | lt => rfl
  | gt => rfl

theorem order_of_rank_ne {type : Option FieldType} (undated : type ≠ some .date) {a b : Value}
    (different : a.rank ≠ b.rank) : order type a b = compare a.rank b.rank := by
  have loose : looseOrder a b = compare a.rank b.rank := then_of_rank_ne different _
  unfold order
  split
  case h_1 dated =>
    rcases Option.or_eq_some_iff.mp dated with own | ⟨-, own⟩
    · exact absurd own undated
    · cases a <;> simp only [ownType?, reduceCtorEq, Option.some.injEq] at own
      split_ifs at own
  -- a type that orders values of one kind leaves those of two kinds to the loose order
  case h_6 => exact loose
  all_goals
    split
    · exact absurd rfl different
    · exact loose

theorem order_of_rank_eq {type : Option FieldType} (undated : type ≠ some .date) {a b : Value}
    (same : a.rank = b.rank) : order type a b = kindOrder type a b := by
  have loose : looseOrder a b = Text.order a.compact b.compact := by
    rw [looseOrder, compare_eq_iff_eq.mpr same, Ordering.eq_then]
  unfold order kindOrder
  cases a with
  | number m =>
    cases b with
    | number n =>
      rcases type with _ | type
      · -- a number's own type has two names, and both order numbers alike
        simp only [Option.none_or, ownType?, orderedNumber?, Option.all_none, if_true]
        split_ifs <;> rfl
      · cases type <;> simp [orderedNumber?, orderedText, FieldType.isNumeric, loose] at undated ⊢
    | _ => simp [rank] at same
  | text s =>
    cases b with
    | text t =>
      rcases type with _ | type
      · simp [orderedNumber?, orderedText, ownType?]
      · cases type <;> simp [orderedNumber?, orderedText, loose] at undated ⊢
    | _ => simp [rank] at same
  | bool s =>
    cases b with
    | bool t =>
      rcases type with _ | type
      · simp [orderedNumber?, orderedText, ownType?, compare_bool]
      · cases type <;> simp [orderedNumber?, orderedText, loose, compare_bool] at undated ⊢
    | _ => simp [rank] at same
  | null | list _ | object _ =>
    cases b <;> first | (simp [rank] at same; done) | skip
    rcases type with _ | type
    · simp [orderedNumber?, orderedText, ownType?, loose]
    · cases type <;> simp [orderedNumber?, orderedText, loose] at undated ⊢

/-- **Values of a field without dates come kind by kind.** -/
theorem order_eq_then {type : Option FieldType} (undated : type ≠ some .date) (a b : Value) :
    order type a b = (compare a.rank b.rank).then (kindOrder type a b) := by
  by_cases same : a.rank = b.rank
  · rw [order_of_rank_eq undated same, compare_eq_iff_eq.mpr same, Ordering.eq_then]
  · rw [order_of_rank_ne undated same, then_of_rank_ne same]

theorem orderedNumber?_eq_some_iff {type : Option FieldType} {v : Value} {n : Number} :
    orderedNumber? type v = some n ↔ v = .number n ∧ type.all FieldType.isNumeric = true := by
  cases v with
  | number m => simp [orderedNumber?, and_comm]
  | _ => simp [orderedNumber?]

/-- Of values of one kind, all stand by a number or none does. -/
theorem orderedNumber?_eq_none {type : Option FieldType} {a b : Value} (same : a.rank = b.rank)
    (h : orderedNumber? type a = none) : orderedNumber? type b = none := by
  cases b with
  | number n =>
    cases a with
    | number m =>
      rw [orderedNumber?, ite_eq_right_iff] at h ⊢
      exact fun numeric => nomatch h numeric
    | _ => simp [rank] at same
  | _ => rfl

theorem kindOrder_number {type : Option FieldType} {a b : Value} {m n : Number}
    (ha : orderedNumber? type a = some m) (hb : orderedNumber? type b = some n) :
    kindOrder type a b = numberOrder m n := by
  rw [kindOrder, ha, hb]

theorem kindOrder_text {type : Option FieldType} {a b : Value} (same : a.rank = b.rank)
    (ha : orderedNumber? type a = none) :
    kindOrder type a b = Text.order (orderedText type a) (orderedText type b) := by
  rw [kindOrder, ha, orderedNumber?_eq_none same ha]

theorem kindOrder_self (type : Option FieldType) (a : Value) : kindOrder type a a = .eq := by
  cases ha : orderedNumber? type a with
  | some m => rw [kindOrder_number ha ha, numberOrder_self]
  | none => rw [kindOrder_text rfl ha, Text.order_eq_eq_iff]

theorem kindOrder_swap {type : Option FieldType} {a b : Value} (same : a.rank = b.rank) :
    kindOrder type b a = (kindOrder type a b).swap := by
  cases ha : orderedNumber? type a with
  | none =>
    rw [kindOrder_text same ha, kindOrder_text same.symm (orderedNumber?_eq_none same ha)]
    exact OrientedCmp.eq_swap
  | some m =>
    cases hb : orderedNumber? type b with
    | none => exact absurd (orderedNumber?_eq_none same.symm hb) (by simp [ha])
    | some n => rw [kindOrder_number ha hb, kindOrder_number hb ha, numberOrder_swap]

/-- Three numbers in a field of a numeric type or of none, of which the middle one blurs the
others. -/
inductive Blurred (type : Option FieldType) : Value → Value → Value → Prop where
  | numbers {m k n : Number} (numeric : type.all FieldType.isNumeric = true)
      (blurs : k.Blurs m n) : Blurred type (.number m) (.number k) (.number n)

theorem kindOrder_isLE_trans {type : Option FieldType} {a b c : Value}
    (clear : ¬ Blurred type a b c) (left : a.rank = b.rank) (right : b.rank = c.rank)
    (first : (kindOrder type a b).isLE) (second : (kindOrder type b c).isLE) :
    (kindOrder type a c).isLE := by
  cases hb : orderedNumber? type b with
  | none =>
    have ha := orderedNumber?_eq_none left.symm hb
    rw [kindOrder_text left ha] at first
    rw [kindOrder_text right hb] at second
    rw [kindOrder_text (left.trans right) ha]
    exact TransCmp.isLE_trans first second
  | some k =>
    cases ha : orderedNumber? type a with
    | none => exact absurd (orderedNumber?_eq_none left ha) (by simp [hb])
    | some m =>
      cases hc : orderedNumber? type c with
      | none => exact absurd (orderedNumber?_eq_none right.symm hc) (by simp [hb])
      | some n =>
        rw [kindOrder_number ha hb] at first
        rw [kindOrder_number hb hc] at second
        rw [kindOrder_number ha hc]
        obtain ⟨rfl, numeric⟩ := orderedNumber?_eq_some_iff.mp ha
        obtain ⟨rfl, -⟩ := orderedNumber?_eq_some_iff.mp hb
        obtain ⟨rfl, -⟩ := orderedNumber?_eq_some_iff.mp hc
        exact numberOrder_isLE_trans (fun blurs => clear (.numbers numeric blurs)) first second

/-! ### Values of one field -/

section

variable (type : Option FieldType)

/-- Every value is equal to itself. -/
theorem order_self (a : Value) : order type a a = .eq := by
  by_cases dated : type = some .date
  · subst dated
    exact @Std.ReflCmp.compare_self _ dateOrder _ _
  · rw [order_eq_then dated, kindOrder_self, compare_eq_iff_eq.mpr rfl]
    rfl

/-- **Two values are in reverse order the other way round.** -/
theorem order_swap (a b : Value) : order type b a = (order type a b).swap := by
  by_cases dated : type = some .date
  · subst dated
    exact @OrientedCmp.eq_swap _ dateOrder _ _ _
  · by_cases same : a.rank = b.rank
    · rw [order_of_rank_eq dated same, order_of_rank_eq dated same.symm, kindOrder_swap same]
    · rw [order_of_rank_ne dated same, order_of_rank_ne dated (Ne.symm same)]
      exact OrientedCmp.eq_swap

variable {type} {a b c : Value}

/-- **Three values are in order unless the middle one blurs the others.** -/
theorem order_isLE_trans (clear : ¬ Blurred type a b c) (first : (order type a b).isLE)
    (second : (order type b c).isLE) : (order type a c).isLE := by
  by_cases dated : type = some .date
  · subst dated
    exact @TransCmp.isLE_trans _ dateOrder _ _ _ _ first second
  · rw [order_eq_then dated, Ordering.isLE_then_iff_or, Nat.compare_eq_lt, Nat.compare_eq_eq] at *
    rcases first with below | ⟨left, first⟩
    · rcases second with below' | ⟨right, -⟩
      · exact .inl (below.trans below')
      · exact .inl (right ▸ below)
    · rcases second with below' | ⟨right, second⟩
      · exact .inl (left ▸ below')
      · exact .inr ⟨left.trans right, kindOrder_isLE_trans clear left right first second⟩

theorem Blurred.symm (h : Blurred type a b c) : Blurred type c b a := by
  obtain ⟨numeric, blurs⟩ := h
  obtain ⟨i, j, hm, hn, apart⟩ := blurs.integers
  exact .numbers numeric ⟨blurs.inexact, ⟨j, i, hn, hm, apart.symm⟩, blurs.right, blurs.left⟩

/-- An integer of 64 bits blurs nothing. -/
theorem not_blurred (integral : b.Integral) : ¬ Blurred type a b c := by
  rintro ⟨-, blurs⟩
  have integer := integral _ rfl
  rw [blurs.inexact] at integer
  exact nomatch integer

/-- A field of a numeric type, or of none, has its numbers in the order of numbers. -/
theorem order_number (numeric : type.all FieldType.isNumeric = true) (m n : Number) :
    order type (.number m) (.number n) = numberOrder m n := by
  have undated : type ≠ some .date := by
    rintro rfl
    exact nomatch numeric
  have own (k : Number) : orderedNumber? type (.number k) = some k :=
    orderedNumber?_eq_some_iff.mpr ⟨rfl, numeric⟩
  have same : (number m).rank = (number n).rank := rfl
  rw [order_of_rank_eq undated same, kindOrder_number (own m) (own n)]

/-- A value that blurs two others is equal to both, and they are not equal. -/
theorem Blurred.order_eq (h : Blurred type a b c) :
    order type a b = .eq ∧ order type b c = .eq ∧ order type a c ≠ .eq := by
  obtain ⟨numeric, blurs⟩ := h
  obtain ⟨i, j, hm, hn, apart⟩ := blurs.integers
  rw [order_number numeric, order_number numeric, order_number numeric]
  refine ⟨?_, ?_, ?_⟩
  · rw [numberOrder_float (.inr blurs.inexact), blurs.left, Binary64.totalCompare_self]
  · rw [numberOrder_float (.inl blurs.inexact), blurs.right, Binary64.totalCompare_self]
  · rw [numberOrder_int hm hn]
    exact fun same => apart (compare_eq_iff_eq.mp same)

/-- What is not greater either way round is equal. -/
theorem order_antisymm (upward : (order type a b).isLE) (downward : (order type b a).isLE) :
    order type a b = .eq := by
  rw [order_swap, Ordering.isLE_swap] at downward
  exact Ordering.eq_eq_of_isLE_of_isGE upward downward

end

/-- **The values of a field are in a total preorder but for blurred numbers.** Every value is
equal to itself, and two values are in reverse order the other way round. What is not greater
than a value that is not greater than a third one is not greater than the third, and equal to
it where both pairs are equal, exactly when the value between does not blur the others. -/
theorem order_preorder_iff (type : Option FieldType) (a b c : Value) :
    order type a a = .eq ∧ order type b a = (order type a b).swap ∧
      (((order type a b ≠ .gt → order type b c ≠ .gt → order type a c ≠ .gt) ∧
          (order type a b = .eq → order type b c = .eq → order type a c = .eq)) ↔
        ¬ Blurred type a b c) := by
  refine ⟨order_self type a, order_swap type a b, ?_, ?_⟩
  · rintro ⟨-, equal⟩ blurred
    obtain ⟨left, right, apart⟩ := blurred.order_eq
    exact apart (equal left right)
  · intro clear
    constructor
    · simp only [ne_eq, ← Ordering.isLE_iff_ne_gt]
      exact order_isLE_trans clear
    · intro left right
      have left' : order type b a = .eq := by
        rw [order_swap, left, Ordering.swap_eq]
      have right' : order type c b = .eq := by
        rw [order_swap, right, Ordering.swap_eq]
      refine order_antisymm (order_isLE_trans clear ?_ ?_)
        (order_isLE_trans (fun blurred => clear blurred.symm) ?_ ?_)
      all_goals simp only [left, right, left', right', Ordering.isLE_eq]

/-- The double two to the power of 53 is equal to this integer and to the next one, of which
the next is greater. -/
theorem double_equal_to_two_integers :
    order (some .int) (.number (.int 9007199254740993))
        (.number (.float ⟨false, 4845873199050653696⟩)) = .eq ∧
      order (some .int) (.number (.float ⟨false, 4845873199050653696⟩))
        (.number (.int 9007199254740992)) = .eq ∧
      order (some .int) (.number (.int 9007199254740993))
        (.number (.int 9007199254740992)) = .gt := by
  decide +kernel

end Value

end BookmarkViews
