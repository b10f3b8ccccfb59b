import BookmarkViews.Condition.FromNode
import BookmarkViews.Condition.Holds
import BookmarkViews.Pattern.Standard
import BookmarkViews.Proofs.Number.Rounding
import BookmarkViews.Proofs.Value.Integers
import Mathlib.Order.Compare

/-!
An integer as a condition on integers.

A comparison sign before an integer compares exactly. The integer alone, as a literal,
asks for an equal nearest double. So `== k` and `!= k` divide the integers of a field
into `k` and all others, while the literal `k` takes with `k` all that share its nearest
double (`OneDouble`). Below two to the power of 53 no two integers do.
-/

namespace BookmarkViews

/-- Different integers with one nearest double. -/
structure OneDouble (v k : Int) : Prop where
  apart : v ≠ k
  same : Binary64.ofInt v = Binary64.ofInt k

/-- Integers that share their nearest double are large. -/
theorem OneDouble.large {v k : Int} (h : OneDouble v k) :
    2 ^ 53 ≤ v.natAbs ∧ 2 ^ 53 ≤ k.natAbs := by
  constructor
  · exact Nat.le_of_not_lt fun small => h.apart (Binary64.eq_of_ofInt_eq small h.same.symm).symm
  · exact Nat.le_of_not_lt fun small => h.apart (Binary64.eq_of_ofInt_eq small h.same)

variable {type : Option FieldType} {v : Int}

/-- **In a field of numbers, or of no type, a sign before an integer compares exactly.** -/
theorem Comparison.holdsOf_int (numeric : type.all FieldType.isNumeric = true)
    (fits : Decimal.fits64 v = true) (op : Comparison) (k : Int) :
    op.holdsOf type (.ofInt v) (.int k) = op.holds (compare v k) := by
  have integer : (Number.int v).int64? = some v := Number.int64?_eq_some_iff.mpr ⟨rfl, fits⟩
  have exactly : (Value.ofInt v).compareNumber? (.int k) = some (compare v k) := by
    simp only [Value.ofInt, Value.compareNumber?, integer]
  have own : (Value.ofInt v).ownType? = some .int := by
    rw [Value.ofInt, Value.ownType?, integer, Option.isSome_some, if_pos rfl]
  have typed : (Value.ofInt v).compareScalar? type (.int k) = some (compare v k) := by
    rcases type with _ | type
    · unfold Value.compareScalar?
      rw [Option.filter_none, Option.none_or, own]
      exact exactly
    · cases type <;> first | exact exactly | exact nomatch numeric
  change ((Value.ofInt v).compareScalar? type (.int k)).any op.holds = _
  rw [typed, Option.any_some]

/-- **A literal integer asks an integer for an equal nearest double.** -/
theorem Scalar.equalsOf_int (type : Option FieldType) (v k : Int) :
    (Scalar.int k).equalsOf type (.ofInt v) = true ↔ v = k ∨ OneDouble v k := by
  have nearest : (Scalar.int k).equals (.ofInt v) =
      (Binary64.ofInt v).sameValue (Binary64.ofInt k) := by
    simp only [Value.ofInt, Scalar.equals, Value.numeric?, Scalar.numeric?, Scalar.toFloat?,
      Number.toFloat, Bool.false_or]
  have loosely : (Scalar.int k).equalsOf type (.ofInt v) = (Scalar.int k).equals (.ofInt v) := rfl
  rw [loosely, nearest, Binary64.sameValue_ofInt_iff]
  constructor
  · intro same
    by_cases equal : v = k
    · exact .inl equal
    · exact .inr ⟨equal, same⟩
  · rintro (rfl | ⟨-, same⟩)
    · rfl
    · exact same

namespace Condition

/-- A number of a document is the literal of itself. -/
theorem ofNode?_int [PatternEngine] {k : Int} (fits : Decimal.fits64 k = true) :
    ofNode? (.number (.int k)) = .ok (.literal (.int k)) := by
  rw [ofNode?, Scalar.ofNumber, Number.int64?_eq_some_iff.mpr ⟨rfl, fits⟩]

/-- **Which integers meet an integer.** Of two integers of 64 bits, in a field of numbers or
of no type, `== k` holds of `v` exactly where they are equal, and `!= k` exactly where they
are not. The literal `k`, which is how a document writes it, holds of `v` exactly where they
are equal or share their nearest double. So all three agree where one of the two is below two
to the power of 53. -/
theorem integer_equality [PatternEngine] (numeric : type.all FieldType.isNumeric = true) (now : Instant)
    {v k : Int} (fits : Decimal.fits64 v = true) (fits' : Decimal.fits64 k = true) :
    ofNode? (.number (.int k)) = .ok (.literal (.int k)) ∧
      (holds now type (.ofInt v) (.compare .eq (.int k)) = true ↔ v = k) ∧
      (holds now type (.ofInt v) (.compare .ne (.int k)) = false ↔ v = k) ∧
      (holds now type (.ofInt v) (.literal (.int k)) = true ↔ v = k ∨ OneDouble v k) ∧
      (v.natAbs < 2 ^ 53 ∨ k.natAbs < 2 ^ 53 →
        (holds now type (.ofInt v) (.literal (.int k)) = true ↔ v = k)) := by
  have literal : holds now type (.ofInt v) (.literal (.int k)) = true ↔ v = k ∨ OneDouble v k := by
    rw [holds, Scalar.equalsOf_int]
  refine ⟨ofNode?_int fits', ?_, ?_, literal, fun small => ?_⟩
  · rw [holds, Comparison.holdsOf_int numeric fits, Comparison.holds, beq_iff_eq, compare_eq_iff_eq]
  · rw [holds, Comparison.holdsOf_int numeric fits, Comparison.holds, bne_eq_false_iff_eq,
      compare_eq_iff_eq]
  · rw [literal, or_iff_left_iff_imp]
    intro shared
    obtain ⟨large, large'⟩ := shared.large
    omega

open StandardPatterns

/-- The greatest integer of 64 bits shares its nearest double with others, but not with
three. -/
theorem integer_equality_three :
    Decimal.fits64 3 = true ∧ Decimal.fits64 Decimal.greatest64 = true ∧
      (holds ⟨0, 0⟩ none (.ofInt 3) (.literal (.int Decimal.greatest64)) = true ↔
        3 = Decimal.greatest64) := by
  have fits : Decimal.fits64 3 = true := by decide
  have fits' : Decimal.fits64 Decimal.greatest64 = true := by decide
  exact ⟨fits, fits', (integer_equality rfl ⟨0, 0⟩ fits fits').2.2.2.2 (.inl (by decide))⟩

/-- **A literal integer that holds of another integer.** The two differ by one and have one
nearest double; in no field of numbers are they equal to `==`. -/
theorem literal_of_other_integer :
    (9007199254740993 : Int) ≠ 9007199254740992 ∧
      ∀ type ∈ [none, some FieldType.int, some FieldType.float],
        holds ⟨0, 0⟩ type (.ofInt 9007199254740993) (.literal (.int 9007199254740992)) = true ∧
          holds ⟨0, 0⟩ type (.ofInt 9007199254740993) (.compare .eq (.int 9007199254740992)) =
            false := by
  decide +kernel

end Condition

end BookmarkViews
