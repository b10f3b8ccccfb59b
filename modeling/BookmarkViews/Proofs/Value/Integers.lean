import BookmarkViews.Value.Basic

/-!
Values whose numbers are integers of 64 bits.
-/

namespace BookmarkViews

theorem Number.int64?_eq_some_iff {n : Number} {i : Int} :
    n.int64? = some i ↔ n = .int i ∧ Decimal.fits64 i = true := by
  cases n with
  | int m =>
    rw [int64?, Option.ite_none_right_eq_some, Option.some_inj, Number.int.injEq]
    constructor
    · rintro ⟨fits, rfl⟩
      exact ⟨rfl, fits⟩
    · rintro ⟨rfl, fits⟩
      exact ⟨fits, rfl⟩
  | float x => simp [int64?]

theorem Number.toFloat_of_int64? {n : Number} {i : Int} (h : n.int64? = some i) :
    n.toFloat = Binary64.ofInt i := by
  rw [(int64?_eq_some_iff.mp h).1, toFloat]

/-- A value is an integer of 64 bits if it is a number. -/
def Value.Integral (v : Value) : Prop :=
  ∀ n, v = .number n → n.int64?.isSome

instance : DecidablePred Value.Integral
  | .number n =>
    decidable_of_iff n.int64?.isSome ⟨fun h _ same => Value.number.inj same ▸ h, fun h => h n rfl⟩
  | .null | .bool _ | .text _ | .list _ | .object _ => isTrue nofun

end BookmarkViews
