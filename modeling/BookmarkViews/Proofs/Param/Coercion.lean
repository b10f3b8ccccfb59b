import BookmarkViews.Param.Spec
import BookmarkViews.Proofs.Sequencing

/-!
Coercing twice is coercing once.

What a coercion answers has the type already, and a value of the type is kept as it is; the
choices are looked up in the coerced value, which they do not change.
-/

namespace BookmarkViews

namespace ParamType

variable {v w : Value}

theorem coerceInt?_of_coerceInt? (h : coerceInt? v = .ok w) : coerceInt? w = .ok w := by
  cases v with
  | number n =>
    rw [coerceInt?] at h
    split at h
    · next fits =>
      obtain rfl := Except.ok.inj h
      rw [coerceInt?, if_pos fits]
    · exact nomatch h
  | text s =>
    rw [coerceInt?] at h
    split at h
    · next i read =>
      obtain rfl := Except.ok.inj h
      have fits : Decimal.fits64 i = true := (Option.filter_eq_some_iff.mp read).2
      simp [Value.ofInt, coerceInt?, Number.int64?, fits]
    · exact nomatch h
  | _ => exact nomatch h

theorem coerceFloat?_of_coerceFloat? (h : coerceFloat? v = .ok w) : coerceFloat? w = .ok w := by
  rw [coerceFloat?] at h
  split at h
  · split at h
    · next x _ finite =>
      obtain rfl := Except.ok.inj h
      simp [coerceFloat?, Value.numeric?, Number.toFloat, finite]
    · exact nomatch h
  · exact nomatch h

theorem coerceBool?_of_coerceBool? (h : coerceBool? v = .ok w) : coerceBool? w = .ok w := by
  cases v with
  | bool b =>
    obtain rfl := Except.ok.inj h
    rfl
  | text s =>
    rw [coerceBool?] at h
    split at h
    · obtain rfl := Except.ok.inj h
      rfl
    · exact nomatch h
  | _ => exact nomatch h

/-- A date is kept as it was supplied. -/
theorem eq_of_coerceDate? (h : coerceDate? v = .ok w) : w = v := by
  cases v with
  | text s =>
    rw [coerceDate?] at h
    split at h
    · exact (Except.ok.inj h).symm
    · exact nomatch h
  | number n =>
    rw [coerceDate?] at h
    split at h
    · exact (Except.ok.inj h).symm
    · exact nomatch h
  | _ => exact nomatch h

theorem coerceList?_of_coerceList? (h : coerceList? v = .ok w) : coerceList? w = .ok w := by
  cases v with
  | list items =>
    rw [coerceList?] at h
    split at h
    · exact nomatch h
    · next scalars =>
      obtain rfl := Except.ok.inj h
      rw [coerceList?, if_neg scalars]
  | text s =>
    obtain rfl := Except.ok.inj h
    have scalars : ((commaItems s).map Value.text).any isNestedValue = false := by
      simp [isNestedValue]
    rw [coerceList?, scalars]
    rfl
  | _ => exact nomatch h

/-- A text parameter is a text, whatever it was supplied as. -/
theorem exists_of_coerceText? (h : coerceText? v = .ok w) : ∃ s, w = .text s := by
  cases v with
  | text s => exact ⟨s, (Except.ok.inj h).symm⟩
  | number n => exact ⟨n.text, (Except.ok.inj h).symm⟩
  | bool b => exact ⟨_, (Except.ok.inj h).symm⟩
  | _ => exact nomatch h

/-- A value of a type is kept by the coercion to it. -/
theorem coerce?_of_coerce? {type : ParamType} (h : type.coerce? v = .ok w) :
    type.coerce? w = .ok w := by
  cases type with
  | text =>
    obtain ⟨s, rfl⟩ := exists_of_coerceText? h
    rfl
  | int => exact coerceInt?_of_coerceInt? h
  | float => exact coerceFloat?_of_coerceFloat? h
  | bool => exact coerceBool?_of_coerceBool? h
  | date => exact (eq_of_coerceDate? h).symm ▸ h
  | list => exact coerceList?_of_coerceList? h

end ParamType

namespace ParamSpec

/-- The check against the choices leaves a value as it is. -/
theorem eq_of_checkChoices {spec : ParamSpec} {v w : Value} (h : spec.checkChoices v = .ok w) :
    w = v := by
  rw [checkChoices] at h
  split at h
  · exact (Except.ok.inj h).symm
  · split at h
    · exact nomatch h
    · exact (Except.ok.inj h).symm

/-- **Coercing twice is coercing once**, for every type and all choices. -/
theorem coerce?_of_coerce? {spec : ParamSpec} {v w : Value} (h : spec.coerce? v = .ok w) :
    spec.coerce? w = .ok w := by
  obtain ⟨typed, coerced, chosen⟩ := bind_eq_ok.mp h
  obtain rfl := eq_of_checkChoices chosen
  exact bind_eq_ok.mpr ⟨w, ParamType.coerce?_of_coerce? coerced, chosen⟩

end ParamSpec

end BookmarkViews
