import BookmarkViews.Proofs.Number.Reading
import BookmarkViews.Time.DateOperand

/-!
The texts of spans and dates as operands.

* `Span.read?_text`: a span whose amount has 32 bits is read back, and no other
  span is read (`Span.amount_lt_of_read?`);
* `DateOperand.read?_trim`: blanks around a date do not count;
* `DateOperand.head?_text`: the text of a date starts neither with a blank nor with
  a quote, so it is never taken for a quoted text.
-/

namespace BookmarkViews

open Decimal

/-! ### Spans -/

namespace TimeUnit

/-- The name of a unit after an amount. -/
def nameAfter (amount : Nat) (u : TimeUnit) : String :=
  if amount = 1 then u.singular else u.plural

variable (amount : Nat) (u : TimeUnit)

theorem ofName?_nameAfter : ofName? (u.nameAfter amount) = some u := by
  unfold nameAfter
  split <;> cases u <;> decide

theorem solid_nameAfter : Text.Solid (u.nameAfter amount).toList := by
  unfold nameAfter
  split <;> cases u <;> decide

theorem nameAfter_ne_nil : (u.nameAfter amount).toList ≠ [] := by
  unfold nameAfter
  split <;> cases u <;> decide

end TimeUnit

namespace Span

theorem toList_text (s : Span) :
    s.text.toList = ofNat s.amount ++ ' ' :: (s.unit.nameAfter s.amount).toList := by
  unfold text TimeUnit.nameAfter
  split
  · next one =>
    rw [one]
    simp [toString]
    rfl
  · simp [toString, ofNat]

theorem words_text (s : Span) :
    Text.words s.text.toList = [ofNat s.amount, (s.unit.nameAfter s.amount).toList] := by
  rw [toList_text, Text.words_append_blank (by decide),
    Text.words_of_solid (solid_ofNat s.amount) Nat.toDigits_ne_nil,
    Text.words_of_solid (s.unit.solid_nameAfter s.amount) (s.unit.nameAfter_ne_nil s.amount)]
  rfl

theorem tight_text (s : Span) : Text.Tight s.text.toList := by
  rw [toList_text, ← List.singleton_append, ← List.append_assoc]
  exact (Text.tight_of_solid (solid_ofNat s.amount)).append [' ']
    (Text.tight_of_solid (s.unit.solid_nameAfter s.amount)) Nat.toDigits_ne_nil
    (s.unit.nameAfter_ne_nil s.amount)

/-- **A span is read from its own text.** -/
theorem read?_text {s : Span} (fits : s.amount < 4294967296) : read? s.text = .ok s := by
  unfold read?
  rw [words_text]
  simp only [readNat32?_ofNat fits, String.ofList_toList, TimeUnit.ofName?_nameAfter]

/-- The amount of a span that is read has 32 bits. -/
theorem amount_lt_of_read? {text : String} {s : Span} (h : read? text = .ok s) :
    s.amount < 4294967296 := by
  unfold read? at h
  split at h
  · split at h
    · exact nomatch h
    · next n amount =>
      split at h
      · exact nomatch h
      · obtain rfl := Except.ok.inj h
        exact lt_of_readNat32? amount
  · exact nomatch h

end Span

/-! ### Dates -/

/-- A year starts with a digit or a sign. -/
theorem Instant.head?_yearText (year : Int) :
    ∃ c, (yearText year).head? = some c ∧ isNumberChar c = true := by
  unfold yearText
  split
  · obtain ⟨c, first, digit⟩ := (numeral_padded 4 year.natAbs).head? []
    rw [List.append_nil] at first
    exact ⟨c, first, isNumberChar_of_isDigit digit⟩
  · refine ⟨_, rfl, ?_⟩
    split <;> rfl

theorem Instant.head?_dateText (year : Int) (month day : Nat) (rest : List Char) :
    ∃ c, (dateText year month day ++ rest).head? = some c ∧ isNumberChar c = true := by
  obtain ⟨c, first, number⟩ := head?_yearText year
  refine ⟨c, ?_, number⟩
  rw [dateText, List.append_assoc, List.append_assoc, List.head?_append, first, Option.some_or]

namespace DateOperand

/-- **The text of a date starts neither with a blank nor with a quote.** -/
theorem head?_text (d : DateOperand) :
    ∃ c, d.text.toList.head? = some c ∧ Text.isBlank c = false ∧ c ≠ '"' := by
  have number {cs : List Char} (h : ∃ c, cs.head? = some c ∧ isNumberChar c = true) :
      ∃ c, cs.head? = some c ∧ Text.isBlank c = false ∧ c ≠ '"' := by
    obtain ⟨c, first, number⟩ := h
    refine ⟨c, first, isBlank_of_isNumberChar number, ?_⟩
    rintro rfl
    exact absurd number (by decide)
  cases d with
  | now => exact ⟨'n', by decide⟩
  | today => exact ⟨'t', by decide⟩
  | yesterday => exact ⟨'y', by decide⟩
  | ago span =>
    have digits : ofNat span.amount ≠ [] := Nat.toDigits_ne_nil
    have chars : (ago span).text.toList = ofNat span.amount ++
        (' ' :: (span.unit.nameAfter span.amount).toList ++ " ago".toList) := by
      simp [text, Span.toList_text, toString]
    refine number ⟨(ofNat span.amount).head digits, ?_, ?_⟩
    · rw [chars, List.head?_append, List.head?_eq_some_head digits, Option.some_or]
    · exact isNumberChar_of_isDigit (isDigit_of_mem_ofNat (List.head_mem digits))
  | date d =>
    rw [text, String.toList_ofList, ← List.append_nil (Instant.dateText _ _ _)]
    exact number (Instant.head?_dateText _ _ _ _)
  | clock t =>
    rw [text, String.toList_ofList]
    exact number (Instant.head?_dateText _ _ _ _)
  | stamp s =>
    rw [text, String.toList_ofList, Stamp.text, List.append_assoc, List.append_assoc]
    exact number (Instant.head?_dateText _ _ _ _)

/-- **Blanks around a date do not count.** -/
theorem read?_trim {s : String} {d : DateOperand} (h : read? s = .ok d) :
    read? (String.ofList (Text.trim s.toList)) = .ok d := by
  unfold read? at h ⊢
  rw [String.toList_ofList, Text.trim_trim]
  dsimp only at h ⊢
  split_ifs at h ⊢
  · exact h
  · exact h
  · exact h
  · split at h
    · exact h
    · split at h
      · exact h
      · exact nomatch h

end DateOperand

end BookmarkViews
