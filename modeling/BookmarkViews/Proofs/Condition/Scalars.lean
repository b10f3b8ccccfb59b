import BookmarkViews.Condition.Display
import BookmarkViews.Proofs.Condition.Lists
import BookmarkViews.Proofs.Number.Reading
import BookmarkViews.Proofs.Sequencing
import Mathlib

/-!
The scalars that operands write are read back.

A scalar is `Written` when its integer has 64 bits and its double is finite; no
other is read (`written_of_read?`), and each of these is read from its own text
(`read?_operandText`). Texts stand in quotes there, so that none of them is taken
for a number or a word; the text of a double has a point or an exponent, so that it
is not taken for an integer.
-/

namespace BookmarkViews.Scalar

open Decimal

/-- The scalars with a text of their own. -/
def Written : Scalar → Prop
  | .int n => fits64 n = true
  | .float x => x.isFinite = true
  | .null | .bool _ | .text _ => True

/-! ### What is read -/

/-- **Every scalar that is read is written.** -/
theorem written_of_read? {cs : List Char} {s : Scalar} (h : read? cs = .ok s) : s.Written := by
  unfold read? at h
  dsimp only at h
  split at h
  · obtain ⟨_, -, rfl⟩ := map_eq_ok_iff.mp h
    trivial
  · obtain rfl := Except.ok.inj h
    unfold ofBare
    split
    · trivial
    · trivial
    · trivial
    · split
      · next n read => exact (readInt64?_eq_some_iff.mp read).2
      · split
        · next x read =>
          split at read
          · exact (Option.filter_eq_some_iff.mp read).2
          · exact nomatch read
        · trivial

/-! ### Characters of operands -/

/-- Of the letters `u` and `l`, one stands in each of the words that are no texts, and
neither in a number. -/
theorem toLower_of_isNumberChar {c : Char} (h : isNumberChar c = true) :
    c.toLower ≠ 'u' ∧ c.toLower ≠ 'l' := by
  rcases cases_of_isNumberChar h with ⟨low, high⟩ | mem
  · have digit : isDigit c = true :=
      Bool.and_eq_true_iff.mpr ⟨decide_eq_true low, decide_eq_true high⟩
    rw [toLower_of_isDigit digit]
    constructor
    · rintro rfl
      exact absurd digit (by decide)
    · rintro rfl
      exact absurd digit (by decide)
  · simp only [List.mem_cons, List.not_mem_nil, or_false] at mem
    rcases mem with rfl | rfl | rfl | rfl | rfl <;> decide

/-- The text of a number is neither a truth value nor null. -/
theorem ofBare_of_number {cs : List Char} (number : cs.all isNumberChar = true) :
    ofBare cs =
      match readInt64? cs with
      | some n => .int n
      | none =>
        match (if looksNumeric cs then readFinite? cs else none) with
        | some x => .float x
        | none => .text (String.ofList cs) := by
  have noWord {w : String} (mem : 'u' ∈ w.toList ∨ 'l' ∈ w.toList) :
      String.ofList (Text.asciiLower cs) ≠ w := by
    rintro rfl
    rw [String.toList_ofList, Text.asciiLower, List.mem_map, List.mem_map] at mem
    rcases mem with ⟨c, mem, lower⟩ | ⟨c, mem, lower⟩
    · exact (toLower_of_isNumberChar (List.all_eq_true.mp number c mem)).1 lower
    · exact (toLower_of_isNumberChar (List.all_eq_true.mp number c mem)).2 lower
  unfold ofBare
  split
  · next same => exact absurd same (noWord (by decide))
  · next same => exact absurd same (noWord (by decide))
  · next same => exact absurd same (noWord (by decide))
  · rfl

/-- **A 64-bit integer is read from its own digits.** -/
theorem ofBare_ofInt {n : Int} (fits : fits64 n = true) : ofBare (ofInt n) = .int n := by
  have number := isNumberChar_of_readInt? (readInt?_ofInt n)
  have read : readInt64? (ofInt n) = some n :=
    readInt64?_eq_some_iff.mpr ⟨readInt?_ofInt n, fits⟩
  rw [ofBare_of_number number, read]

/-- The text of a finite double has a point or an exponent. -/
theorem mem_render {x : Binary64} (finite : x.isFinite = true) :
    ∃ c ∈ operandStyle.render x, c = '.' ∨ c = 'e' := by
  have number : x.isNaN = false := by
    simp only [Binary64.isFinite, decide_eq_true_eq] at finite
    simp only [Binary64.isNaN, decide_eq_false_iff_not]
    omega
  have plain (ds : List Char) (e : Int) : '.' ∈ plainLayout ds e := by
    unfold plainLayout
    dsimp only
    split_ifs <;> simp
  unfold FloatStyle.render
  rw [number, finite]
  simp only [Bool.false_eq_true, if_false, Bool.not_true]
  generalize (if x.negative = true then ['-'] else []) = sign
  split_ifs
  · exact ⟨'.', by simp, .inl rfl⟩
  · exact ⟨'.', List.mem_append_right _ (plain _ _), .inl rfl⟩
  · exact ⟨'e', by simp [exponentLayout], .inr rfl⟩

/-- A finite double is read from its shortest text when the text is its own as a
number: the text is never that of an integer. -/
theorem ofBare_render {x : Binary64} (finite : x.isFinite = true)
    (reread : readFinite? (operandStyle.render x) = some x) :
    ofBare (operandStyle.render x) = .float x := by
  have looks := looksNumeric_of_readFinite? reread
  obtain ⟨c, mem, sign⟩ := mem_render finite
  have noInteger : readInt64? (operandStyle.render x) = none := by
    rw [readInt64?, readInt?_eq_none_of_mem mem sign]
    rfl
  rw [ofBare_of_number (Bool.and_eq_true_iff.mp looks).2, noInteger]
  simp only [looks, reread, if_true]

/-! ### Reading back -/

/-- A text in the characters of numbers is read as it stands. -/
theorem read?_of_number {cs : List Char} (number : cs.all isNumberChar = true) :
    Text.Tight cs ∧ read? cs = .ok (ofBare cs) := by
  have tight : Text.Tight cs := Text.tight_of_solid (solid_of_number number)
  have unquoted : cs.head? ≠ some '"' := by
    intro first
    exact absurd (List.all_eq_true.mp number '"' (List.mem_of_mem_head? first)) (by decide)
  refine ⟨tight, ?_⟩
  unfold read?
  dsimp only
  rw [tight.trim_eq, if_neg unquoted]

/-- **A written scalar is read from its own text**, a double when its shortest text
is read as it. -/
theorem read?_operandText {s : Scalar} (written : s.Written)
    (reread : ∀ x, s = .float x → readFinite? (operandStyle.render x) = some x) :
    Text.Tight s.operandText ∧ s.operandText ≠ [] ∧ read? s.operandText = .ok s := by
  cases s with
  | null => exact ⟨Text.tight_iff_trim_eq.mpr (by decide), by decide, by decide⟩
  | bool b => cases b <;> exact ⟨Text.tight_iff_trim_eq.mpr (by decide), by decide, by decide⟩
  | int n =>
    obtain ⟨tight, read⟩ := read?_of_number (isNumberChar_of_readInt? (readInt?_ofInt n))
    refine ⟨tight, ?_, read.trans (congrArg _ (ofBare_ofInt written))⟩
    change ofInt n ≠ []
    unfold ofInt
    split
    · exact List.cons_ne_nil _ _
    · exact Nat.toDigits_ne_nil
  | float x =>
    have back := reread x rfl
    have looks := looksNumeric_of_readFinite? back
    obtain ⟨tight, read⟩ := read?_of_number (Bool.and_eq_true_iff.mp looks).2
    obtain ⟨c, mem, -⟩ := mem_render written
    exact ⟨tight, List.ne_nil_of_mem mem, read.trans (congrArg _ (ofBare_render written back))⟩
  | text s =>
    have tight := Quoting.tight_quote s.toList
    refine ⟨tight, List.cons_ne_nil _ _, ?_⟩
    change read? (Quoting.quote s.toList) = _
    unfold read?
    dsimp only
    rw [tight.trim_eq, if_pos (by rfl), Quoting.unquote?_quote, Except.map, String.ofList_toList]

end BookmarkViews.Scalar
