import BookmarkViews.Condition.Holds
import BookmarkViews.Pattern.Standard
import BookmarkViews.Proofs.Condition.RoundTrip
import BookmarkViews.Proofs.Time.DateOperands

/-!
Conditions on dates.

* `DateOperand.operand_round_trip`: an operand that is read is read again from its text, alone
  and behind `before`, `after` and `since`;
* `Condition.read?_toText_of_read?`: so the grammar round-trips with every date it reads;
* `DateOperand.stored_date_iff`: a stored text is a date exactly when the same text as an
  operand is a date that is written out, and both mean the same instant; tests and
  comparisons with that text find the two equal.
-/

namespace BookmarkViews

open Decimal DateText

/-! ### A date is no number -/

namespace DateText

variable {ds : List Char}

theorem readNat?_dash (ds tail : List Char) : readNat? (ds ++ '-' :: tail) = none := by
  have dash : (ds ++ '-' :: tail).all isDigit = false :=
    List.all_eq_false.mpr ⟨'-', by simp, by decide⟩
  rw [readNat?, dash, Bool.and_false]
  rfl

theorem readMagnitude?_dash (numeral : Numeral ds) (negative : Bool) (tail : List Char) :
    readMagnitude? negative (ds ++ '-' :: tail) = none := by
  obtain ⟨c, first, digit⟩ := numeral.head? ('-' :: tail)
  have noWord {word : String} (letter : word.toList.head?.any isDigit = false) :
      String.ofList ((ds ++ '-' :: tail).map Char.toLower) ≠ word := by
    rintro rfl
    rw [String.toList_ofList, List.head?_map, first, Option.map_some, Option.any_some,
      toLower_of_isDigit digit, digit] at letter
    exact nomatch letter
  have span : (ds ++ '-' :: tail).span isDigit = (ds, '-' :: tail) := by
    have taken : (ds ++ '-' :: tail).takeWhile isDigit = ds :=
      takeWhile_numeral numeral (by simp [isDigit])
    have dropped : (ds ++ '-' :: tail).dropWhile isDigit = '-' :: tail := by
      rw [List.dropWhile_append_of_pos numeral.digits, List.dropWhile_cons_of_neg (by decide)]
    rw [List.span_eq_takeWhile_dropWhile, taken, dropped]
  have parts : readParts? (ds ++ '-' :: tail) = none := by
    rw [readParts?, span]
    simp [numeral.nonempty]
  unfold readMagnitude?
  dsimp only
  rw [if_neg, if_neg (noWord (by decide)), parts]
  · rfl
  · simp only [Bool.or_eq_true, decide_eq_true_eq, not_or]
    exact ⟨noWord (by decide), noWord (by decide)⟩

namespace Dated

variable {cs : List Char}

/-- **A date is neither an integer nor a double**, for its dash. -/
theorem no_number (h : Dated cs) : readInt? cs = none ∧ readFinite? cs = none := by
  obtain ⟨_, tail, ⟨sign, ds, mem, numeral, rfl⟩, rfl⟩ := h.year
  have integer := readNat?_dash ds tail
  have double (negative : Bool) := readMagnitude?_dash numeral negative tail
  simp only [List.mem_cons, List.not_mem_nil, or_false] at mem
  rcases mem with rfl | rfl | rfl
  · obtain ⟨c, first, digit⟩ := numeral.head? ('-' :: tail)
    obtain ⟨rest, chars⟩ := List.head?_eq_some_iff.mp first
    rw [chars] at integer double
    rw [List.nil_append, chars, readInt?_of_digit digit, integer, readFinite?,
      readFloat?_of_digit digit, double]
    exact ⟨rfl, rfl⟩
  · rw [List.append_assoc, List.singleton_append, readInt?, readFinite?, readFloat?, integer,
      double]
    exact ⟨rfl, rfl⟩
  · rw [List.append_assoc, List.singleton_append, readInt?, readFinite?, readFloat?, integer,
      double]
    exact ⟨rfl, rfl⟩

theorem unquoted (h : Dated cs) : cs.head? ≠ some '"' := by
  obtain ⟨c, first, form⟩ := h.head?
  rw [first]
  rintro ⟨⟩
  exact absurd (isNumberChar_of_startsYear form) (by decide)

/-- **As a scalar, a date is its own text.** -/
theorem scalar_read? (h : Dated cs) : Scalar.read? cs = .ok (.text (String.ofList cs)) := by
  have noWord {word : String} (letter : word.toList.head?.any isNumberChar = false) :
      String.ofList (Text.asciiLower cs) ≠ word := by
    rintro rfl
    exact h.asciiLower_ne letter (String.toList_ofList).symm
  have integer : readInt64? cs = none := by rw [readInt64?, h.no_number.1, Option.filter_none]
  rw [Scalar.read?, h.tight.trim_eq, if_neg h.unquoted, Scalar.ofBare]
  split
  · next same => exact absurd same (noWord (by decide))
  · next same => exact absurd same (noWord (by decide))
  · next same => exact absurd same (noWord (by decide))
  · rw [integer, h.no_number.2]
    simp

end Dated

end DateText

/-! ### Operands in conditions -/

namespace DateOperand

/-- **Date operands round-trip.** An operand that is read is read again from its own text,
and behind each of the words that take a date. -/
theorem operand_round_trip [PatternEngine] {t : String} {d : DateOperand} (h : read? t = .ok d) :
    read? d.text = .ok d ∧
      Condition.read? ("before " ++ d.text) = .ok (.temporal (.before d)) ∧
      Condition.read? ("after " ++ d.text) = .ok (.temporal (.after d)) ∧
      Condition.read? ("since " ++ d.text) = .ok (.temporal (.since d)) := by
  have again := read?_text_of_read? h
  have behind (test : Temporal) (written : test.Written) :
      Condition.read? test.text = .ok (.temporal test) := by
    rw [← String.ofList_toList (s := test.text), test.toList_text]
    exact Condition.read?_keyword (Condition.ofKeyword?_temporal written)
  exact ⟨again, behind (.before d) again, behind (.after d) again, behind (.since d) again⟩

open StandardPatterns

/-- A leap second with a fraction, on a clock half an hour behind. -/
theorem operand_round_trip_leap_second :
    let d := DateOperand.stamp ⟨⟨1483230599, 1250000000⟩, -30⟩
    read? " 2016-12-31t23:59:60.25\u221200:30 " = .ok d ∧
      d.text = "2016-12-31T23:59:60.250-00:30" ∧ read? d.text = .ok d := by
  have read : read? " 2016-12-31t23:59:60.25\u221200:30 " =
      .ok (.stamp ⟨⟨1483230599, 1250000000⟩, -30⟩) := by decide +kernel
  exact ⟨read, by decide +kernel, (operand_round_trip read).1⟩

end DateOperand

section

variable [PatternEngine]

namespace Condition

/-- **A condition that is read is read again from its own text**, one with a double when
the shortest text of the double is read as it. -/
theorem read?_toText_of_read? {s : String} {c : Condition} (h : read? s = .ok c)
    (reread : ∀ x, c.float? = some x → readFinite? (operandStyle.render x) = some x) :
    read? c.toText = .ok c :=
  read?_toText (written_of_rereading h fun _ _ _ => DateOperand.read?_text_of_read?) reread

end Condition

namespace DateOperand

/-! ### Stored dates -/

omit [PatternEngine] in
/-- A stored date is what the operand reader makes of a date that is written out. -/
theorem readInstant?_eq (t : String) (now : Instant) :
    readInstant? t = (absolute? (Text.trim t.toList)).map (resolve now) := by
  rw [readInstant?, absolute?]
  cases stamp? (Text.trim t.toList) with
  | some s => rfl
  | none =>
    cases either? (Text.trim t.toList) with
    | some i => rfl
    | none => cases date? (Text.trim t.toList) <;> rfl

variable {t : String} {x : Instant}

omit [PatternEngine] in
/-- A stored date and the operand of the same text mean the same instant. -/
theorem operand_of_readInstant? (stored : readInstant? t = some x) :
    ∃ d, absolute? (Text.trim t.toList) = some d ∧ ∀ now, d.resolve now = x := by
  have each := readInstant?_eq t
  rw [stored] at each
  cases read : absolute? (Text.trim t.toList) with
  | none =>
    have none := each x
    rw [read] at none
    exact nomatch none
  | some d =>
    refine ⟨d, rfl, fun now => ?_⟩
    have some := each now
    rw [read] at some
    exact (Option.some_inj.mp some).symm

end DateOperand

omit [PatternEngine] in
/-- Nothing is before or after itself. -/
theorem Instant.compare_self (x : Instant) : x.compare x = .eq := by
  simp [compare]

namespace Condition

variable {t u : String} {x y : Instant}

/-- A test of a date is a test of the stored instant. -/
theorem holds_temporal (stored : readInstant? t = some x) (now : Instant)
    (type : Option FieldType) (test : Temporal) :
    (temporal test).holds now type (.text t) = test.holds now x := by
  change (Value.instant? (.text t)).any (fun i => test.holds now i) = _
  rw [Value.instant?, stored, Option.any_some]

/-- A comparison of dates compares their instants. -/
theorem holds_compare_date (stored : readInstant? t = some x) (operand : readInstant? u = some y)
    (now : Instant) (op : Comparison) :
    (compare op (.text u)).holds now (some .date) (.text t) = op.holds (x.compare y) := by
  have compared : Value.compareDate? (.text t) (.text u) = some (x.compare y) := by
    rw [Value.compareDate?, Value.instant?, stored]
    simp [operand]
  change (Value.compareDate? (.text t) (.text u)).any op.holds = _
  rw [compared, Option.any_some]

/-- A condition written as `text` is read, and answers `answer` on a date field that holds
`t`, whatever the present is. -/
def Answers (text t : String) (answer : Bool) : Prop :=
  ∃ c, read? text = .ok c ∧ ∀ now, c.holds now (some .date) (.text t) = answer

omit [PatternEngine] in
theorem append_spelled {word : String} {lead : List Char} (spelled : word.toList = lead ++ [' '])
    (t : String) : word ++ t = String.ofList (lead ++ ' ' :: t.toList) := by
  refine String.toList_injective ?_
  rw [String.toList_append, String.toList_ofList, spelled, List.append_assoc, List.singleton_append]

/-- A test of a date, behind its word, answers as it does of the stored instant. -/
theorem answers_test (stored : readInstant? t = some x) {d : DateOperand}
    (operand : dateOperand? (Text.trim t.toList) = .ok d) (k : Keyword) (test : Temporal)
    (starts : test.keyword = k) (named : test.date? = some d) {word : String}
    (spelled : word.toList = k.name.toList ++ [' ']) {answer : Bool}
    (holds : ∀ now, test.holds now x = answer) : Answers (word ++ t) t answer := by
  have read : ofKeyword? (Text.trim t.toList) k = .ok (.temporal test) := by
    rw [← starts]
    cases test with
    | within span => exact nomatch named
    | before e | after e | since e =>
      obtain rfl := Option.some_inj.mp named
      rw [Temporal.keyword, ofKeyword?, operand, Except.map]
  refine ⟨.temporal test, ?_, fun now => (holds_temporal stored now _ test).trans (holds now)⟩
  rw [append_spelled spelled]
  exact read?_keyword read

/-- A comparison with the stored text answers as it does of equals. -/
theorem answers_comparison (stored : readInstant? t = some x) (dated : Dated (Text.trim t.toList))
    (op : Comparison) {word : String} (spelled : word.toList = op.symbol.toList ++ [' ']) :
    Answers (word ++ t) t (op.holds .eq) := by
  have nonempty : Text.trim t.toList ≠ [] := by
    obtain ⟨c, first, -⟩ := dated.head?
    rintro empty
    rw [empty] at first
    exact nomatch first
  have operand : readInstant? (Text.trimmed t) = some x := by
    rw [← stored, readInstant?, readInstant?, Text.trimmed, String.toList_ofList, Text.trim_trim]
  refine ⟨.compare op (.text (Text.trimmed t)), ?_, fun now => ?_⟩
  · rw [append_spelled spelled]
    exact read?_comparison_trim nonempty dated.scalar_read?
  · rw [holds_compare_date stored operand, x.compare_self]

end Condition

end

namespace DateOperand

open Condition (Answers answers_test answers_comparison)

/-- **Stored dates and query dates are read alike.** A stored text is a date exactly when
the same text as an operand is a date that is written out, and both mean the same instant;
on a date field that holds the text, the conditions with it find the two equal. -/
theorem stored_date_iff [PatternEngine] (t : String) :
    (∀ x, readInstant? t = some x ↔
      ∃ d, read? t = .ok d ∧ d.isAbsolute = true ∧ ∀ now, d.resolve now = x) ∧
    ∀ x, readInstant? t = some x →
      (Answers ("since " ++ t) t true ∧ Answers ("<= " ++ t) t true ∧
        Answers (">= " ++ t) t true) ∧
      Answers ("before " ++ t) t false ∧ Answers ("after " ++ t) t false ∧
        Answers ("< " ++ t) t false ∧ Answers ("> " ++ t) t false := by
  refine ⟨fun x => ⟨fun stored => ?_, ?_⟩, fun x stored => ?_⟩
  · obtain ⟨d, read, resolves⟩ := operand_of_readInstant? stored
    obtain ⟨operand, absolute⟩ := absolute?_eq_some_iff.mp read
    exact ⟨d, operand, absolute, resolves⟩
  · rintro ⟨d, operand, absolute, resolves⟩
    rw [readInstant?_eq t x, absolute?_eq_some_iff.mpr ⟨operand, absolute⟩, Option.map_some,
      resolves]
  · obtain ⟨d, read, resolves⟩ := operand_of_readInstant? stored
    have dated : Dated (Text.trim t.toList) :=
      dated_of_absolute? (Text.tight_iff_trim_eq.mpr (Text.trim_trim _)).first read
    have operand : Condition.dateOperand? (Text.trim t.toList) = .ok d :=
      Condition.dateOperand?_of_bare dated.unquoted (read?_trim (read?_of_absolute? read))
    have same := x.compare_self
    have since : Answers ("since " ++ t) t true :=
      answers_test stored operand .since (.since d) rfl rfl (by decide) fun now => by
        rw [Temporal.holds, resolves, Instant.atMost, same]
        rfl
    have before : Answers ("before " ++ t) t false :=
      answers_test stored operand .before (.before d) rfl rfl (by decide) fun now => by
        rw [Temporal.holds, resolves, Instant.isBefore, same]
        rfl
    have after : Answers ("after " ++ t) t false :=
      answers_test stored operand .after (.after d) rfl rfl (by decide) fun now => by
        rw [Temporal.holds, resolves, Instant.isBefore, same]
        rfl
    exact ⟨⟨since, answers_comparison stored dated .le (by decide),
      answers_comparison stored dated .ge (by decide)⟩, before, after,
      answers_comparison stored dated .lt (by decide),
      answers_comparison stored dated .gt (by decide)⟩

open StandardPatterns

/-- A date-time with blanks and numbers of one digit, in a year of five. -/
theorem stored_date_iff_far_year :
    readInstant? " +12024- 3-5   7:08:09 " = some ⟨317279142489, 0⟩ ∧
      Answers "since  +12024- 3-5   7:08:09 " " +12024- 3-5   7:08:09 " true ∧
      Answers "<  +12024- 3-5   7:08:09 " " +12024- 3-5   7:08:09 " false := by
  have stored : readInstant? " +12024- 3-5   7:08:09 " = some ⟨317279142489, 0⟩ := by
    decide +kernel
  obtain ⟨⟨since, -⟩, -, -, less, -⟩ := (stored_date_iff " +12024- 3-5   7:08:09 ").2 _ stored
  exact ⟨stored, since, less⟩

end DateOperand

end BookmarkViews
