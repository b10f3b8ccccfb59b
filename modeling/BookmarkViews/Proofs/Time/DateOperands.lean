import BookmarkViews.Proofs.Sequencing
import BookmarkViews.Proofs.Time.DateTexts
import BookmarkViews.Proofs.Time.OperandTexts

/-!
Dates as operands are read back, and what is read as a date is told by its look.

The first and the last character of a date that is written out (`Dated`) keep it apart from
the words and from spans, which are tried before it.

* `absolute?_eq_some_iff`: the operands that are written out are those of the date reader;
* `read?_text_of_read?`: whatever operand is read, it is read again from its own text.
-/

namespace BookmarkViews

open Decimal DateText

/-! ### The look of a date -/

namespace DateText

/-- A digit or a sign, as years start with. -/
def StartsYear (c : Char) : Prop :=
  isDigit c = true ∨ c = '-' ∨ c = '+'

theorem isNumberChar_of_startsYear {c : Char} (h : StartsYear c) : isNumberChar c = true := by
  rcases h with digit | rfl | rfl
  · exact isNumberChar_of_isDigit digit
  · rfl
  · rfl

theorem toLower_of_startsYear {c : Char} (h : StartsYear c) : c.toLower = c := by
  rcases h with digit | rfl | rfl
  · exact toLower_of_isDigit digit
  · rfl
  · rfl

namespace Dated

variable {cs : List Char}

theorem head? (h : Dated cs) : ∃ c, cs.head? = some c ∧ StartsYear c := by
  obtain ⟨_, tail, ⟨sign, ds, mem, numeral, rfl⟩, rfl⟩ := h.year
  simp only [List.mem_cons, List.not_mem_nil, or_false] at mem
  rcases mem with rfl | rfl | rfl
  · obtain ⟨c, first, digit⟩ := numeral.head? ('-' :: tail)
    exact ⟨c, first, .inl digit⟩
  · exact ⟨'-', rfl, .inr (.inl rfl)⟩
  · exact ⟨'+', rfl, .inr (.inr rfl)⟩

theorem tight (h : Dated cs) : Text.Tight cs where
  first c mem := by
    obtain ⟨d, first, form⟩ := h.head?
    obtain rfl := Option.some_inj.mp (first.symm.trans mem)
    exact isBlank_of_isNumberChar (isNumberChar_of_startsYear form)
  last c mem := by
    obtain ⟨d, last, form⟩ := h.closed
    obtain rfl := Option.some_inj.mp (last.symm.trans mem)
    rcases form with digit | rfl | rfl
    · exact isBlank_of_isNumberChar (isNumberChar_of_isDigit digit)
    · decide
    · decide

/-- A date is no word, in any case. -/
theorem asciiLower_ne (h : Dated cs) {word : List Char}
    (letter : word.head?.any isNumberChar = false) : Text.asciiLower cs ≠ word := by
  rintro rfl
  obtain ⟨c, first, form⟩ := h.head?
  rw [Text.asciiLower, List.head?_map, first, Option.map_some, Option.any_some,
    toLower_of_startsYear form, isNumberChar_of_startsYear form] at letter
  exact nomatch letter

/-- A date ends in no word. -/
theorem before?_eq_none (h : Dated cs) :
    Text.before? " ago".toList (Text.asciiLower cs) = none := by
  refine Option.eq_none_iff_forall_not_mem.mpr fun front read => ?_
  have whole := Text.before?_eq_some_iff.mp read
  obtain ⟨c, last, form⟩ := h.closed
  have lower : (Text.asciiLower cs).getLast? = some c.toLower := by
    rw [Text.asciiLower, List.getLast?_map, last, Option.map_some]
  rw [whole, List.getLast?_append] at lower
  have letter : c.toLower = 'o' := (Option.some_inj.mp lower).symm
  rcases form with digit | rfl | rfl
  · rw [toLower_of_isDigit digit] at letter
    exact absurd digit (by rw [letter]; decide)
  · exact absurd letter (by decide)
  · exact absurd letter (by decide)

end Dated

end DateText

namespace DateOperand

/-! ### Dates written out -/

/-- Whether an operand is written out: a date, a date-time or a time stamp. -/
def isAbsolute : DateOperand → Bool
  | .date _ | .clock _ | .stamp _ => true
  | .now | .today | .yesterday | .ago _ => false

variable {cs : List Char} {d : DateOperand}

/-- The three ways to write a date out. -/
theorem cases_of_absolute? (h : absolute? cs = some d) :
    (∃ s, stamp? cs = some s ∧ d = .stamp s) ∨
      (∃ letter t, local? letter cs = some t ∧ d = .clock t) ∨
      ∃ day, date? cs = some day ∧ d = .date day := by
  rcases Option.or_eq_some_iff.mp h with found | ⟨-, h⟩
  · obtain ⟨s, read, rfl⟩ := Option.map_eq_some_iff.mp found
    exact .inl ⟨s, read, rfl⟩
  · rcases Option.or_eq_some_iff.mp h with found | ⟨-, found⟩
    · obtain ⟨t, read, rfl⟩ := Option.map_eq_some_iff.mp found
      obtain ⟨letter, read⟩ := either?_eq_some read
      exact .inr (.inl ⟨letter, t, read, rfl⟩)
    · obtain ⟨day, read, rfl⟩ := Option.map_eq_some_iff.mp found
      exact .inr (.inr ⟨day, read, rfl⟩)

theorem isAbsolute_of_absolute? (h : absolute? cs = some d) : d.isAbsolute = true := by
  rcases cases_of_absolute? h with ⟨_, -, rfl⟩ | ⟨_, _, -, rfl⟩ | ⟨_, -, rfl⟩ <;> rfl

theorem dated_of_absolute? (front : ∀ c ∈ cs.head?, Text.isBlank c = false)
    (h : absolute? cs = some d) : Dated cs := by
  rcases cases_of_absolute? h with ⟨s, read, -⟩ | ⟨_, t, read, -⟩ | ⟨day, read, -⟩
  · exact (stamp?_eq_some read).1
  · exact (local?_eq_some front read).1
  · exact dated_of_leadingDate? front (date?_eq_some read) (.inr rfl)

/-- **A date that is read is read again from its own text.** -/
theorem absolute?_text (front : ∀ c ∈ cs.head?, Text.isBlank c = false)
    (h : absolute? cs = some d) : absolute? d.text.toList = some d := by
  rcases cases_of_absolute? h with ⟨s, read, rfl⟩ | ⟨_, t, read, rfl⟩ | ⟨day, -, rfl⟩
  · obtain ⟨-, c, shown⟩ := stamp?_eq_some read
    rw [text, String.toList_ofList, absolute?, stamp?_text shown]
    rfl
  · obtain ⟨-, c, whole, rfl⟩ := local?_eq_some front read
    rw [text, String.toList_ofList, absolute?, stamp?_localText, either?, local?_text whole]
    rfl
  · rw [text, String.toList_ofList, absolute?, stamp?_dateText, either?_dateText, date?_dateText]
    rfl

/-! ### Reading operands -/

variable {s : String}

/-- The reader of a text whose words are ruled out reads a date that is written out. -/
theorem read?_of_absolute? (h : absolute? (Text.trim s.toList) = some d) : read? s = .ok d := by
  have front : ∀ c ∈ (Text.trim s.toList).head?, Text.isBlank c = false :=
    (Text.tight_iff_trim_eq.mpr (Text.trim_trim _)).first
  have dated := dated_of_absolute? front h
  unfold read?
  dsimp only
  rw [if_neg (dated.asciiLower_ne (by decide)), if_neg (dated.asciiLower_ne (by decide)),
    if_neg (dated.asciiLower_ne (by decide)), dated.before?_eq_none, h]

/-- What an operand that is read can be. -/
theorem cases_of_read? (h : read? s = .ok d) :
    d = .now ∨ d = .today ∨ d = .yesterday ∨ (∃ span, span.amount < 4294967296 ∧ d = .ago span) ∨
      absolute? (Text.trim s.toList) = some d := by
  unfold read? at h
  dsimp only at h
  split_ifs at h
  · exact .inl (Except.ok.inj h).symm
  · exact .inr (.inl (Except.ok.inj h).symm)
  · exact .inr (.inr (.inl (Except.ok.inj h).symm))
  · split at h
    · obtain ⟨span, read, rfl⟩ := map_eq_ok_iff.mp h
      exact .inr (.inr (.inr (.inl ⟨span, Span.amount_lt_of_read? read, rfl⟩)))
    · split at h
      · next read =>
        obtain rfl := Except.ok.inj h
        exact .inr (.inr (.inr (.inr read)))
      · exact nomatch h

/-- **The operands that are written out are those of the date reader.** -/
theorem absolute?_eq_some_iff :
    absolute? (Text.trim s.toList) = some d ↔ read? s = .ok d ∧ d.isAbsolute = true := by
  constructor
  · exact fun h => ⟨read?_of_absolute? h, isAbsolute_of_absolute? h⟩
  · rintro ⟨read, absolute⟩
    rcases cases_of_read? read with rfl | rfl | rfl | ⟨span, -, rfl⟩ | h
    · exact nomatch absolute
    · exact nomatch absolute
    · exact nomatch absolute
    · exact nomatch absolute
    · exact h

/-! ### Reading back -/

/-- The text of a span has no capital letters. -/
theorem asciiLower_spanText (span : Span) :
    Text.asciiLower span.text.toList = span.text.toList := by
  have digits : (ofNat span.amount).map Char.toLower = ofNat span.amount := by
    refine (List.map_congr_left fun c mem => ?_).trans (List.map_id _)
    exact toLower_of_isDigit (isDigit_of_mem_ofNat mem)
  have name : (span.unit.nameAfter span.amount).toList.map Char.toLower =
      (span.unit.nameAfter span.amount).toList := by
    unfold TimeUnit.nameAfter
    split <;> cases span.unit <;> decide
  rw [Text.asciiLower, Span.toList_text, List.map_append, List.map_cons, digits, name]
  rfl

/-- A time ago is read from its own text. -/
theorem read?_agoText {span : Span} (fits : span.amount < 4294967296) :
    read? (ago span).text = .ok (ago span) := by
  have chars : (ago span).text.toList = span.text.toList ++ " ago".toList := by
    simp [text, toString]
  have nonempty : span.text.toList ≠ [] := by
    rw [Span.toList_text]
    exact List.append_ne_nil_of_right_ne_nil _ (List.cons_ne_nil _ _)
  have tight : Text.Tight (span.text.toList ++ " ago".toList) := by
    have ago : Text.Tight "ago".toList := Text.tight_iff_trim_eq.mpr (by decide)
    have joined := span.tight_text.append [' '] ago nonempty (by decide)
    rwa [List.append_assoc] at joined
  have lower : Text.asciiLower (span.text.toList ++ " ago".toList) =
      span.text.toList ++ " ago".toList := by
    rw [Text.asciiLower, List.map_append, ← Text.asciiLower, asciiLower_spanText]
    rfl
  have noWord {word : List Char} (solid : Text.Solid word) :
      span.text.toList ++ " ago".toList ≠ word := by
    rintro rfl
    exact absurd (solid ' ' (by simp)) (by decide)
  have before : Text.before? " ago".toList (span.text.toList ++ " ago".toList) =
      some span.text.toList := Text.before?_eq_some_iff.mpr rfl
  unfold read?
  rw [chars, tight.trim_eq]
  dsimp only
  rw [lower, if_neg (noWord (by decide)), if_neg (noWord (by decide)), if_neg (noWord (by decide)),
    before]
  dsimp only
  rw [String.ofList_toList, Span.read?_text fits, Except.map]

/-- **Whatever operand is read, it is read again from its own text.** -/
theorem read?_text_of_read? (h : read? s = .ok d) : read? d.text = .ok d := by
  rcases cases_of_read? h with rfl | rfl | rfl | ⟨span, fits, rfl⟩ | absolute
  · decide
  · decide
  · decide
  · exact read?_agoText fits
  · have front : ∀ c ∈ (Text.trim s.toList).head?, Text.isBlank c = false :=
      (Text.tight_iff_trim_eq.mpr (Text.trim_trim _)).first
    have again := absolute?_text front absolute
    have solid : ∀ c ∈ d.text.toList.head?, Text.isBlank c = false := by
      obtain ⟨c, first, solid, -⟩ := d.head?_text
      rw [first]
      rintro _ ⟨⟩
      exact solid
    refine read?_of_absolute? ?_
    rw [(dated_of_absolute? solid again).tight.trim_eq, again]

end DateOperand

end BookmarkViews
