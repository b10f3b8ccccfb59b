import BookmarkViews.Pattern.Standard
import BookmarkViews.Proofs.Condition.Lists
import BookmarkViews.Proofs.Condition.Scalars
import BookmarkViews.Proofs.Time.OperandTexts

/-!
Conditions are read back from their texts.

`Condition.Written` are the conditions without connectives that the grammar has a
text for.

* `written_of_read?`: nothing else is ever read;
* `read?_toText`: each of them is read from its own text.

The first word of a text decides how it is read, and trimming leaves that word in
its place (`splitHead_trim`), so keywords and comparisons need nothing but their
operands read back. A literal has no first word of its own: its text stays bare only
where the reader itself gives the literal back, and is quoted otherwise.
-/

namespace BookmarkViews

open Decimal

namespace Keyword

theorem solid_name (k : Keyword) : Text.Solid k.name.toList := by
  cases k <;> decide

theorem name_ne_nil (k : Keyword) : k.name.toList ≠ [] := by
  cases k <;> decide

theorem ofWord?_name (k : Keyword) : ofWord? k.name.toList = some k := by
  cases k <;> decide

end Keyword

/-! ### Conditions with a text -/

/-- The date of a test, where it has one. -/
def Temporal.date? : Temporal → Option DateOperand
  | .within _ => none
  | .before d | .after d | .since d => some d

/-- The word that a test starts with. -/
def Temporal.keyword : Temporal → Keyword
  | .within _ => .within
  | .before _ => .before
  | .after _ => .after
  | .since _ => .since

/-- The text of what follows that word. -/
def Temporal.operand : Temporal → String
  | .within span => span.text
  | .before d | .after d | .since d => d.text

theorem Temporal.toList_text (t : Temporal) :
    t.text.toList = t.keyword.name.toList ++ ' ' :: t.operand.toList := by
  cases t <;> simp [text, keyword, operand, Keyword.name, toString]

/-- The tests with a text: amounts have 32 bits, and dates are read back. -/
def Temporal.Written : Temporal → Prop
  | .within span => span.amount < 4294967296
  | .before d | .after d | .since d => DateOperand.read? d.text = .ok d

/-- The tests of a text with a text: the operand is not empty, and a pattern is one. -/
def TextTest.Written [PatternEngine] : TextTest → Prop
  | .search p => p ≠ "" ∧ PatternEngine.compiles p = true
  | t => t.operand ≠ ""

theorem TextTest.Written.nonempty [PatternEngine] {t : TextTest} (written : t.Written) :
    t.operand ≠ "" := by
  cases t with
  | search p => exact written.1
  | contains | startsWith | under => exact written

namespace Condition

/-- The date that a condition tests against. -/
def date? : Condition → Option DateOperand
  | .temporal t => t.date?
  | _ => none

/-- The double that a condition compares with. -/
def float? : Condition → Option Binary64
  | .compare _ (.float x) => some x
  | _ => none

/-- The conditions with a text in the grammar. -/
inductive Written [PatternEngine] : Condition → Prop where
  | literal (s : String) : Written (.literal (.text s))
  | compare (op : Comparison) {s : Scalar} : s.Written → Written (.compare op s)
  | temporal {t : Temporal} : t.Written → Written (.temporal t)
  | members (q : Quantifier) (patterns : List String) : Written (.members q patterns)
  | text {t : TextTest} : t.Written → Written (.text t)
  | present : Written .present
  | absent : Written .absent
  | has {names : List String} : names ≠ [] → Written (.has names)

/-! ### What is read -/

theorem textOperand?_ne_empty {rest : List Char} {s : String} (h : textOperand? rest = .ok s) :
    s ≠ "" := by
  obtain ⟨cs, -, h⟩ := bind_eq_ok.mp h
  split at h
  · exact nomatch h
  · next something =>
    obtain rfl := Except.ok.inj h
    rintro empty
    exact something (List.isEmpty_iff.mpr (String.ofList_eq_empty_iff.mp empty))

section

variable [PatternEngine]

/-- A keyword with its operand is written, once the date that was read is read back. -/
theorem written_of_ofKeyword? {rest : List Char} {k : Keyword} {c : Condition}
    (h : ofKeyword? rest k = .ok c)
    (reread : ∀ d t, c.date? = some d → DateOperand.read? t = .ok d →
      DateOperand.read? d.text = .ok d) : Written c := by
  cases k with
  | within =>
    rw [ofKeyword?] at h
    split at h
    · next span read =>
      obtain rfl := Except.ok.inj h
      exact .temporal (Span.amount_lt_of_read? read)
    · exact nomatch h
  | before | after | since =>
    obtain ⟨d, read, rfl⟩ := map_eq_ok_iff.mp h
    obtain ⟨cs, -, read⟩ := bind_eq_ok.mp read
    exact .temporal (reread d (String.ofList cs) rfl (mapError_eq_ok_iff.mp read))
  | any | all | none =>
    obtain ⟨patterns, -, rfl⟩ := map_eq_ok_iff.mp h
    exact .members _ patterns
  | contains | startsWith | under =>
    obtain ⟨s, read, rfl⟩ := map_eq_ok_iff.mp h
    exact .text (textOperand?_ne_empty read)
  | search =>
    obtain ⟨s, read, h⟩ := bind_eq_ok.mp h
    split_ifs at h with compiles
    obtain rfl := Except.ok.inj h
    exact .text ⟨textOperand?_ne_empty read, compiles⟩
  | present =>
    rw [ofKeyword?, lone?] at h
    split at h
    · exact Except.ok.inj h ▸ .present
    · exact nomatch h
  | absent =>
    rw [ofKeyword?, lone?] at h
    split at h
    · exact Except.ok.inj h ▸ .absent
    · exact nomatch h
  | has =>
    obtain ⟨names, -, h⟩ := bind_eq_ok.mp h
    split at h
    · exact nomatch h
    · next something =>
      obtain rfl := Except.ok.inj h
      exact .has fun empty => something (List.isEmpty_iff.mpr empty)

/-- Only what stands between the blanks is read. -/
theorem read?_eq_ok_iff {s : String} {c : Condition} :
    read? s = .ok c ↔ readTrimmed? (Text.trim s.toList) = .ok c :=
  mapError_eq_ok_iff

/-- Every condition that is read is written, once the date that was read is read back. -/
theorem written_of_rereading {s : String} {c : Condition} (h : read? s = .ok c)
    (reread : ∀ d t, c.date? = some d → DateOperand.read? t = .ok d →
      DateOperand.read? d.text = .ok d) : Written c := by
  rw [read?_eq_ok_iff, readTrimmed?] at h
  dsimp only at h
  split at h
  · exact written_of_ofKeyword? h reread
  · split at h
    · split at h
      · exact nomatch h
      · obtain ⟨value, read, rfl⟩ := map_eq_ok_iff.mp h
        exact .compare _ (Scalar.written_of_read? read)
    · split at h
      · obtain ⟨patterns, -, rfl⟩ := map_eq_ok_iff.mp h
        exact .members .any patterns
      · split at h
        · obtain ⟨cs, -, rfl⟩ := map_eq_ok_iff.mp h
          exact .literal _
        · split at h
          · exact nomatch h
          · obtain rfl := Except.ok.inj h
            exact .literal _

/-- **Every condition that is read is written**, once its date is read back. -/
theorem written_of_read? {s : String} {c : Condition} (h : read? s = .ok c)
    (reread : ∀ d, c.date? = some d → DateOperand.read? d.text = .ok d) : Written c :=
  written_of_rereading h fun d _ named _ => reread d named

/-! ### First words -/

omit [PatternEngine] in
/-- **A word and what follows it are split again**, whatever blanks stand around
them. -/
theorem splitHead_trim {word : List Char} (solid : Text.Solid word) (nonempty : word ≠ [])
    (rest : List Char) :
    splitHead (Text.trim (word ++ ' ' :: rest)) = (word, Text.trim rest) := by
  obtain ⟨tail, kept, blank, trimmed⟩ := Text.trim_word_append solid nonempty rest
  have solid' : ∀ c ∈ word, (!Text.isBlank c) = true := fun c mem => by simp [solid c mem]
  rw [kept, splitHead, Text.breakAt, List.takeWhile_append_of_pos solid',
    List.dropWhile_append_of_pos solid']
  cases tail with
  | nil => rw [← trimmed]; simp
  | cons c tail =>
    have first : Text.isBlank c = true := blank c rfl
    rw [← trimmed]
    simp [first]

/-- A word for a keyword is read with what follows it as its operand. -/
theorem read?_word {word : List Char} (solid : Text.Solid word) (nonempty : word ≠ [])
    {k : Keyword} (meant : Keyword.ofWord? word = some k) {rest : List Char} {c : Condition}
    (h : ofKeyword? (Text.trim rest) k = .ok c) :
    read? (String.ofList (word ++ ' ' :: rest)) = .ok c := by
  rw [read?_eq_ok_iff, String.toList_ofList, readTrimmed?, splitHead_trim solid nonempty]
  simp only [meant, h]

/-- A keyword in front is read with what follows it as its operand. -/
theorem read?_keyword {k : Keyword} {rest : List Char} {c : Condition}
    (h : ofKeyword? (Text.trim rest) k = .ok c) :
    read? (String.ofList (k.name.toList ++ ' ' :: rest)) = .ok c :=
  read?_word k.solid_name k.name_ne_nil k.ofWord?_name h

omit [PatternEngine] in
/-- The sign of a comparison is split off when a blank or nothing follows it. -/
theorem splitComparison?_symbol (op : Comparison) {tail : List Char}
    (blank : ∀ c ∈ tail.head?, Text.isBlank c = true) :
    splitComparison? (op.symbol.toList ++ tail) = some (op, tail) := by
  -- A longer sign would go on with `=`.
  have short : Text.after? ['='] tail = none := by
    cases tail with
    | nil => rfl
    | cons c tail =>
      have other : '=' ≠ c := by
        rintro rfl
        exact absurd (blank '=' rfl) (by decide)
      rw [Text.after?, if_neg other]
  cases op <;> simp [splitComparison?, Comparison.all, Comparison.symbol, Text.after?, short]

/-- A comparison is read with what follows its sign, without its blanks, as its operand. -/
theorem read?_comparison_trim {op : Comparison} {rest : List Char} {s : Scalar}
    (something : Text.trim rest ≠ []) (h : Scalar.read? (Text.trim rest) = .ok s) :
    read? (String.ofList (op.symbol.toList ++ ' ' :: rest)) = .ok (.compare op s) := by
  have solid : Text.Solid op.symbol.toList := by cases op <;> decide
  have nonempty : op.symbol.toList ≠ [] := by cases op <;> decide
  have word : Keyword.ofWord? op.symbol.toList = none := by cases op <;> decide
  obtain ⟨tail, kept, blank, trimmed⟩ := Text.trim_word_append solid nonempty rest
  rw [read?_eq_ok_iff, String.toList_ofList, readTrimmed?, splitHead_trim solid nonempty]
  simp only [word, kept, splitComparison?_symbol op blank, trimmed]
  rw [if_neg (by simpa using something), h, Except.map]

/-- A comparison is read with what follows its sign as its operand. -/
theorem read?_comparison {op : Comparison} {operand : List Char} {s : Scalar}
    (tight : Text.Tight operand) (something : operand ≠ []) (h : Scalar.read? operand = .ok s) :
    read? (String.ofList (op.symbol.toList ++ ' ' :: operand)) = .ok (.compare op s) := by
  rw [← tight.trim_eq] at something h
  exact read?_comparison_trim something h

/-! ### Literals -/

/-- **A quoted text is read as the literal of what it quotes.** -/
theorem readTrimmed?_quote (cs : List Char) :
    readTrimmed? (Quoting.quote cs) = .ok (.literal (.text (String.ofList cs))) := by
  obtain ⟨inner, chars⟩ : ∃ inner, Quoting.quote cs = '"' :: (inner ++ ['"']) := ⟨_, rfl⟩
  have word (w : List Char) : Keyword.ofWord? ('"' :: w) = none := by
    refine List.find?_eq_none.mpr fun k _ same => ?_
    have first : k.name.toList.head? ≠ some '"' := by cases k <;> decide
    exact first (congrArg List.head? (beq_iff_eq.mp same))
  have sign (w : List Char) : splitComparison? ('"' :: w) = none := by
    refine List.findSome?_eq_none_iff.mpr fun op _ => ?_
    cases op <;> rfl
  have last : ('"' :: (inner ++ ['"'])).getLast? = some '"' := by
    rw [← List.cons_append, List.getLast?_append]
    rfl
  have split : (splitHead ('"' :: (inner ++ ['"']))).1 =
      '"' :: (inner ++ ['"']).takeWhile (!Text.isBlank ·) := by
    rw [splitHead, Text.breakAt, List.takeWhile_cons_of_pos (by decide)]
  have text := Quoting.unquote?_quote cs
  rw [chars] at text ⊢
  unfold readTrimmed?
  simp only [split, word, sign, last, text, List.head?_cons]
  rfl

/-- **A literal text is read from its own text**, bare or quoted. -/
theorem read?_literalText (s : String) :
    read? (String.ofList (literalText s.toList)) = .ok (.literal (.text s)) := by
  rw [read?_eq_ok_iff, String.toList_ofList, literalText]
  split
  · next bare =>
    obtain ⟨-, itself⟩ := Bool.and_eq_true_iff.mp bare
    unfold readsAsItself at itself
    split at itself
    · next t read =>
      have same : t = s := String.toList_injective (beq_iff_eq.mp itself)
      rw [read, same]
    · exact nomatch itself
  · rw [(Quoting.tight_quote s.toList).trim_eq, readTrimmed?_quote, String.ofList_toList]

/-! ### Operands -/

omit [PatternEngine] in
theorem operand?_quote (cs : List Char) : operand? (Text.trim (Quoting.quote cs)) = .ok cs := by
  rw [(Quoting.tight_quote cs).trim_eq, operand?, if_pos (by rfl), Quoting.unquote?_quote]

omit [PatternEngine] in
theorem textOperand?_quote {s : String} (nonempty : s ≠ "") :
    textOperand? (Text.trim (Quoting.quote s.toList)) = .ok s := by
  have something : ¬ s.toList.isEmpty = true := by
    rw [List.isEmpty_iff, String.toList_eq_nil_iff]
    exact nonempty
  rw [textOperand?, operand?_quote]
  simp [bind, Except.bind, something]

omit [PatternEngine] in
/-- A date without quotes is read as it stands. -/
theorem dateOperand?_of_bare {rest : List Char} {d : DateOperand} (bare : rest.head? ≠ some '"')
    (h : DateOperand.read? (String.ofList rest) = .ok d) : dateOperand? rest = .ok d := by
  rw [dateOperand?, operand?, if_neg bare, bind_eq_ok]
  exact ⟨rest, rfl, mapError_eq_ok_iff.mpr h⟩

omit [PatternEngine] in
theorem dateOperand?_text {d : DateOperand} (reread : DateOperand.read? d.text = .ok d) :
    dateOperand? (Text.trim d.text.toList) = .ok d := by
  obtain ⟨c, first, solid, other⟩ := d.head?_text
  have bare : (Text.trim d.text.toList).head? ≠ some '"' := by
    obtain ⟨cs, chars⟩ := List.head?_eq_some_iff.mp first
    rw [chars, Text.head?_trim solid]
    exact fun same => other (Option.some_inj.mp same)
  exact dateOperand?_of_bare bare (DateOperand.read?_trim reread)

omit [PatternEngine] in
theorem list?_trim_list (items : List String) :
    Quoting.list? (Text.trim (Quoting.list items)) = .ok items := by
  rw [(Quoting.tight_list items).trim_eq, Quoting.list?_list]

/-! ### Keywords -/

/-- A test of a span or of a date is read from its operand. -/
theorem ofKeyword?_temporal {t : Temporal} (written : t.Written) :
    ofKeyword? (Text.trim t.operand.toList) t.keyword = .ok (.temporal t) := by
  cases t with
  | within span =>
    rw [Temporal.operand, Temporal.keyword, ofKeyword?, span.tight_text.trim_eq,
      String.ofList_toList, Span.read?_text written]
  | before d | after d | since d =>
    rw [Temporal.operand, Temporal.keyword, ofKeyword?, dateOperand?_text written, Except.map]

/-- A set of patterns is read from its list. -/
theorem ofKeyword?_members (q : Quantifier) (patterns : List String) :
    ∃ k : Keyword, k.name = q.name ∧
      ofKeyword? (Text.trim (Quoting.list patterns)) k = .ok (.members q patterns) := by
  have read := list?_trim_list patterns
  cases q with
  | any => exact ⟨.any, rfl, by rw [ofKeyword?, read, Except.map]⟩
  | all => exact ⟨.all, rfl, by rw [ofKeyword?, read, Except.map]⟩
  | none => exact ⟨.none, rfl, by rw [ofKeyword?, read, Except.map]⟩

/-- A test of a text is read from its quoted operand. -/
theorem ofKeyword?_text {t : TextTest} (written : t.Written) :
    ∃ k : Keyword, k.name = t.name ∧
      ofKeyword? (Text.trim (Quoting.quote t.operand.toList)) k = .ok (.text t) := by
  have read := textOperand?_quote written.nonempty
  cases t with
  | contains s => exact ⟨.contains, rfl, by rw [ofKeyword?, read, Except.map]; rfl⟩
  | startsWith s => exact ⟨.startsWith, rfl, by rw [ofKeyword?, read, Except.map]; rfl⟩
  | under s => exact ⟨.under, rfl, by rw [ofKeyword?, read, Except.map]; rfl⟩
  | search p =>
    refine ⟨.search, rfl, ?_⟩
    rw [ofKeyword?, bind_eq_ok]
    exact ⟨p, read, if_pos written.2⟩

/-! ### The round trip -/

/-- **A written condition is read from its own text**, one with a double when the
shortest text of the double is read as it. -/
theorem read?_toText {c : Condition} (written : Written c)
    (reread : ∀ x, c.float? = some x → readFinite? (operandStyle.render x) = some x) :
    read? c.toText = .ok c := by
  rw [toText]
  cases written with
  | literal s =>
    rw [chars]
    exact read?_literalText s
  | @compare op s written =>
    rw [chars]
    obtain ⟨tight, something, read⟩ :=
      Scalar.read?_operandText written fun x same => reread x (by rw [same]; rfl)
    exact read?_comparison tight something read
  | @temporal t written =>
    rw [chars, t.toList_text]
    exact read?_keyword (ofKeyword?_temporal written)
  | members q patterns =>
    obtain ⟨k, name, read⟩ := ofKeyword?_members q patterns
    rw [chars, ← name]
    exact read?_keyword read
  | @text t written =>
    obtain ⟨k, name, read⟩ := ofKeyword?_text written
    rw [chars, ← name]
    exact read?_keyword read
  | present =>
    rw [chars]
    rfl
  | absent =>
    rw [chars]
    rfl
  | @has names nonempty =>
    rw [chars]
    refine read?_keyword ?_
    rw [ofKeyword?, bind_eq_ok]
    exact ⟨names, list?_trim_list names, if_neg (by simpa using nonempty)⟩

/-- **The grammar round-trips.** What is read is a condition with a text, once its date
is read back, and every condition with a text is read from its text. -/
theorem grammar_round_trip :
    (∀ s c, read? s = .ok c →
      (∀ d, c.date? = some d → DateOperand.read? d.text = .ok d) → Written c) ∧
    ∀ c, Written c →
      (∀ x, c.float? = some x → readFinite? (operandStyle.render x) = some x) →
        read? c.toText = .ok c :=
  ⟨fun _ _ read reread => written_of_read? read reread,
    fun _ written reread => read?_toText written reread⟩

end

open StandardPatterns

/-- Both halves at work: a date in quotes and in any case, and a comparison with
minus two and a half. -/
theorem grammar_round_trip_since_float :
    Written (.temporal (.since (.ago ⟨3, .days⟩))) ∧
      read? (toText (.compare .lt (.float ⟨true, 4612811918334230528⟩))) =
        .ok (.compare .lt (.float ⟨true, 4612811918334230528⟩)) := by
  have finite : Binary64.isFinite ⟨true, 4612811918334230528⟩ = true := by decide +kernel
  refine ⟨grammar_round_trip.1 "SINCE  \"3 Days AGO\"" _ (by decide +kernel) ?_,
    grammar_round_trip.2 _ (.compare .lt finite) ?_⟩
  · intro d same
    obtain rfl := Option.some_inj.mp same
    decide +kernel
  · intro x same
    obtain rfl := Option.some_inj.mp same
    decide +kernel

-- One letter off a keyword, a literal is quoted where an operand of it follows.
example :
    toText (.literal (.text "befor today")) = "\"befor today\"" ∧
      toText (.literal (.text "befor noon")) = "befor noon" := by
  decide

end Condition

end BookmarkViews
