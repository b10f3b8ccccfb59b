import BookmarkViews.Proofs.Store.Columns

/-!
Cells in columns of texts and flags, tested by the tables and by conditions.

`Cell.KeptIn` says what such columns keep: texts, and flags as integers of 64 bits next
to texts that are no flags. `CellTest.MadeOf` lists the clauses that tables take on them
with the tests they make of these, and `CellTest.MadeOf.agrees` says that a test holds
of a cell exactly when the condition of its clause holds of what the cell shows.
-/

namespace BookmarkViews

/-! ### Texts that write no number -/

namespace Cell

end Cell

/-! ### What columns of texts and flags keep -/

namespace Cell

/-- A cell as a column of texts or flags keeps it. -/
inductive KeptIn : FieldType → Cell → Prop where
  | null {type : FieldType} : KeptIn type .null
  | text (s : String) : KeptIn .text (.text s)
  | flag (n : Int) (fits : Decimal.fits64 n = true) : KeptIn .bool (.integer n)
  /-- A text in a column of flags writes no truth value. -/
  | noFlag (s : String) (untrue : Text.truth? s = none) : KeptIn .bool (.text s)

/-- A column of texts keeps texts only. -/
theorem keptIn_text (c : Cell) : (Affinity.text.keep c).KeptIn .text := by
  cases c with
  | null => exact .null
  | integer n | real x | text s => exact .text _

@[simp] theorem shownIn_null (type : FieldType) : null.shownIn type = .null := by
  unfold shownIn
  split_ifs <;> rfl

@[simp] theorem shownIn_text (type : FieldType) (s : String) : (text s).shownIn type = .text s := by
  unfold shownIn
  split_ifs <;> rfl

@[simp] theorem shownIn_flag {n : Int} (fits : Decimal.fits64 n = true) :
    (integer n).shownIn .bool = .bool (n != 0) := by
  change Tables.flagOf (.number (.int n)) = _
  rw [Tables.flagOf, Number.int64?, if_pos fits]

variable {type : FieldType} {cell : Cell}

/-- Only an empty cell shows nothing. -/
theorem isNull_shownIn (kept : cell.KeptIn type) :
    (cell.shownIn type).isNull = decide (cell = .null) := by
  cases kept with
  | null => simp [Value.isNull]
  | text s | noFlag s => simp [Value.isNull]
  | flag n fits => simp [fits, Value.isNull]

/-- There is something to see of a cell exactly when it holds something. -/
theorem isPresent_shownIn (kept : cell.KeptIn type) :
    (cell.shownIn type).isPresent = CellTest.isFilled cell := by
  cases kept with
  | null => simp [Value.isPresent, CellTest.isFilled]
  | text s | noFlag s => simp [Value.isPresent, CellTest.isFilled]
  | flag n fits => simp [fits, Value.isPresent, CellTest.isFilled]

end Cell

/-! ### Tests of texts and flags -/

/-- The pattern that a text writes covers what meets the text. -/
theorem TextPattern.covers_ofText (pattern item : String) :
    (ofText pattern).covers item = patternMeets pattern item := by
  unfold ofText patternMeets
  cases Text.before? ['*'] pattern.toList with
  | none => rfl
  | some lead =>
    dsimp only
    split_ifs <;> rfl

namespace CellTest

/-- The clauses that tables take on columns of texts and flags, with the tests they make
of them. -/
inductive MadeOf : FieldType → ClauseOp → CellTest → Prop where
  | isNull {type : FieldType} : MadeOf type (.compare .eq .null) .isNull
  | equalsNull {type : FieldType} : MadeOf type (.equals .null) .isNull
  | isNotNull {type : FieldType} : MadeOf type (.compare .ne .null) .isNotNull
  | present {type : FieldType} : MadeOf type .present .filled
  | absent {type : FieldType} : MadeOf type .absent .notFilled
  | text (cmp : Comparison) (s : String) : MadeOf .text (.compare cmp (.text s)) (.text cmp s)
  /-- A text that writes a number is left to conditions. -/
  | equalsText (s : String) (plain : writesNumber (.text s) = false) :
    MadeOf .text (.equals (.text s)) (.text .eq s)
  | flag (cmp : Comparison) (b : Bool) : MadeOf .bool (.compare cmp (.bool b)) (.flag cmp b)
  | equalsFlag (b : Bool) : MadeOf .bool (.equals (.bool b)) (.flag .eq b)
  | anyText (patterns : List String) :
    MadeOf .text (.anyOf patterns) (.anyText (patterns.map TextPattern.ofText))

section Inversion

variable {type : FieldType} {op : ClauseOp} {test : CellTest} {cmp : Comparison} {s : Scalar}

theorem compare?_cases (kind : type = .text ∨ type = .bool) (h : compare? type cmp s = some test) :
    (type = .text ∧ ∃ t, s = .text t ∧ test = .text cmp t) ∨
      (type = .bool ∧ ∃ b, s = .bool b ∧ test = .flag cmp b) := by
  rcases kind with rfl | rfl
  · cases s with
    | text t => exact .inl ⟨rfl, t, rfl, (Option.some_inj.mp h).symm⟩
    | null | bool _ | int _ | float _ => exact nomatch h
  · cases s with
    | bool b => exact .inr ⟨rfl, b, rfl, (Option.some_inj.mp h).symm⟩
    | null | text _ | int _ | float _ => exact nomatch h

theorem ofOp?_compare (kind : type = .text ∨ type = .bool) (something : s ≠ .null) :
    ofOp? type (.compare cmp s) = compare? type cmp s := by
  rcases kind with rfl | rfl <;> cases s with
  | null => exact absurd rfl something
  | bool _ | int _ | float _ | text _ => cases cmp <;> rfl

theorem ofOp?_equals (kind : type = .text ∨ type = .bool) (something : s ≠ .null) :
    ofOp? type (.equals s) = if writesNumber s then none else compare? type .eq s := by
  rcases kind with rfl | rfl <;> cases s with
  | null => exact absurd rfl something
  | bool _ | int _ | float _ | text _ => rfl

theorem madeOf_of_compare (kind : type = .text ∨ type = .bool)
    (h : ofOp? type (.compare cmp s) = some test) : MadeOf type (.compare cmp s) test := by
  by_cases null : s = .null
  · subst null
    cases cmp with
    | eq =>
      obtain rfl : CellTest.isNull = test := by
        rcases kind with rfl | rfl <;> exact Option.some_inj.mp h
      exact .isNull
    | ne =>
      obtain rfl : CellTest.isNotNull = test := by
        rcases kind with rfl | rfl <;> exact Option.some_inj.mp h
      exact .isNotNull
    | lt | le | gt | ge => rcases kind with rfl | rfl <;> exact nomatch h
  · rw [ofOp?_compare kind null] at h
    rcases compare?_cases kind h with ⟨rfl, t, rfl, rfl⟩ | ⟨rfl, b, rfl, rfl⟩
    · exact .text cmp t
    · exact .flag cmp b

theorem madeOf_of_equals (kind : type = .text ∨ type = .bool)
    (h : ofOp? type (.equals s) = some test) : MadeOf type (.equals s) test := by
  by_cases null : s = .null
  · subst null
    obtain rfl : CellTest.isNull = test := by
      rcases kind with rfl | rfl <;> exact Option.some_inj.mp h
    exact .equalsNull
  · rw [ofOp?_equals kind null] at h
    split_ifs at h with number
    rcases compare?_cases kind h with ⟨rfl, t, rfl, rfl⟩ | ⟨rfl, b, rfl, rfl⟩
    · exact .equalsText t (Bool.eq_false_iff.mpr number)
    · exact .equalsFlag b

/-- **There are no others.** -/
theorem madeOf_of_ofOp? (kind : type = .text ∨ type = .bool) (h : ofOp? type op = some test) :
    MadeOf type op test := by
  cases op with
  | compare cmp s => exact madeOf_of_compare kind h
  | equals s => exact madeOf_of_equals kind h
  | present =>
    obtain rfl : CellTest.filled = test := by
      rcases kind with rfl | rfl <;> exact Option.some_inj.mp h
    exact .present
  | absent =>
    obtain rfl : CellTest.notFilled = test := by
      rcases kind with rfl | rfl <;> exact Option.some_inj.mp h
    exact .absent
  | anyOf patterns =>
    rcases kind with rfl | rfl
    · obtain ⟨_, read, rfl⟩ := Option.map_eq_some_iff.mp h
      unfold patterns? at read
      split_ifs at read
      obtain rfl := Option.some_inj.mp read
      exact .anyText patterns
    · exact nomatch h

end Inversion

section Agreement

variable {cell : Cell} (tags : List String)

/-- A comparison of texts is one of what the cell shows. -/
theorem holds_text (kept : cell.KeptIn .text) (cmp : Comparison) (s : String) :
    (CellTest.text cmp s).holds tags cell =
      cmp.holdsOf (some .text) (cell.shownIn .text) (.text s) := by
  cases kept with
  | null | text u => rfl

/-- A text that writes no number is equal to itself only. -/
theorem equals_of_not_writesNumber {s : String} (plain : writesNumber (.text s) = false)
    (t : String) : (Scalar.text s).equals (.text t) = (t == s) := by
  have unread : Text.number? s = none := by
    have none : Decimal.readFloat? (Text.trim s.toList) = none := by
      simpa [writesNumber] using plain
    rw [Text.number?, Decimal.readFinite?, none]
    rfl
  simp [Scalar.equals, Scalar.numeric?, unread]

/-- An equality of texts is one of what the cell shows, if the operand writes no
number. -/
theorem holds_text_eq (kept : cell.KeptIn .text) {s : String}
    (plain : writesNumber (.text s) = false) :
    (CellTest.text .eq s).holds tags cell =
      (Scalar.text s).equalsOf (some .text) (cell.shownIn .text) := by
  cases kept with
  | null => rfl
  | text u =>
    have same : Comparison.eq.holds (Text.order u s) = (u == s) := by
      rw [Bool.eq_iff_iff]
      simp [Comparison.holds, Text.order_eq_eq_iff]
    rw [Cell.shownIn_text]
    exact same.trans (equals_of_not_writesNumber plain u).symm

/-- A comparison of flags is one of what the cell shows. -/
theorem holds_flag (kept : cell.KeptIn .bool) (cmp : Comparison) (b : Bool) :
    (CellTest.flag cmp b).holds tags cell =
      cmp.holdsOf (some .bool) (cell.shownIn .bool) (.bool b) := by
  cases kept with
  | null | noFlag s _ => rfl
  | flag n fits =>
    rw [Cell.shownIn_flag fits]
    rfl

/-- An equality of flags is one of what the cell shows: the texts in a column of flags
write none. -/
theorem holds_flag_eq (kept : cell.KeptIn .bool) (b : Bool) :
    (CellTest.flag .eq b).holds tags cell =
      (Scalar.bool b).equalsOf (some .bool) (cell.shownIn .bool) := by
  cases kept with
  | null => rfl
  | flag n fits =>
    have same (c d : Bool) : Comparison.eq.holds (compare c d) = (c == d) := by
      cases c <;> cases d <;> rfl
    rw [Cell.shownIn_flag fits]
    exact same (n != 0) b
  | noFlag s untrue =>
    have differs : (Text.truth? s == some b) = false := by
      rw [untrue]
      rfl
    rw [Cell.shownIn_text]
    exact differs.symm

/-- A set of patterns is met by what the cell shows. -/
theorem holds_anyText (kept : cell.KeptIn .text) (patterns : List String) :
    (CellTest.anyText (patterns.map TextPattern.ofText)).holds tags cell =
      Quantifier.any.holdsOf patterns (cell.shownIn .text) := by
  cases kept with
  | null => simp [holds, Quantifier.holdsOf, Value.memberTexts]
  | text u =>
    simp [holds, Quantifier.holdsOf, Value.memberTexts, Function.comp_def,
      TextPattern.covers_ofText]

/-- **A test holds of a cell as the condition of its clause holds of what the cell
shows.** -/
theorem MadeOf.agrees [PatternEngine] {type : FieldType} {op : ClauseOp} {test : CellTest}
    (made : MadeOf type op test) (kept : cell.KeptIn type) (now : Instant) (field : FieldPath) :
    test.holds tags cell =
      (StoreClause.condition ⟨field, op⟩).holds now (some type) (cell.shownIn type) := by
  cases made with
  | isNull | equalsNull => exact (Cell.isNull_shownIn kept).symm
  | isNotNull => exact congrArg (!·) (Cell.isNull_shownIn kept).symm
  | present => exact (Cell.isPresent_shownIn kept).symm
  | absent => exact congrArg (!·) (Cell.isPresent_shownIn kept).symm
  | text cmp s => exact holds_text tags kept cmp s
  | equalsText s plain => exact holds_text_eq tags kept plain
  | flag cmp b => exact holds_flag tags kept cmp b
  | equalsFlag b => exact holds_flag_eq tags kept b
  | anyText patterns => exact holds_anyText tags kept patterns

end Agreement

end CellTest

end BookmarkViews
