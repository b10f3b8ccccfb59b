import BookmarkViews.Pattern.Standard
import BookmarkViews.Proofs.Condition.RoundTrip
import BookmarkViews.Proofs.Param.Filling
import BookmarkViews.Proofs.Text.LowerCase

/-!
Entries of operators carry their operands as they are.

The operand of an entry is quoted or listed, put behind its key and read like any text of a
condition; before that it may have come out of a slot. None of it changes the operand.

* `ofOperator?_keyword`, `ofOperator?_comparison`: an entry by its key;
* `carries_of_ofNode?`: what is read of an operand is read of a slot bound to it;
* `operands_verbatim`: comparisons, tests of a text, sets of patterns and `has`.
-/

namespace BookmarkViews

/-! ### Keys -/

/-- A key spells a word: in any ASCII case, with blanks around it. -/
def Spells (key word : String) : Prop :=
  Text.asciiLower (Text.trim key.toList) = word.toList

instance (key word : String) : Decidable (Spells key word) :=
  inferInstanceAs (Decidable (_ = _))

namespace Keyword

variable {k : Keyword} {key : String}

theorem ascii_name (k : Keyword) : ∀ c ∈ k.name.toList, c.toNat < 0x80 := by
  have ascii : (k.name.toList.all fun c => c.toNat < 0x80) = true := by cases k <;> decide
  exact fun c mem => of_decide_eq_true (List.all_eq_true.mp ascii c mem)

/-- A key that spells a keyword is the keyword in lower case. -/
theorem lower_of_spells (spells : Spells key k.name) :
    Text.lower (Text.trim key.toList) = k.name.toList :=
  Text.lower_eq_of_asciiLower k.ascii_name spells

/-- A key that spells a keyword is a word for it. -/
theorem word_of_spells (spells : Spells key k.name) :
    Text.Solid (Text.trim key.toList) ∧ Text.trim key.toList ≠ [] ∧
      ofWord? (Text.trim key.toList) = some k := by
  refine ⟨Text.solid_of_asciiLower ?_, ?_, ?_⟩
  · rw [spells]
    exact k.solid_name
  · intro nothing
    rw [Spells, nothing] at spells
    exact k.name_ne_nil spells.symm
  · rw [ofWord?, lower_of_spells spells]
    cases k <;> decide

end Keyword

namespace Condition

/-! ### Entries by their keys -/

variable {key : String} {c : Condition}

section

variable [PatternEngine]

/-- An entry of a keyword is read as the keyword with its operand. -/
theorem ofOperator?_keyword {k : Keyword} (spells : Spells key k.name) {value : Node}
    {operand : List Char} (written : operandChars? key (some k) value = .ok operand)
    (read : ofKeyword? (Text.trim operand) k = .ok c) : ofOperator? key value = .ok c := by
  obtain ⟨solid, nonempty, meant⟩ := Keyword.word_of_spells spells
  have known : Keyword.ofWord? (Text.lower (Text.trim key.toList)) = some k := by
    rw [Keyword.lower_of_spells spells, k.ofWord?_name]
  rw [ofOperator?]
  simp only [known, Option.isNone_some, Bool.false_and, Bool.false_eq_true, if_false]
  exact bind_eq_ok.mpr ⟨operand, written, read?_word solid nonempty meant read⟩

/-- **An entry of a comparison compares with its text**, whatever the text. -/
theorem ofOperator?_comparison {op : Comparison} (sign : Text.trim key.toList = op.symbol.toList)
    (s : String) : ofOperator? key (.text s) = .ok (.compare op (.text s)) := by
  have word : Keyword.ofWord? (Text.lower op.symbol.toList) = none := by cases op <;> decide
  have known : (Comparison.all.any fun o => o.symbol.toList == op.symbol.toList) = true := by
    cases op <;> decide
  obtain ⟨tight, something, read⟩ :=
    Scalar.read?_operandText (s := .text s) trivial fun x same => nomatch same
  rw [ofOperator?]
  simp only [sign, word, known, Bool.not_true, Bool.and_false, Bool.false_eq_true, if_false]
  exact bind_eq_ok.mpr ⟨_, rfl, read?_comparison tight something read⟩

/-- The document value of one entry. -/
def entry (key : String) (operand : Node) : Node :=
  .mapping [(.text key, operand)]

/-- An entry alone is read by its key, unless that is a connective or a switch. -/
theorem ofNode?_entry {word : List Char} (lower : Text.lower (Text.trim key.toList) = word)
    (operator : String.ofList word ∉ ["and", "or", "not", "exists", "missing"]) {value : Node}
    (read : ofOperator? key value = .ok c) : ofNode? (entry key value) = .ok c := by
  have entries : ofEntries? [(.text key, value)] = .ok [c] := by
    rw [ofEntries?.eq_def]
    simp only [Node.untagged, lower]
    split
    case h_6 => exact bind_eq_ok.mpr ⟨c, read, rfl⟩
    all_goals next same => exact absurd (by simp [same]) operator
  rw [entry, ofNode?.eq_def]
  simp [entries, bind, Except.bind, pure, Except.pure]

/-- An entry of a keyword reads its operand, unless the keyword is a switch. -/
theorem ofNode?_keyword {k : Keyword} (spells : Spells key k.name)
    (operator : k ≠ .present ∧ k ≠ .absent) {value : Node} {operand : List Char}
    (written : operandChars? key (some k) value = .ok operand)
    (read : ofKeyword? (Text.trim operand) k = .ok c) : ofNode? (entry key value) = .ok c := by
  apply ofNode?_entry (Keyword.lower_of_spells spells) _ (ofOperator?_keyword spells written read)
  cases k <;> simp_all [Keyword.name]

/-! ### Operands through slots -/

/-- An entry of a key carries an operand into a condition: written directly, as a view has
it when it opens no slot, and out of a slot that is bound to it. -/
structure Carries (key : String) (operand : Value) (c : Condition) : Prop where
  direct : ofNode? (entry key (.ofValue operand)) = .ok c
  ready : (Node.ofValue operand).hasSlots = false →
    Draft.ofNode? (entry key (.ofValue operand)) = .ok (.ready c)
  bound : ∀ (name : String) (params : Params), Template.Nameable name →
    Keyed.get? params name = some operand →
    ∃ draft, Draft.ofNode? (entry key (.text (Template.slotText name))) = .ok draft ∧
      draft.resolve? params = .ok c

/-- **What is read of an operand is read of a slot bound to it.** -/
theorem carries_of_ofNode? {operand : Value} (h : ofNode? (entry key (.ofValue operand)) = .ok c) :
    Carries key operand c where
  direct := h
  ready closed := by
    have plain : (entry key (.ofValue operand)).hasSlots = false := by
      simp [entry, Node.hasSlots, Node.entryHasSlots, closed]
    rw [Draft.ofNode?, plain, h]
    rfl
  bound name params nameable found := by
    have slots : (entry key (.text (Template.slotText name))).hasSlots = true := by
      simp [entry, Node.hasSlots, Node.entryHasSlots, Template.opensSlot_slotText]
    have filled : (entry key (.text (Template.slotText name))).fill? params =
        .ok (entry key (.ofValue operand)) := by
      simp [entry, Node.fill?, Node.fillEntries?, Node.fillText?_slotText nameable found, bind,
        Except.bind, pure, Except.pure, Except.map]
    refine ⟨.template (entry key (.text (Template.slotText name))), ?_, ?_⟩
    · rw [Draft.ofNode?, slots]
      rfl
    · rw [Draft.resolve?, filled]
      exact h

/-! ### The operators -/

omit [PatternEngine] in
/-- A list of texts, as a value and as a document value. -/
theorem ofValue_texts (items : List String) :
    Node.ofValue (.list (items.map .text)) = .sequence (items.map .text) := by
  have each : Node.ofValues (items.map .text) = items.map .text := by
    induction items with
    | nil => rfl
    | cons s items ih => simp [Node.ofValues, Node.ofValue, ih]
  rw [Node.ofValue, each]

omit [PatternEngine] in
theorem itemTexts?_texts (items : List String) : itemTexts? (items.map .text) = .ok items := by
  rw [itemTexts?, mapM_eq_ok_iff, List.forall₂_map_left_iff]
  exact List.forall₂_same.mpr fun s _ => rfl

omit [PatternEngine] in
/-- A list operand is written as the list of its texts. -/
theorem operandChars?_texts (keyword : Option Keyword) (items : List String) :
    operandChars? key keyword (.sequence (items.map .text)) = .ok (Quoting.list items) := by
  rw [operandChars?, itemTexts?_texts]
  rfl

/-- **An entry of a comparison carries every text.** -/
theorem carries_comparison {op : Comparison} (sign : Text.trim key.toList = op.symbol.toList)
    (s : String) : Carries key (.text s) (.compare op (.text s)) := by
  apply carries_of_ofNode?
  have lower : Text.lower (Text.trim key.toList) = op.symbol.toList := by
    rw [sign]
    cases op <;> decide
  apply ofNode?_entry lower _ (ofOperator?_comparison sign s)
  cases op <;> simp [Comparison.symbol]

/-- **An entry of a text test carries every text but the empty one**, and `matches` every
such pattern. -/
theorem carries_textTest {t : TextTest} (spells : Spells key t.name) (written : t.Written) :
    Carries key (.text t.operand) (.text t) := by
  apply carries_of_ofNode?
  obtain ⟨k, name, read⟩ := ofKeyword?_text written
  have kind : k.isTemporal = false ∧ k ≠ .present ∧ k ≠ .absent := by
    cases t <;> cases k <;> simp_all [Keyword.name, TextTest.name, Keyword.isTemporal]
  rw [← name] at spells
  refine ofNode?_keyword spells kind.2 ?_ read
  rw [Node.ofValue, operandChars?]
  simp [kind.1]

/-- **An entry of a quantifier carries every list of texts.** -/
theorem carries_members {q : Quantifier} (spells : Spells key q.name) (items : List String) :
    Carries key (.list (items.map .text)) (.members q items) := by
  apply carries_of_ofNode?
  obtain ⟨k, name, read⟩ := ofKeyword?_members q items
  have kind : k ≠ .present ∧ k ≠ .absent := by
    cases q <;> cases k <;> simp_all [Keyword.name, Quantifier.name]
  rw [← name] at spells
  rw [ofValue_texts]
  exact ofNode?_keyword spells kind (operandChars?_texts _ items) read

/-- **An entry of `has` carries every list of names but the empty one.** -/
theorem carries_has (spells : Spells key Keyword.has.name) {names : List String}
    (nonempty : names ≠ []) : Carries key (.list (names.map .text)) (.has names) := by
  apply carries_of_ofNode?
  have read : ofKeyword? (Text.trim (Quoting.list names)) .has = .ok (.has names) := by
    rw [ofKeyword?, bind_eq_ok]
    exact ⟨names, list?_trim_list names, if_neg (by simpa using nonempty)⟩
  rw [ofValue_texts]
  exact ofNode?_keyword spells (by decide) (operandChars?_texts _ names) read

/-- **Entries of operators carry their operands as they are**, written directly or out of a
slot: comparisons every text, the tests of a text every one that is not empty (`matches` if
it is a pattern), the quantifiers every list of texts, and `has` every one that is not
empty. -/
theorem operands_verbatim :
    (∀ (key : String) (op : Comparison) (s : String),
      Text.trim key.toList = op.symbol.toList → Carries key (.text s) (.compare op (.text s))) ∧
    (∀ (key : String) (t : TextTest), Spells key t.name → t.Written →
      Carries key (.text t.operand) (.text t)) ∧
    (∀ (key : String) (q : Quantifier) (items : List String), Spells key q.name →
      Carries key (.list (items.map .text)) (.members q items)) ∧
    ∀ (key : String) (names : List String), Spells key Keyword.has.name → names ≠ [] →
      Carries key (.list (names.map .text)) (.has names) :=
  ⟨fun _ _ s sign => carries_comparison sign s,
    fun _ _ spells written => carries_textTest spells written,
    fun _ _ items spells => carries_members spells items,
    fun _ _ spells nonempty => carries_has spells nonempty⟩

end

/-- A text with blanks at its ends, quotes, a backslash, a list and an open slot. -/
def unruly : String :=
  " \"\x7b\x7bparams.x\\\" [any, \n"

open StandardPatterns

/-- It is carried by keys in any case, and out of a slot; so are items like it. -/
theorem operands_verbatim_unruly :
    ofNode? (entry " CONTAINS\n" (.text unruly)) = .ok (.text (.contains unruly)) ∧
      (∃ draft, Draft.ofNode? (entry " >= " (.text (Template.slotText "p"))) = .ok draft ∧
        draft.resolve? [("p", .text unruly)] = .ok (.compare .ge (.text unruly))) ∧
      Draft.ofNode? (entry "None" (.sequence [.text "a,\"b", .text " ]", .text ""])) =
        .ok (.ready (.members .none ["a,\"b", " ]", ""])) ∧
      ofNode? (entry "hAS" (.sequence [.text unruly])) = .ok (.has [unruly]) := by
  obtain ⟨compares, tests, members, has⟩ := operands_verbatim
  have nameable : Template.Nameable "p" := ⟨by decide, by simp [Text.isBlank], by decide⟩
  have something : unruly ≠ "" := by decide
  refine ⟨(tests " CONTAINS\n" (.contains unruly) (by decide) something).direct, ?_, ?_, ?_⟩
  · exact (compares " >= " .ge unruly (by decide)).bound "p" _ nameable rfl
  · exact (members "None" .none ["a,\"b", " ]", ""] (by decide)).ready (by decide)
  · exact (has "hAS" [unruly] (by decide) (by decide)).direct

end Condition

end BookmarkViews
