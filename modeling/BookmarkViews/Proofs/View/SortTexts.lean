import BookmarkViews.Proofs.Sequencing
import BookmarkViews.Proofs.Value.FieldPaths
import BookmarkViews.View.Sorting

/-!
Sort clauses are read back.

`SortKey.Writes` says which key the words of a clause write: the first word is the field,
whatever it looks like, and behind it stand a direction and a place of nulls, each of which
may be left out. A clause is read exactly as it is written (`SortKey.read?_eq_ok_iff`), and a
key of a plain field is written by its own text (`SortKey.writes_text`).
-/

namespace BookmarkViews

/-! ### What the words of a clause say -/

/-- The words that say a direction; it ascends when nothing is said. -/
inductive Direction.SaidBy : Direction → List String → Prop where
  | unsaid : SaidBy .ascending []
  | ascending : SaidBy .ascending ["asc"]
  | descending : SaidBy .descending ["desc"]

/-- The words that say where nulls go; they go last when nothing is said. -/
inductive NullsPlace.SaidBy : NullsPlace → List String → Prop where
  | unsaid : SaidBy .last []
  | first : SaidBy .first ["nulls", "first"]
  | last : SaidBy .last ["nulls", "last"]

namespace SortKey

/-- A word in lower case, as the words behind a field are read. -/
def lowered (word : List Char) : String :=
  String.ofList (Text.asciiLower word)

/-- A clause writes a key: a field, and behind it what says the direction and the place of
nulls. -/
def Writes (clause : List Char) (k : SortKey) : Prop :=
  ∃ field options direction nulls, Text.words clause = field :: options ∧
    FieldPath.read? (String.ofList field) = .ok k.field ∧
    options.map lowered = direction ++ nulls ∧
    k.direction.SaidBy direction ∧ k.nulls.SaidBy nulls

variable {key k : SortKey} {words : List String} {clause : List Char}

theorem readNulls?_eq_ok_iff (unsaid : key.nulls = .last) :
    readNulls? key words = .ok k ↔ k.nulls.SaidBy words ∧ k = { key with nulls := k.nulls } := by
  obtain ⟨field, direction, nulls⟩ := key
  obtain rfl : nulls = .last := unsaid
  constructor
  · intro read
    unfold readNulls? at read
    split at read
    · obtain rfl := Except.ok.inj read
      exact ⟨.unsaid, rfl⟩
    · next rest =>
      cases rest with
      | nil =>
        obtain rfl := Except.ok.inj read
        exact ⟨.first, rfl⟩
      | cons word rest => exact nomatch read
    · next rest =>
      cases rest with
      | nil =>
        obtain rfl := Except.ok.inj read
        exact ⟨.last, rfl⟩
      | cons word rest => exact nomatch read
    · exact nomatch read
    · exact nomatch read
  · rintro ⟨said, same⟩
    rw [same]
    generalize k.nulls = place at said
    cases said <;> rfl

theorem readOptions?_eq_ok_iff {field : FieldPath} :
    readOptions? { field } words = .ok k ↔ k.field = field ∧ ∃ direction nulls,
      words = direction ++ nulls ∧ k.direction.SaidBy direction ∧ k.nulls.SaidBy nulls := by
  constructor
  · intro read
    unfold readOptions? at read
    split at read
    · next rest =>
      obtain ⟨said, same⟩ := (readNulls?_eq_ok_iff rfl).mp read
      rw [same]
      exact ⟨rfl, ["asc"], rest, rfl, .ascending, said⟩
    · next rest =>
      obtain ⟨said, same⟩ := (readNulls?_eq_ok_iff rfl).mp read
      rw [same]
      exact ⟨rfl, ["desc"], rest, rfl, .descending, said⟩
    · obtain ⟨said, same⟩ := (readNulls?_eq_ok_iff rfl).mp read
      rw [same]
      exact ⟨rfl, [], words, rfl, .unsaid, said⟩
  · obtain ⟨own, direction, nulls⟩ := k
    rintro ⟨rfl, direction, nulls, rfl, saidDirection, saidNulls⟩
    cases saidDirection <;> cases saidNulls <;> rfl

/-- **A clause is read as the key that it writes.** -/
theorem read?_eq_ok_iff : read? clause = .ok k ↔ Writes clause k := by
  unfold read?
  cases split : Text.words clause with
  | nil => simp [Writes, split]
  | cons field options =>
    dsimp only
    rw [bind_eq_ok]
    constructor
    · rintro ⟨path, read, rest⟩
      obtain ⟨rfl, direction, nulls, words, said⟩ := readOptions?_eq_ok_iff.mp rest
      exact ⟨field, options, direction, nulls, split, mapError_eq_ok_iff.mp read, words, said⟩
    · rintro ⟨field', options', direction, nulls, split', read, words, said⟩
      obtain ⟨rfl, rfl⟩ := List.cons.inj (split.symm.trans split')
      exact ⟨k.field, mapError_eq_ok_iff.mpr read,
        readOptions?_eq_ok_iff.mpr ⟨rfl, direction, nulls, words, said⟩⟩

/-- A blank in front of a clause does not count. -/
theorem writes_blank_cons : Writes (' ' :: clause) k ↔ Writes clause k := by
  have same : Text.words (' ' :: clause) = Text.words clause :=
    Text.words_append_blank (by decide) [] clause
  unfold Writes
  rw [same]

/-- The field of a clause without commas is plain. -/
theorem Writes.plain (writes : Writes clause k) (noComma : ',' ∉ clause) : k.field.Plain := by
  obtain ⟨field, options, -, -, split, read, -⟩ := writes
  have word : field ∈ Text.words clause := split ▸ List.mem_cons_self
  apply FieldPath.plain_of_read? read
  · rw [String.toList_ofList]
    exact Text.not_isBlank_of_mem_words word
  · rw [String.toList_ofList]
    exact fun comma => noComma ((Text.sublist_of_mem_words word).subset comma)

theorem forall_plain_of_writes {clauses : List (List Char)} {keys : List SortKey}
    (written : List.Forall₂ Writes clauses keys) (noComma : ∀ clause ∈ clauses, ',' ∉ clause) :
    ∀ key ∈ keys, key.field.Plain := by
  induction written with
  | nil => exact fun key mem => nomatch mem
  | cons writes _ ih =>
    obtain ⟨first, later⟩ := List.forall_mem_cons.mp noComma
    exact List.forall_mem_cons.mpr ⟨writes.plain first, ih later⟩

/-! ### The text of a key -/

/-- What stands behind the field in the text of a key. -/
def optionsText : Direction → NullsPlace → String
  | .ascending, .first => "asc nulls first"
  | .ascending, .last => "asc nulls last"
  | .descending, .first => "desc nulls first"
  | .descending, .last => "desc nulls last"

theorem toList_text (k : SortKey) :
    k.text.toList = k.field.text.toList ++ ' ' :: (optionsText k.direction k.nulls).toList := by
  obtain ⟨field, direction, nulls⟩ := k
  cases direction <;> cases nulls <;> simp [text, optionsText, toString]

theorem notMem_optionsText (direction : Direction) (nulls : NullsPlace) :
    ',' ∉ (optionsText direction nulls).toList := by
  cases direction <;> cases nulls <;> decide

/-- What stands behind the field says the direction and the place of nulls. -/
theorem said_optionsText (direction : Direction) (nulls : NullsPlace) : ∃ first second,
    (Text.words (optionsText direction nulls).toList).map lowered = first ++ second ∧
      direction.SaidBy first ∧ nulls.SaidBy second := by
  cases direction <;> cases nulls
  · exact ⟨["asc"], ["nulls", "first"], by decide, .ascending, .first⟩
  · exact ⟨["asc"], ["nulls", "last"], by decide, .ascending, .last⟩
  · exact ⟨["desc"], ["nulls", "first"], by decide, .descending, .first⟩
  · exact ⟨["desc"], ["nulls", "last"], by decide, .descending, .last⟩

/-- **The text of a key writes the key**, also when its field is named like an option. -/
theorem writes_text (plain : k.field.Plain) : Writes k.text.toList k := by
  obtain ⟨direction, nulls, words, said⟩ := said_optionsText k.direction k.nulls
  have solid : Text.Solid k.field.text.toList := fun c mem => (plain.forall_mem_text c mem).1
  refine ⟨k.field.text.toList, _, direction, nulls, ?_, ?_, words, said⟩
  · rw [toList_text, Text.words_append_blank (by decide),
      Text.words_of_solid solid plain.text_ne_nil, List.singleton_append]
  · rw [String.ofList_toList]
    exact plain.read?_text

theorem notMem_text (plain : k.field.Plain) : ',' ∉ k.text.toList := by
  rw [toList_text, List.mem_append, List.mem_cons, not_or, not_or]
  exact ⟨fun mem => (plain.forall_mem_text ',' mem).2 rfl, by decide, notMem_optionsText _ _⟩

/-! ### Several keys -/

/-- Sort keys in one text. -/
def textOf (keys : List SortKey) : String :=
  ", ".intercalate (keys.map text)

/-- Texts are read clause by clause. -/
theorem readAll?_eq_ok_iff {s : String} {keys : List SortKey} :
    readAll? s = .ok keys ↔ List.Forall₂ Writes (s.toList.splitOn ',') keys := by
  rw [readAll?, mapM_eq_ok_iff]
  simp only [read?_eq_ok_iff]

/-- A comma and a blank between texts is a comma, and a blank in front of the next text. -/
theorem intercalate_comma_blank (first : List Char) (rest : List (List Char)) :
    [',', ' '].intercalate (first :: rest) = [','].intercalate (first :: rest.map (' ' :: ·)) := by
  induction rest generalizing first with
  | nil => simp
  | cons next rest ih =>
    rw [List.map_cons, List.intercalate_cons_cons, List.intercalate_cons_cons, ih]
    cases rest with
    | nil => simp
    | cons last rest => simp [List.intercalate_cons_cons]

/-- Blanks around a text of clauses do not count. -/
theorem readAll?_trimmed (s : String) : readAll? (Text.trimmed s) = readAll? s := by
  have congr {clauses clauses' : List (List Char)}
      (same : clauses.map Text.words = clauses'.map Text.words) :
      clauses.mapM read? = clauses'.mapM read? := by
    induction clauses generalizing clauses' with
    | nil => rw [List.map_eq_nil_iff.mp same.symm]
    | cons clause rest ih =>
      obtain ⟨clause', rest', rfl, first, later⟩ := List.map_eq_cons_iff.mp same.symm
      have read : read? clause = read? clause' := by simp only [read?, first]
      rw [List.mapM_cons, List.mapM_cons, read, ih later.symm]
  rw [readAll?, readAll?, Text.trimmed, String.toList_ofList]
  exact congr (Text.map_words_splitOn_trim (by decide) s.toList)

/-- The clauses of several keys: their texts, with a blank in front of all but the first. -/
theorem splitOn_textOf {k : SortKey} {keys : List SortKey}
    (plain : ∀ key ∈ k :: keys, key.field.Plain) :
    (textOf (k :: keys)).toList.splitOn ',' =
      k.text.toList :: keys.map fun key => ' ' :: key.text.toList := by
  have joined : (textOf (k :: keys)).toList =
      [','].intercalate (k.text.toList :: keys.map fun key => ' ' :: key.text.toList) := by
    rw [textOf, String.toList_intercalate, List.map_map, List.map_cons]
    refine (intercalate_comma_blank _ _).trans ?_
    rw [List.map_map]
    rfl
  obtain ⟨first, later⟩ := List.forall_mem_cons.mp plain
  rw [joined]
  apply List.splitOn_intercalate
  · intro clause mem
    rcases List.mem_cons.mp mem with rfl | mem
    · exact notMem_text first
    · obtain ⟨key, listed, rfl⟩ := List.mem_map.mp mem
      simpa using notMem_text (later key listed)
  · exact List.cons_ne_nil _ _

/-- **Keys of plain fields are read back from their joined texts.** -/
theorem readAll?_textOf {keys : List SortKey} (some : keys ≠ [])
    (plain : ∀ key ∈ keys, key.field.Plain) : readAll? (textOf keys) = .ok keys := by
  obtain ⟨k, keys, rfl⟩ := List.exists_cons_of_ne_nil some
  obtain ⟨first, later⟩ := List.forall_mem_cons.mp plain
  rw [readAll?_eq_ok_iff, splitOn_textOf plain]
  refine .cons (writes_text first) (List.forall₂_map_left_iff.mpr ?_)
  exact List.forall₂_same.mpr fun key mem => writes_blank_cons.mpr (writes_text (later key mem))

/-- **Sort clauses round-trip.** What is read of a text is not nothing, and is one key for
every clause between its commas, in order, each with the field that the first word of its own
clause writes and with the direction and the place of nulls that the words behind it say; and
it is read again from the texts of the keys. So is every list of keys whose fields are plain,
whatever words their fields are. -/
theorem sort_round_trip :
    (∀ (s : String) (keys : List SortKey), readAll? s = .ok keys →
      keys ≠ [] ∧ List.Forall₂ Writes (s.toList.splitOn ',') keys ∧
        readAll? (textOf keys) = .ok keys) ∧
      ∀ keys : List SortKey, keys ≠ [] → (∀ key ∈ keys, key.field.Plain) →
        readAll? (textOf keys) = .ok keys := by
  refine ⟨fun s keys read => ?_, fun keys => readAll?_textOf⟩
  have written := readAll?_eq_ok_iff.mp read
  have some : keys ≠ [] := by
    rintro rfl
    exact List.splitOn_ne_nil ',' s.toList (List.forall₂_nil_right_iff.mp written)
  have noComma : ∀ clause ∈ s.toList.splitOn ',', ',' ∉ clause := by
    intro clause cut comma
    rw [List.splitOn_eq_splitOnP] at cut
    exact nomatch Text.not_of_mem_splitOnP cut ',' comma
  have plain := forall_plain_of_writes written noComma
  exact ⟨some, written, readAll?_textOf some plain⟩

/-- A text whose fields are named like options, with options in any case and blanks of several
kinds between them. -/
def unrulyText : String :=
  "desc, asc DESC,\u2003nulls.first\tasc  Nulls FIRST ,nulls nulls last"

/-- The keys of the text. -/
def unrulyKeys : List SortKey :=
  [{ field := ⟨"desc", []⟩ }, { field := ⟨"asc", []⟩, direction := .descending },
    { field := ⟨"nulls", ["first"]⟩, nulls := .first }, { field := ⟨"nulls", []⟩ }]

/-- Both ways around for fields that are named like options. -/
theorem sort_round_trip_unruly :
    readAll? unrulyText = .ok unrulyKeys ∧ readAll? (textOf unrulyKeys) = .ok unrulyKeys ∧
      unrulyKeys ≠ [] ∧ (∀ key ∈ unrulyKeys, key.field.Plain) ∧
      readAll? (textOf unrulyKeys) = .ok unrulyKeys := by
  have read : readAll? unrulyText = .ok unrulyKeys := by decide +kernel
  have plain : ∀ key ∈ unrulyKeys, key.field.Plain := by decide
  obtain ⟨some, -, again⟩ := sort_round_trip.1 unrulyText unrulyKeys read
  exact ⟨read, again, some, plain, sort_round_trip.2 unrulyKeys some plain⟩

end SortKey

end BookmarkViews
