import BookmarkViews.Proofs.SortingSteps
import BookmarkViews.Proofs.StableSorting
import BookmarkViews.Proofs.Value.FieldOrder
import BookmarkViews.Run.Arrangement

/-!
Sorting rows.

A row may stand before another by one key (`SortKey.MayPrecede`) when a value is missing on
the side where nulls go, or when both have values and these are in the direction of the key.
By several keys it may stand there when it may by the first key that does not tie the two
(`SortKey.AllPrecede`).

Rows with no other numbers to sort by than integers of 64 bits are arranged in the one stable
order of the keys (`sortRows_arranged`). Other numbers can be equal to integers that are not
equal to each other (`Value.Blurred`), and then there is no such order. There the sort may give
up; if it does not, it still gives every row once (`sortRows_perm`).
-/

namespace BookmarkViews

/-- The value to sort by is the value at the field unless that is null or missing. -/
theorem Row.sortValue?_eq (row : Row) (field : FieldPath) :
    Row.sortValue? row field =
      if Row.at row field = .null then none else some (Row.at row field) := by
  unfold Row.sortValue? Row.at
  cases Row.lookup row field with
  | none => rfl
  | some v => cases v <;> simp [Value.isNull]

namespace SortKey

/-! ### One key -/

/-- Whether a row may stand before another by a key. -/
inductive MayPrecede (key : SortKey) (type : Option FieldType) (a b : Row) : Prop where
  | nullsFirst (side : key.nulls = .first) (missing : Row.at a key.field = .null)
  | nullsLast (side : key.nulls = .last) (missing : Row.at b key.field = .null)
  | ascending (up : key.direction = .ascending)
      (ha : Row.at a key.field ≠ .null) (hb : Row.at b key.field ≠ .null)
      (order : (Value.order type (Row.at a key.field) (Row.at b key.field)).isLE)
  | descending (down : key.direction = .descending)
      (ha : Row.at a key.field ≠ .null) (hb : Row.at b key.field ≠ .null)
      (order : (Value.order type (Row.at b key.field) (Row.at a key.field)).isLE)

/-- Whether a key leaves the order of two rows open. -/
def Ties (key : SortKey) (type : Option FieldType) (a b : Row) : Prop :=
  key.MayPrecede type a b ∧ key.MayPrecede type b a

section

variable {key : SortKey} {type : Option FieldType} {a b c : Row}

/-- How two rows are compared, by the values at the field of the key. -/
theorem compareRows_eq (key : SortKey) (type : Option FieldType) (a b : Row) :
    key.compareRows type a b =
      if Row.at a key.field = .null then
        if Row.at b key.field = .null then .eq
        else if key.nulls = .first then .lt else .gt
      else if Row.at b key.field = .null then
        if key.nulls = .first then .gt else .lt
      else if key.direction = .ascending then
        Value.order type (Row.at a key.field) (Row.at b key.field)
      else Value.order type (Row.at b key.field) (Row.at a key.field) := by
  unfold compareRows
  rw [Row.sortValue?_eq, Row.sortValue?_eq]
  by_cases ha : Row.at a key.field = .null <;> by_cases hb : Row.at b key.field = .null
  all_goals simp only [ha, hb, if_true, if_false]
  rw [Value.order_swap type (Row.at a key.field) (Row.at b key.field)]

/-- **Two rows are in reverse order the other way round.** -/
theorem compareRows_swap (key : SortKey) (type : Option FieldType) (a b : Row) :
    key.compareRows type b a = (key.compareRows type a b).swap := by
  rw [compareRows_eq, compareRows_eq]
  split_ifs <;> first | rfl | exact Value.order_swap _ _ _

/-- **Rows are compared as they may stand.** -/
theorem isLE_compareRows_iff :
    (key.compareRows type a b).isLE ↔ key.MayPrecede type a b := by
  have side : key.nulls = .first ∨ key.nulls = .last := by
    cases key.nulls <;> simp
  have way : key.direction = .ascending ∨ key.direction = .descending := by
    cases key.direction <;> simp
  rw [compareRows_eq]
  constructor
  · intro le
    split_ifs at le with ha hb first hb first up
    · exact side.elim (.nullsFirst · ha) (.nullsLast · hb)
    · exact .nullsFirst first ha
    · exact nomatch le
    · exact nomatch le
    · exact .nullsLast (side.resolve_left first) hb
    · exact .ascending up ha hb le
    · exact .descending (way.resolve_left up) ha hb le
  · intro may
    cases may with
    | nullsFirst first ha =>
      rw [if_pos ha, if_pos first]
      split_ifs <;> rfl
    | nullsLast last hb =>
      rw [if_pos hb, if_pos hb, last]
      split_ifs <;> first | rfl | contradiction
    | ascending up ha hb le => rwa [if_neg ha, if_neg hb, if_pos up]
    | descending down ha hb le =>
      rwa [if_neg ha, if_neg hb, if_neg (by rw [down]; decide)]

theorem compareRows_eq_iff : key.compareRows type a b = .eq ↔ key.Ties type a b := by
  rw [Ties, ← isLE_compareRows_iff, ← isLE_compareRows_iff, compareRows_swap key type a b]
  cases key.compareRows type a b <;> simp

theorem MayPrecede.trans
    (clear : ¬ Value.Blurred type (Row.at a key.field) (Row.at b key.field) (Row.at c key.field))
    (first : key.MayPrecede type a b) (second : key.MayPrecede type b c) :
    key.MayPrecede type a c := by
  cases first with
  | nullsFirst side ha => exact .nullsFirst side ha
  | nullsLast side hb =>
    cases second with
    | nullsFirst side' => exact absurd (side.symm.trans side') (by decide)
    | nullsLast side' hc => exact .nullsLast side' hc
    | ascending _ hb' => exact absurd hb hb'
    | descending _ hb' => exact absurd hb hb'
  | ascending up ha hb order =>
    cases second with
    | nullsFirst _ hb' => exact absurd hb' hb
    | nullsLast side hc => exact .nullsLast side hc
    | ascending _ _ hc order' =>
      exact .ascending up ha hc (Value.order_isLE_trans clear order order')
    | descending down => exact absurd (up.symm.trans down) (by decide)
  | descending down ha hb order =>
    cases second with
    | nullsFirst _ hb' => exact absurd hb' hb
    | nullsLast side hc => exact .nullsLast side hc
    | ascending up => exact absurd (up.symm.trans down) (by decide)
    | descending _ _ hc order' =>
      have clear' := fun blurred => clear (Value.Blurred.symm blurred)
      exact .descending down ha hc (Value.order_isLE_trans clear' order' order)

end

/-! ### Several keys -/

/-- Whether a row may stand before another by the first of the keys that does not tie them. -/
def AllPrecede (schema : Schema) (keys : List SortKey) (a b : Row) : Prop :=
  ∀ earlier key later, keys = earlier ++ key :: later →
    (∀ k ∈ earlier, k.Ties (schema.typeOf k.field) a b) →
      key.MayPrecede (schema.typeOf key.field) a b

/-- Whether all keys leave the order of two rows open. -/
def AllTie (schema : Schema) (keys : List SortKey) (a b : Row) : Prop :=
  ∀ key ∈ keys, key.Ties (schema.typeOf key.field) a b

section

variable {schema : Schema} {key : SortKey} {keys : List SortKey} {a b : Row}

theorem allPrecede_cons_iff :
    AllPrecede schema (key :: keys) a b ↔
      key.MayPrecede (schema.typeOf key.field) a b ∧
        (key.Ties (schema.typeOf key.field) a b → AllPrecede schema keys a b) := by
  constructor
  · intro all
    refine ⟨all [] key keys rfl nofun, fun tie earlier k later split ties => ?_⟩
    exact all (key :: earlier) k later (congrArg (key :: ·) split)
      (List.forall_mem_cons.mpr ⟨tie, ties⟩)
  · rintro ⟨may, rest⟩ earlier k later split ties
    cases earlier with
    | nil =>
      obtain ⟨rfl, -⟩ := List.cons_eq_cons.mp split
      exact may
    | cons first earlier =>
      obtain ⟨rfl, behind⟩ := List.cons_eq_cons.mp (split.trans List.cons_append)
      obtain ⟨tie, ties⟩ := List.forall_mem_cons.mp ties
      exact rest tie earlier k later behind ties

theorem compareAll_eq_iff : compareAll schema keys a b = .eq ↔ AllTie schema keys a b := by
  induction keys with
  | nil => simp [compareAll, AllTie]
  | cons key keys ih =>
    rw [compareAll, Ordering.then_eq_eq, compareRows_eq_iff, ih, AllTie, AllTie,
      List.forall_mem_cons]

/-- **Rows are compared by the first key that does not tie them.** -/
theorem isLE_compareAll_iff :
    (compareAll schema keys a b).isLE ↔ AllPrecede schema keys a b := by
  induction keys with
  | nil => simp [compareAll, AllPrecede]
  | cons key keys ih =>
    rw [compareAll, allPrecede_cons_iff, ← isLE_compareRows_iff, ← compareRows_eq_iff, ← ih]
    cases key.compareRows (schema.typeOf key.field) a b <;> simp

instance : Decidable (AllTie schema keys a b) :=
  decidable_of_iff _ compareAll_eq_iff

theorem compareAll_append (first second : List SortKey) (a b : Row) :
    compareAll schema (first ++ second) a b =
      (compareAll schema first a b).then (compareAll schema second a b) := by
  induction first with
  | nil => rfl
  | cons key first ih => rw [List.cons_append, compareAll, compareAll, ih, Ordering.then_assoc]

/-! ### Rows with integers to sort by -/

/-- No row has another number to sort by than an integer of 64 bits. -/
def IntegersUnder (keys : List SortKey) (rows : List Row) : Prop :=
  ∀ row ∈ rows, ∀ key ∈ keys, (Row.at row key.field).Integral

instance (keys : List SortKey) (rows : List Row) : Decidable (IntegersUnder keys rows) :=
  inferInstanceAs (Decidable (∀ row ∈ rows, ∀ key ∈ keys, (Row.at row key.field).Integral))

variable {keys' : List SortKey} {rows rows' : List Row}

theorem IntegersUnder.mono (integers : IntegersUnder keys rows) (subkeys : keys' ⊆ keys)
    (subrows : rows' ⊆ rows) : IntegersUnder keys' rows' :=
  fun row hrow key hkey => integers row (subrows hrow) key (subkeys hkey)

theorem preorderOn_compareRows (integers : IntegersUnder [key] rows) (type : Option FieldType) :
    PreorderOn (key.compareRows type) rows where
  laws :=
    { eq_swap := compareRows_swap key type _ _
      isLE_trans := by
        rintro ⟨a, _⟩ ⟨b, hb⟩ ⟨c, _⟩ first second
        rw [isLE_compareRows_iff] at *
        have integer := integers b hb key (List.mem_singleton.mpr rfl)
        exact first.trans (Value.not_blurred integer) second }

/-- **Rows with integers to sort by are in a total preorder.** -/
theorem preorderOn_compareAll (integers : IntegersUnder keys rows) (schema : Schema) :
    PreorderOn (compareAll schema keys) rows := by
  induction keys with
  | nil => exact ⟨{ eq_swap := rfl, isLE_trans := fun _ _ => rfl }⟩
  | cons key keys ih =>
    have own : IntegersUnder [key] rows := integers.mono (by simp) (List.Subset.refl _)
    have rest : IntegersUnder keys rows := integers.mono (by simp) (List.Subset.refl _)
    exact (preorderOn_compareRows own _).lex (ih rest)

end

/-- The rows without a value are a block on the side where nulls go. -/
def NullsTogether (key : SortKey) (rows : List Row) : Prop :=
  ∃ valued missing,
    rows = (match key.nulls with
      | .first => missing ++ valued
      | .last => valued ++ missing) ∧
    (∀ row ∈ valued, Row.at row key.field ≠ .null) ∧
    ∀ row ∈ missing, Row.at row key.field = .null

theorem nullsTogether_of_pairwise {key : SortKey} {type : Option FieldType} {rows : List Row}
    (ordered : rows.Pairwise (key.MayPrecede type)) : key.NullsTogether rows := by
  unfold NullsTogether
  cases side : key.nulls with
  | first =>
    have early : rows.Pairwise fun a b =>
        Row.at b key.field = .null → Row.at a key.field = .null := by
      refine ordered.imp fun may hb => ?_
      cases may with
      | nullsFirst _ ha => exact ha
      | nullsLast last _ => exact absurd (side.symm.trans last) (by decide)
      | ascending _ _ hb' => exact absurd hb hb'
      | descending _ _ hb' => exact absurd hb hb'
    obtain ⟨missing, valued, rfl, hmissing, hvalued⟩ := exists_block early
    exact ⟨valued, missing, rfl, hvalued, hmissing⟩
  | last =>
    have late : rows.Pairwise fun a b =>
        Row.at b key.field ≠ .null → Row.at a key.field ≠ .null := by
      refine ordered.imp fun may hb => ?_
      cases may with
      | nullsFirst first _ => exact absurd (side.symm.trans first) (by decide)
      | nullsLast _ hb' => exact absurd hb' hb
      | ascending _ ha => exact ha
      | descending _ ha => exact ha
    obtain ⟨valued, missing, rfl, hvalued, hmissing⟩ := exists_block late
    exact ⟨valued, missing, rfl, hvalued, fun row mem => not_not.mp (hmissing row mem)⟩

end SortKey

/-! ### Sorted rows -/

open SortKey

/-- The rows in stable order of the keys. -/
structure Arranged (schema : Schema) (keys : List SortKey) (rows result : List Row) : Prop where
  perm : result.Perm rows
  ordered : result.Pairwise (AllPrecede schema keys)
  stable : ∀ row ∈ rows,
    result.filter (AllTie schema keys row ·) = rows.filter (AllTie schema keys row ·)

section

variable {schema : Schema} {keys : List SortKey} {rows result : List Row}

theorem arranged_iff :
    Arranged schema keys rows result ↔ StablySorted (compareAll schema keys) rows result := by
  have ties (row : Row) (l : List Row) : l.filter (AllTie schema keys row ·) =
      l.filter (compareAll schema keys row · == .eq) :=
    List.filter_congr fun other _ => by
      rw [Bool.eq_iff_iff, decide_eq_true_iff, beq_iff_eq, compareAll_eq_iff]
  constructor
  · rintro ⟨perm, ordered, stable⟩
    exact ⟨perm, ordered.imp isLE_compareAll_iff.mpr, by simpa only [ties] using stable⟩
  · rintro ⟨perm, ordered, stable⟩
    exact ⟨perm, ordered.imp isLE_compareAll_iff.mp, by simpa only [ties] using stable⟩

/-- A sort by a total preorder of the rows gives their stable order. -/
theorem sortRows_of_preorder (laws : PreorderOn (compareAll schema keys) rows) :
    ∃ sorted, sortRows schema keys rows = some sorted ∧
      StablySorted (compareAll schema keys) rows sorted := by
  cases keys with
  | nil => exact ⟨rows, rfl, .refl_of_tied fun _ _ _ _ => rfl⟩
  | cons key keys => exact Sorting.stableSort?_of_preorder laws

/-- **A sort gives every row once**, whether its keys order the rows or not. -/
theorem sortRows_perm (h : sortRows schema keys rows = some result) : result.Perm rows := by
  cases keys with
  | nil => rw [Option.some_inj.mp h]
  | cons key keys => exact Sorting.perm_of_stableSort? h

/-- **A sort gives up only where the keys do not order the rows.** -/
theorem not_preorderOn_of_sortRows (h : sortRows schema keys rows = none) :
    ¬ PreorderOn (compareAll schema keys) rows := by
  intro laws
  obtain ⟨sorted, found, -⟩ := sortRows_of_preorder laws
  rw [h] at found
  exact nomatch found

end

/-- **Sorting gives the one stable order of the keys.** Rows with no other numbers to sort by
than integers of 64 bits are permuted into lexicographic order of the keys, and rows that all
keys tie keep their order; the sort does not give up on them. The rows without a value for the
first key are a block on the side where nulls go, in either direction. No other list has these
rows in stable order; so sorting them again changes nothing, and sorting by some keys first and
by the keys before them afterwards is sorting by all. -/
theorem sortRows_arranged (schema : Schema) (keys : List SortKey) (rows : List Row)
    (integers : IntegersUnder keys rows) :
    ∃ sorted, sortRows schema keys rows = some sorted ∧ Arranged schema keys rows sorted ∧
      (∀ key later, keys = key :: later → key.NullsTogether sorted) ∧
      (∀ result, Arranged schema keys rows result → result = sorted) ∧
      sortRows schema keys sorted = some sorted ∧
      ∀ first second, keys = first ++ second →
        (sortRows schema second rows).bind (sortRows schema first) = some sorted := by
  have laws := preorderOn_compareAll integers schema
  obtain ⟨sorted, found, stable⟩ := sortRows_of_preorder laws
  refine ⟨sorted, found, arranged_iff.mpr stable, ?_, ?_, ?_, ?_⟩
  · rintro key later rfl
    have ordered := stable.ordered.imp isLE_compareAll_iff.mp
    exact nullsTogether_of_pairwise (ordered.imp fun all => (allPrecede_cons_iff.mp all).1)
  · intro result arranged
    exact (arranged_iff.mp arranged).unique laws stable
  · have laws' := laws.mono stable.perm.subset
    obtain ⟨again, found', stable'⟩ := sortRows_of_preorder laws'
    rw [found', stable'.unique laws' stable.refl]
  · rintro first second rfl
    have before : IntegersUnder first rows := integers.mono (by simp) (List.Subset.refl _)
    have behind : IntegersUnder second rows := integers.mono (by simp) (List.Subset.refl _)
    obtain ⟨inner, found, inner_stable⟩ :=
      sortRows_of_preorder (preorderOn_compareAll behind schema)
    have before' := before.mono (List.Subset.refl _) inner_stable.perm.subset
    obtain ⟨outer, found', outer_stable⟩ :=
      sortRows_of_preorder (preorderOn_compareAll before' schema)
    have both := inner_stable.lex (preorderOn_compareAll before schema) outer_stable
    simp only [← compareAll_append] at both
    rw [found, Option.bind_some, found', stable.unique laws both]

/-- Most stars first, those without stars before them, and then by date. -/
def starKeys : List SortKey :=
  [{ field := ⟨"stars", []⟩, direction := .descending, nulls := .first },
    { field := ⟨"created_at", []⟩ }]

/-- Bookmarks with numbers, a text and nothing for stars. -/
def starRows : List Row :=
  [[("url", .text "late"), ("stars", .number (.int 3)), ("created_at", .text "2024-01-02")],
    [("url", .text "null"), ("stars", .null)],
    [("url", .text "text"), ("stars", .text "many")],
    [("url", .text "early"), ("stars", .number (.int 3)),
      ("created_at", .text "2024-01-01T23:59:59Z")],
    [("url", .text "missing")]]

/-- The rows in the order of the keys. -/
def rowsByStars : List Row :=
  [starRows[1], starRows[4], starRows[2], starRows[3], starRows[0]]

/-- Rows without stars come first though stars go down, and the date decides among equals. -/
theorem sortRows_arranged_stars :
    IntegersUnder starKeys starRows ∧
      Arranged (Schema.of .bookmark) starKeys starRows rowsByStars ∧
      sortRows (Schema.of .bookmark) starKeys starRows = some rowsByStars := by
  have integers : IntegersUnder starKeys starRows := by decide +kernel
  have arranged : Arranged (Schema.of .bookmark) starKeys starRows rowsByStars :=
    arranged_iff.mpr ⟨by decide +kernel, by decide +kernel, by decide +kernel⟩
  obtain ⟨sorted, found, -, -, unique, -⟩ :=
    sortRows_arranged (Schema.of .bookmark) starKeys starRows integers
  exact ⟨integers, arranged, unique rowsByStars arranged ▸ found⟩

end BookmarkViews
