import BookmarkViews.Proofs.SortingOut
import BookmarkViews.Proofs.Value.JsonText
import BookmarkViews.Run.Grouping
import Mathlib

/-!
What grouping does with rows.

* `groups_partition`: the groups share the rows out among them. Two rows are in one group
  when their values of every grouping field have the same JSON text (`Alike`), and the
  groups stand in the order of their first rows.
* `groups_eq_foldl`: they are the groups that come of taking the rows one by one, each
  joining its group or opening one.
* `rowOf_summarizes`: the row of a group has the grouping columns, then the computed ones,
  and says what its group holds.
* `aggregate_rows` puts them together: one row for each group, in order. All this asks for
  distinct columns; with them, rows of different groups differ in a grouping column
  (`pairwise_aggregate`).
-/

namespace BookmarkViews.Grouping

open List (Forall₂)

/-! ### Groups -/

variable {fields : List FieldPath} {rows : List Row}

/-- The values of two rows have the same JSON texts, field by field. -/
def Alike (fields : List FieldPath) (a b : Row) : Prop :=
  ∀ field ∈ fields, (a.at field).compact = (b.at field).compact

theorem keyText_eq_iff {a b : Row} : keyText fields a = keyText fields b ↔ Alike fields a b := by
  rw [keyText, keyText, Value.compact_list_inj, keyOf, keyOf, List.map_map, List.map_map,
    List.map_inj_left]
  rfl

/-- The rows with a key text. -/
def members (fields : List FieldPath) (rows : List Row) (text : String) : List Row :=
  rows.filter (keyText fields · == text)

/-- The group of the rows with a key text. -/
def groupOf (fields : List FieldPath) (rows : List Row) (text : String) : List Value × List Row :=
  (keyOf fields ((members fields rows text).headD []), members fields rows text)

theorem groups_nil (rows : List Row) : groups [] rows = [([], rows)] :=
  rfl

theorem groups_eq (given : fields ≠ []) (rows : List Row) :
    groups fields rows = (rows.map (keyText fields)).eraseDups.map (groupOf fields rows) := by
  rw [groups, if_neg (by simpa using given)]
  simp only [List.map_map, List.filter_map, Function.comp_def, List.map_id_fun', id]
  rfl

theorem mem_members {text : String} {row : Row} :
    row ∈ members fields rows text ↔ row ∈ rows ∧ keyText fields row = text := by
  rw [members, List.mem_filter, beq_iff_eq]

/-- The rows with a key text begin where the text is met first. -/
theorem findIdx_members (text : String) :
    (rows.findIdx fun row => row ∈ members fields rows text) =
      (rows.map (keyText fields)).idxOf text := by
  rw [List.idxOf, List.findIdx_map]
  refine findIdx_congr fun row mem => ?_
  simp [mem_members, mem, beq_eq_decide]

/-- The rows of a key text that is met have a first row, and its values are the key. -/
theorem exists_first {text : String} (met : text ∈ rows.map (keyText fields)) :
    ∃ first, (groupOf fields rows text).2.head? = some first ∧
      (groupOf fields rows text).1 = keyOf fields first := by
  obtain ⟨row, mem, rfl⟩ := List.mem_map.mp met
  have inside : row ∈ members fields rows (keyText fields row) := mem_members.mpr ⟨mem, rfl⟩
  cases found : members fields rows (keyText fields row) with
  | nil => exact nomatch found ▸ inside
  | cons first rest => exact ⟨first, by rw [groupOf, found]; rfl, by rw [groupOf, found]; rfl⟩

/-! ### Rows one by one -/

/-- Put a row into the group of its key text, or open a group for it behind the others. -/
def addRow (fields : List FieldPath) (gs : List (String × List Value × List Row)) (row : Row) :
    List (String × List Value × List Row) :=
  Keyed.insert gs (keyText fields row) <|
    match Keyed.get? gs (keyText fields row) with
    | some (key, rows) => (key, rows ++ [row])
    | none => (keyOf fields row, [row])

/-- A group with one more row, or a group of one. -/
def joinGroup (fields : List FieldPath) (group : Option (List Value × List Row)) (row : Row) :
    List Value × List Row :=
  match group with
  | some (key, rows) => (key, rows ++ [row])
  | none => (keyOf fields row, [row])

theorem addRow_eq_takeIn : addRow fields = takeIn (keyText fields) (joinGroup fields) :=
  rfl

/-- A row joins the group of its key text and leaves the others alone. -/
theorem accumulates_groupOf (fields : List FieldPath) :
    Accumulates (keyText fields) (joinGroup fields) (groupOf fields) where
  new rows row new := by
    have before : rows.filter (keyText fields · == keyText fields row) = [] :=
      List.filter_eq_nil_iff.mpr fun other mem same =>
        new (beq_iff_eq.mp same ▸ List.mem_map_of_mem mem)
    have alone : members fields (rows ++ [row]) (keyText fields row) = [row] := by
      rw [members, List.filter_append, before]
      simp
    rw [groupOf, alone]
    rfl
  known rows row known := by
    obtain ⟨first, head, -⟩ := exists_first known
    obtain ⟨rest, found⟩ := List.head?_eq_some_iff.mp head
    have joined : members fields (rows ++ [row]) (keyText fields row) =
        members fields rows (keyText fields row) ++ [row] := by
      simp [members]
    rw [groupOf, groupOf, joined]
    rw [groupOf] at found
    dsimp only at found ⊢
    rw [found]
    rfl
  other rows row text other := by
    have same : members fields (rows ++ [row]) text = members fields rows text := by
      simp [members, other]
    rw [groupOf, groupOf, same]

/-- **Grouping takes the rows one by one**: each joins its group or opens one. -/
theorem groups_eq_foldl (given : fields ≠ []) (rows : List Row) :
    groups fields rows = (rows.foldl (addRow fields) []).map (·.2) := by
  rw [groups_eq given, addRow_eq_takeIn, foldl_takeIn (accumulates_groupOf fields), entriesOf,
    List.map_map]
  rfl

/-! ### Sharing out -/

/-- What it is to share rows out by fields. -/
structure Partitions (fields : List FieldPath) (rows : List Row)
    (gs : List (List Value × List Row)) : Prop where
  /-- The groups have all rows, each as often as it is given, and no others. -/
  complete : (gs.flatMap (·.2)).Perm rows
  /-- Every row is in one group. -/
  single : ∀ row ∈ rows, ∃! g, g ∈ gs ∧ row ∈ g.2
  /-- The rows of a group keep their order. -/
  inOrder : ∀ g ∈ gs, g.2.Sublist rows
  /-- Rows are in one group exactly when they are alike. -/
  together : ∀ g ∈ gs, ∀ a ∈ g.2, ∀ b ∈ rows, b ∈ g.2 ↔ Alike fields a b
  /-- A group has a first row, whose values are its key. -/
  keyed : ∀ g ∈ gs, ∃ first, g.2.head? = some first ∧ g.1 = keyOf fields first
  /-- The groups come in the order of their first rows. -/
  firstSeen : gs.Pairwise fun g h =>
    (rows.findIdx fun row => row ∈ g.2) < rows.findIdx fun row => row ∈ h.2

/-- **Groups share out the rows.** -/
theorem groups_partition (given : fields ≠ []) (rows : List Row) :
    Partitions fields rows (groups fields rows) := by
  have texts {text : String} : text ∈ (rows.map (keyText fields)).eraseDups ↔
      text ∈ rows.map (keyText fields) := List.mem_eraseDups
  rw [groups_eq given]
  constructor
  case complete =>
    rw [List.flatMap_map]
    exact flatMap_filter_perm (keyText fields) (nodup_eraseDups _) fun row mem =>
      texts.mpr (List.mem_map_of_mem mem)
  case single =>
    intro row mem
    refine ⟨groupOf fields rows (keyText fields row), ⟨?_, mem_members.mpr ⟨mem, rfl⟩⟩, ?_⟩
    · exact List.mem_map_of_mem (texts.mpr (List.mem_map_of_mem mem))
    · rintro g ⟨listed, inside⟩
      obtain ⟨text, -, rfl⟩ := List.mem_map.mp listed
      rw [(mem_members.mp inside).2]
  case inOrder =>
    refine List.forall_mem_map.mpr fun text _ => ?_
    exact List.filter_sublist
  case together =>
    refine List.forall_mem_map.mpr fun text _ a inside b mem => ?_
    rw [← keyText_eq_iff, (mem_members.mp inside).2, eq_comm]
    exact mem_members.trans (and_iff_right mem)
  case keyed =>
    exact List.forall_mem_map.mpr fun text met => exists_first (texts.mp met)
  case firstSeen =>
    rw [List.pairwise_map]
    refine (eraseDups_firstSeen _).imp fun {text text'} lt => ?_
    rw [← findIdx_members, ← findIdx_members] at lt
    exact lt

/-- Groups that share rows out have different keys. -/
theorem Partitions.keys_ne {gs : List (List Value × List Row)} (h : Partitions fields rows gs) :
    gs.Pairwise fun g g' => g.1 ≠ g'.1 := by
  refine h.firstSeen.imp_of_mem fun {g g'} listed listed' lt same => ?_
  obtain ⟨first, head, key⟩ := h.keyed g listed
  obtain ⟨first', head', key'⟩ := h.keyed g' listed'
  have inside' : first' ∈ g'.2 := List.mem_of_mem_head? head'
  have mem : first' ∈ rows := (h.inOrder g' listed').subset inside'
  have alike : Alike fields first first' := by
    rw [← keyText_eq_iff, keyText, keyText, ← key, ← key', same]
  have inside := (h.together g listed first (List.mem_of_mem_head? head) first' mem).mpr alike
  have one := (h.single first' mem).unique ⟨listed, inside⟩ ⟨listed', inside'⟩
  exact lt_irrefl _ (one ▸ lt)

/-! ### Columns -/

theorem mem_presentValues {field : FieldPath} {v : Value} :
    v ∈ presentValues field rows ↔ v ≠ .null ∧ ∃ row ∈ rows, row.lookup field = some v := by
  have present : (!v.isNull) = true ↔ v ≠ .null := by cases v <;> simp [Value.isNull]
  rw [presentValues, List.mem_filter, List.mem_filterMap, present, and_comm]

/-- A field has no value when it is null in all rows. -/
theorem presentValues_eq_nil_iff {field : FieldPath} :
    presentValues field rows = [] ↔ ∀ row ∈ rows, row.at field = .null := by
  rw [List.eq_nil_iff_forall_not_mem]
  constructor
  · intro absent row mem
    rw [Row.at]
    cases found : row.lookup field with
    | none => rfl
    | some v =>
      by_contra present
      exact absent v (mem_presentValues.mpr ⟨present, row, mem, found⟩)
  · intro null v held
    obtain ⟨present, row, mem, found⟩ := mem_presentValues.mp held
    have := null row mem
    rw [Row.at, found] at this
    exact present this

/-- The extreme value is one of the values. -/
theorem extreme_mem (type : Option FieldType) (wanted : Ordering) {values : List Value}
    (nonempty : values ≠ []) : extreme type wanted values ∈ values := by
  obtain ⟨v, vs, rfl⟩ := List.exists_cons_of_ne_nil nonempty
  clear nonempty
  rw [extreme]
  induction vs generalizing v with
  | nil => exact List.mem_singleton.mpr rfl
  | cons w vs ih =>
    rw [List.foldl_cons]
    split
    · exact List.mem_cons_of_mem _ (ih w)
    · rcases List.mem_cons.mp (ih v) with best | later
      · exact List.mem_cons.mpr (.inl best)
      · exact List.mem_cons_of_mem _ (List.mem_cons_of_mem _ later)

/-- A value is null when the rows have none in a field, and otherwise one of theirs. -/
def TakenFrom (rows : List Row) (field : FieldPath) (v : Value) : Prop :=
  (v = .null ↔ ∀ row ∈ rows, row.at field = .null) ∧
    (v ≠ .null → ∃ row ∈ rows, row.lookup field = some v)

theorem extreme_takenFrom (type : Option FieldType) (wanted : Ordering) (rows : List Row)
    (field : FieldPath) :
    TakenFrom rows field (extreme type wanted (presentValues field rows)) := by
  rw [TakenFrom, ← presentValues_eq_nil_iff]
  by_cases absent : presentValues field rows = []
  · rw [absent]
    exact ⟨iff_of_true rfl rfl, fun present => absurd rfl present⟩
  · obtain ⟨present, held⟩ := mem_presentValues.mp (extreme_mem type wanted absent)
    exact ⟨iff_of_false present absent, fun _ => held⟩

/-! ### The rows of groups -/

variable {compute : List Aggregate}

/-- The columns of a grouping: those of the fields, then the computed ones. -/
def columns (fields : List FieldPath) (compute : List Aggregate) : List String :=
  fields.map FieldPath.text ++ compute.map Aggregate.name

/-- A key has a value for every field. -/
theorem length_key {g : List Value × List Row} (mem : g ∈ groups fields rows) :
    g.1.length = fields.length := by
  by_cases given : fields = []
  · subst given
    obtain rfl := List.mem_singleton.mp mem
    rfl
  · obtain ⟨first, -, key⟩ := (groups_partition given rows).keyed g mem
    rw [key, keyOf, List.length_map]

section

variable {g : List Value × List Row} (sized : g.1.length = fields.length)

include sized

theorem keys_zip : Keyed.keys ((fields.map FieldPath.text).zip g.1) = fields.map FieldPath.text :=
  List.map_fst_zip (by rw [List.length_map, sized])

/-- Where the columns are distinct, none is written over. -/
theorem rowOf_eq (distinct : (columns fields compute).Nodup) (input : Schema) :
    rowOf fields compute input g =
      (fields.map FieldPath.text).zip g.1 ++
        compute.map fun a => (a.name, computeOne input g.2 a) := by
  have computed : Keyed.keys (compute.map fun a => (a.name, computeOne input g.2 a)) =
      compute.map Aggregate.name := by rw [Keyed.keys, List.map_map]; rfl
  have front : (Keyed.keys ((fields.map FieldPath.text).zip g.1)).Nodup := by
    rw [keys_zip sized]
    exact (List.nodup_append.mp distinct).1
  rw [rowOf, Keyed.ofEntries_of_nodup front, Keyed.insertAll_of_nodup]
  rw [Keyed.keys_append, keys_zip sized, computed]
  exact distinct

theorem keys_rowOf (distinct : (columns fields compute).Nodup) (input : Schema) :
    Keyed.keys (rowOf fields compute input g) = columns fields compute := by
  rw [rowOf_eq sized distinct, Keyed.keys_append, keys_zip sized, Keyed.keys, List.map_map]
  rfl

/-- The grouping columns hold the key. -/
theorem get?_rowOf_field (distinct : (columns fields compute).Nodup) (input : Schema) :
    fields.map (fun field => Keyed.get? (rowOf fields compute input g) field.text) =
      g.1.map some := by
  have unique := (keys_rowOf sized distinct input).symm ▸ distinct
  refine List.ext_getElem (by simp [sized]) fun i inFields inKey => ?_
  rw [List.length_map] at inFields inKey
  have entry : (fields[i].text, g.1[i]) ∈ rowOf fields compute input g := by
    rw [rowOf_eq sized distinct]
    refine List.mem_append_left _ (List.mem_iff_getElem.mpr ⟨i, by simp [sized, inFields], ?_⟩)
    rw [List.getElem_zip, List.getElem_map]
  rw [List.getElem_map, List.getElem_map]
  exact Keyed.get?_of_mem unique entry

/-- A computed column holds what is computed for the group. -/
theorem get?_rowOf_computed (distinct : (columns fields compute).Nodup) (input : Schema)
    {a : Aggregate} (mem : a ∈ compute) :
    Keyed.get? (rowOf fields compute input g) a.name = some (computeOne input g.2 a) := by
  have unique := (keys_rowOf sized distinct input).symm ▸ distinct
  have entry : (a.name, computeOne input g.2 a) ∈ rowOf fields compute input g := by
    rw [rowOf_eq sized distinct]
    exact List.mem_append_right _ (List.mem_map_of_mem mem)
  exact Keyed.get?_of_mem unique entry

end

/-- What the row of a group says of it. -/
structure Summarizes (fields : List FieldPath) (compute : List Aggregate)
    (g : List Value × List Row) (row : Row) : Prop where
  /-- The columns of the fields come first, then the computed ones, in order. -/
  columns : Keyed.keys row = columns fields compute
  /-- The columns of the fields hold the key of the group. -/
  key : fields.map (fun field => Keyed.get? row field.text) = g.1.map some
  /-- A column without a field holds the number of rows. -/
  count : ∀ a ∈ compute, a.field = none → Keyed.get? row a.name = some (.ofInt g.2.length)
  /-- An extreme value is null or taken from the rows. -/
  extreme : ∀ a ∈ compute, ∀ field, a.field = some field → a.fn = .min ∨ a.fn = .max →
    ∃ v, Keyed.get? row a.name = some v ∧ TakenFrom g.2 field v

theorem rowOf_summarizes {g : List Value × List Row} (sized : g.1.length = fields.length)
    (distinct : (columns fields compute).Nodup) (input : Schema) :
    Summarizes fields compute g (rowOf fields compute input g) where
  columns := keys_rowOf sized distinct input
  key := get?_rowOf_field sized distinct input
  count a mem plain := by rw [get?_rowOf_computed sized distinct input mem, computeOne, plain]
  extreme a mem field operand fn := by
    refine ⟨_, get?_rowOf_computed sized distinct input mem, ?_⟩
    rw [computeOne, operand]
    rcases fn with fn | fn <;> rw [fn] <;> exact extreme_takenFrom _ _ _ _

/-- Every group has one row, in order. -/
theorem aggregate_summarizes (distinct : (columns fields compute).Nodup) (input : Schema)
    (rows : List Row) :
    Forall₂ (Summarizes fields compute) (groups fields rows)
      (aggregate fields compute input rows) := by
  rw [aggregate, List.forall₂_map_right_iff, List.forall₂_same]
  exact fun g mem => rowOf_summarizes (length_key mem) distinct input

/-- The rows of different groups differ in a column of the fields. -/
theorem pairwise_aggregate (distinct : (columns fields compute).Nodup) (input : Schema)
    (rows : List Row) :
    (aggregate fields compute input rows).Pairwise fun row row' =>
      ∃ field ∈ fields, Keyed.get? row field.text ≠ Keyed.get? row' field.text := by
  by_cases given : fields = []
  · subst given
    exact List.pairwise_singleton _ _
  · rw [aggregate, List.pairwise_map]
    refine (groups_partition given rows).keys_ne.imp_of_mem fun {g g'} listed listed' other => ?_
    by_contra same
    have key := (rowOf_summarizes (length_key listed) distinct input).key
    have key' := (rowOf_summarizes (length_key listed') distinct input).key
    rw [List.map_congr_left fun field mem => not_not.mp fun differ => same ⟨field, mem, differ⟩,
      key'] at key
    exact other (List.map_injective_iff.mpr (Option.some_injective _) key.symm)

/-- The sizes of the groups add up. -/
theorem sum_length_groups (fields : List FieldPath) (rows : List Row) :
    ((groups fields rows).map fun g => g.2.length).sum = rows.length := by
  by_cases given : fields = []
  · subst given
    rw [groups_nil]
    rfl
  · rw [← List.length_flatMap]
    exact (groups_partition given rows).complete.length_eq

/-- **Grouping shares out the rows and says so.** The groups share out the rows by the
fields, or are the one group of all rows where there are no fields. Each has one row,
in order, that summarizes it, and the columns that count rows add up to their number. -/
theorem aggregate_rows (fields : List FieldPath) (compute : List Aggregate)
    (distinct : (columns fields compute).Nodup) (input : Schema) (rows : List Row) :
    (fields ≠ [] → Partitions fields rows (groups fields rows)) ∧
      (fields = [] → groups fields rows = [([], rows)] ∧
        ∃ row, aggregate fields compute input rows = [row]) ∧
      Forall₂ (Summarizes fields compute) (groups fields rows)
        (aggregate fields compute input rows) ∧
      ∀ a ∈ compute, a.field = none → ∃ counts : List Nat,
        (aggregate fields compute input rows).map (fun row => Keyed.get? row a.name) =
          counts.map (fun n => some (.ofInt n)) ∧
        counts.sum = rows.length := by
  refine ⟨fun given => groups_partition given rows, ?_,
    aggregate_summarizes distinct input rows, fun a mem plain => ?_⟩
  · rintro rfl
    exact ⟨groups_nil rows, _, rfl⟩
  · refine ⟨(groups fields rows).map fun g => g.2.length, ?_, sum_length_groups fields rows⟩
    rw [aggregate, List.map_map, List.map_map]
    exact List.map_congr_left fun g listed =>
      (rowOf_summarizes (length_key listed) distinct input).count a mem plain

/-- Visits of a site, and rows without one. -/
def visits : List Row :=
  [[("domain", .text "a.com"), ("stars", .ofInt 3)], [("title", .text "x")],
    [("domain", .text "a.com")], [("domain", .null), ("stars", .null)]]

/-- How often a site is visited, and its most stars. -/
def visitColumns : List Aggregate :=
  [.count "n", ⟨"most", .max, some ⟨"stars", []⟩⟩]

/-- A missing field counts as null, and no stars have no greatest. -/
theorem aggregate_rows_visits :
    (columns [⟨"domain", []⟩] visitColumns).Nodup ∧
      Partitions [⟨"domain", []⟩] visits
        [([.text "a.com"], [[("domain", .text "a.com"), ("stars", .ofInt 3)],
            [("domain", .text "a.com")]]),
          ([.null], [[("title", .text "x")], [("domain", .null), ("stars", .null)]])] ∧
      aggregate [⟨"domain", []⟩] visitColumns (.of .bookmark) visits =
        [[("domain", .text "a.com"), ("n", .ofInt 2), ("most", .ofInt 3)],
          [("domain", .null), ("n", .ofInt 2), ("most", .null)]] := by
  have distinct : (columns [⟨"domain", []⟩] visitColumns).Nodup := by decide
  obtain ⟨partition, -⟩ := aggregate_rows _ _ distinct (.of .bookmark) visits
  exact ⟨distinct, partition (by decide), by cbv⟩

end BookmarkViews.Grouping
