import BookmarkViews.Proofs.SortingOut
import BookmarkViews.Result.Items
import Mathlib.Data.List.Nodup
import Mathlib.Data.List.Perm.Basic

/-!
Results keep their rows.

An item takes a field into a typed slot only when the slot can hold the value as it is
(`SlotType.Reads`), and keeps every other field. So a result lists of each row the typed
fields that fit, then all others in the order of the row (`Row.typedFirst`), and that is the
row again up to order (`Row.typedFirst_perm`). Rows of statistics are listed with their
group columns first.
-/

namespace BookmarkViews

/-! ### Typed fields -/

/-- What a typed slot of an item holds. -/
inductive SlotType where
  | integer
  | text
  | texts
  | flag
  | double

/-- A typed slot: the name of its field, and what it holds. -/
abbrev Slot := String × SlotType

namespace SlotType

/-- Whether a slot can hold a value: an integer of 64 bits, a text, a list of nothing but
texts, a truth value, or a number that is written as no integer. -/
def fits : SlotType → Value → Bool
  | .integer, .number (.int n) => Decimal.fits64 n
  | .text, .text _ => true
  | .texts, .list items => items.all fun v => v.text?.isSome
  | .flag, .bool _ => true
  | .double, .number (.float _) => true
  | _, _ => false

/-- What is read into a slot is written as the value it was, and all that fits is read. -/
def Reads {α : Type} (type : SlotType) (read : Value → Option α) (write : α → Value) : Prop :=
  ∀ v, (read v).map write = if type.fits v then some v else none

theorem reads_integer : integer.Reads Value.int64? Value.ofInt := by
  intro v
  cases v with
  | number n =>
    cases n with
    | int n =>
      by_cases fit : Decimal.fits64 n = true <;>
        simp [Value.int64?, Number.int64?, fits, fit, Value.ofInt]
    | float x => rfl
  | null | bool _ | text _ | list _ | object _ => rfl

theorem reads_text : text.Reads Value.text? Value.text := by
  intro v
  cases v <;> rfl

theorem reads_flag : flag.Reads Value.bool? Value.bool := by
  intro v
  cases v <;> rfl

theorem reads_double : double.Reads Value.float? fun x => .number (.float x) := by
  intro v
  cases v with
  | number n => cases n <;> rfl
  | null | bool _ | text _ | list _ | object _ => rfl

/-- Texts that are read from the items of a list are the items. -/
theorem mapM_text? (items : List Value) :
    (items.mapM Value.text?).map (List.map Value.text) =
      if items.all (fun v => v.text?.isSome) then some items else none := by
  induction items with
  | nil => rfl
  | cons v items ih =>
    cases v with
    | text s =>
      have step : (Value.text s :: items).mapM Value.text? =
          (items.mapM Value.text?).map (s :: ·) := by
        rw [List.mapM_cons]
        cases items.mapM Value.text? <;> rfl
      have ih := congrArg (Option.map (Value.text s :: ·)) ih
      rw [Option.map_map, apply_ite (Option.map _)] at ih
      rw [step, Option.map_map]
      exact ih
    | null | bool _ | number _ | list _ | object _ => rfl

theorem reads_texts : texts.Reads Value.texts? Value.ofTexts := by
  intro v
  cases v with
  | list items =>
    have items := congrArg (Option.map Value.list) (mapM_text? items)
    rw [Option.map_map, apply_ite (Option.map Value.list)] at items
    exact items
  | null | bool _ | number _ | text _ | object _ => rfl

end SlotType

/-- Whether a field goes into a slot. -/
def Slot.holds (slot : Slot) (field : String × Value) : Bool :=
  field.1 == slot.1 && slot.2.fits field.2

/-- No field goes into two slots of different names. -/
theorem Slot.apart {slots : List Slot} (distinct : (Keyed.keys slots).Nodup) :
    slots.Pairwise fun slot slot' => ∀ f, slot.holds f = true → slot'.holds f = false := by
  refine (List.pairwise_map.mp distinct).imp fun {slot slot'} other f held => ?_
  have named : f.1 = slot.1 := beq_iff_eq.mp (Bool.and_eq_true_iff.mp held).1
  rw [Slot.holds, named, beq_eq_false_iff_ne.mpr other, Bool.false_and]

/-- The typed slots of the items of an entity, in the order in which they are declared. -/
def Entity.slots : Entity → List Slot
  | .bookmark =>
    [("id", .integer), ("url", .text), ("title", .text), ("domain", .text), ("tags", .texts),
      ("stars", .integer), ("created_at", .text), ("archived", .flag)]
  | .tag => [("name", .text), ("count", .integer)]
  | .edge =>
    [("source", .integer), ("target", .integer), ("relation", .text), ("weight", .double)]
  | .stats => []

namespace Row

variable {row : Row} {slot : Slot} {slots : List Slot} {α : Type} {type : SlotType}
  {read : Value → Option α} {write : α → Value} {name : String}

/-! ### Taking fields -/

/-- What is left of a row when a slot has taken its field: all fields that do not go into
the slot. -/
theorem take_snd (reads : type.Reads read write) (unique : (Keyed.keys row).Nodup) :
    (take read name row).2 = row.filter fun f => !Slot.holds (name, type) f := by
  unfold take
  cases filled : (Keyed.get? row name).bind read with
  | none =>
    refine (List.filter_eq_self.mpr fun field mem => ?_).symm
    by_cases named : field.1 = name
    · have unread : read field.2 = none := by
        rwa [← named, Keyed.get?_of_mem unique mem, Option.bind_some] at filled
      have unfit := reads field.2
      rw [unread] at unfit
      simp_all [Slot.holds]
    · simp [Slot.holds, named]
  | some a =>
    obtain ⟨v, found, taken⟩ := Option.bind_eq_some_iff.mp filled
    refine List.filter_congr fun field mem => ?_
    by_cases named : field.1 = name
    · have value : field.2 = v := by
        rw [← named, Keyed.get?_of_mem unique mem] at found
        exact Option.some_inj.mp found
      have fit := reads v
      rw [taken] at fit
      simp_all [Slot.holds]
    · simp [Slot.holds, bne, beq_eq_false_iff_ne.mpr named]

/-- What a slot has taken is written as the field that it was. -/
theorem slot_take (reads : type.Reads read write) (unique : (Keyed.keys row).Nodup) :
    Row.slot write name (take read name row).1 = row.filter (Slot.holds (name, type)) := by
  have written (filled : Option α) :
      Row.slot write name filled = (filled.map write).toList.map fun v => (name, v) := by
    cases filled <;> rfl
  have taken : (take read name row).1 = (Keyed.get? row name).bind read := by
    unfold take
    split
    · next filled => rw [filled]
    · next unfilled => rw [unfilled]
  have fit : ((Keyed.get? row name).bind read).map write =
      (Keyed.get? row name).filter type.fits := by
    cases Keyed.get? row name with
    | none => rfl
    | some v => rw [Option.bind_some, reads, Option.filter_some]
  rw [written, taken, fit]
  exact (Keyed.filter_key unique name type.fits).symm

/-- The rest of a row has distinct names like the row. -/
theorem unique_take (read : Value → Option α) (name : String) (unique : (Keyed.keys row).Nodup) :
    (Keyed.keys (take read name row).2).Nodup := by
  unfold take
  split
  · exact unique.sublist (List.filter_sublist.map _)
  · exact unique

/-! ### The order of a result -/

/-- The fields that go into slots, in the order of the slots, then all others in the order
of the row. -/
def typedFirst (slots : List Slot) (row : Row) : Row :=
  slots.flatMap (fun slot => row.filter slot.holds) ++
    row.filter fun f => !slots.any fun slot => slot.holds f

theorem typedFirst_eq (slots : List Slot) (row : Row) :
    typedFirst slots row = sortOut Slot.holds slots row :=
  rfl

/-- The first slot takes its field from the row, and the other slots take theirs from
what is left. -/
theorem typedFirst_cons (distinct : (Keyed.keys (slot :: slots)).Nodup) (row : Row) :
    typedFirst (slot :: slots) row =
      row.filter slot.holds ++ typedFirst slots (row.filter fun f => !slot.holds f) := by
  rw [typedFirst_eq, typedFirst_eq]
  exact sortOut_cons (List.pairwise_cons.mp (Slot.apart distinct)).1 row

/-- **Listing typed fields first keeps every field**, whatever it holds. -/
theorem typedFirst_perm (distinct : (Keyed.keys slots).Nodup) (row : Row) :
    (typedFirst slots row).Perm row :=
  sortOut_perm (Slot.apart distinct) row

/-- A slot that takes its field from a row lists it in front of what is left. -/
theorem typedFirst_take (reads : type.Reads read write) (unique : (Keyed.keys row).Nodup)
    (distinct : (Keyed.keys ((name, type) :: slots)).Nodup) :
    typedFirst ((name, type) :: slots) row =
      Row.slot write name (take read name row).1 ++ typedFirst slots (take read name row).2 := by
  rw [typedFirst_cons distinct, slot_take reads unique, take_snd reads unique]

/-- Without slots a row is listed as it is. -/
theorem typedFirst_nil (row : Row) : typedFirst [] row = row := by
  simp [typedFirst]

end Row

/-! ### Items -/

section

open SlotType

variable {row : Row}

theorem BookmarkItem.toRow_ofRow (unique : (Keyed.keys row).Nodup) :
    (ofRow row).toRow = row.typedFirst Entity.bookmark.slots := by
  have id := Row.unique_take Value.int64? "id" unique
  have url := Row.unique_take Value.text? "url" id
  have title := Row.unique_take Value.text? "title" url
  have domain := Row.unique_take Value.text? "domain" title
  have tags := Row.unique_take Value.texts? "tags" domain
  have stars := Row.unique_take Value.int64? "stars" tags
  have createdAt := Row.unique_take Value.text? "created_at" stars
  rw [Entity.slots, Row.typedFirst_take reads_integer unique (by decide),
    Row.typedFirst_take reads_text id (by decide), Row.typedFirst_take reads_text url (by decide),
    Row.typedFirst_take reads_text title (by decide),
    Row.typedFirst_take reads_texts domain (by decide),
    Row.typedFirst_take reads_integer tags (by decide),
    Row.typedFirst_take reads_text stars (by decide),
    Row.typedFirst_take reads_flag createdAt (by decide), Row.typedFirst_nil]
  simp only [toRow, slots, ofRow, List.append_assoc]

theorem TagItem.toRow_ofRow (unique : (Keyed.keys row).Nodup) :
    (ofRow row).toRow = row.typedFirst Entity.tag.slots := by
  have name := Row.unique_take Value.text? "name" unique
  rw [Entity.slots, Row.typedFirst_take reads_text unique (by decide),
    Row.typedFirst_take reads_integer name (by decide), Row.typedFirst_nil]
  simp only [toRow, slots, ofRow, List.append_assoc]

theorem EdgeItem.toRow_ofRow (unique : (Keyed.keys row).Nodup) :
    (ofRow row).toRow = row.typedFirst Entity.edge.slots := by
  have source := Row.unique_take Value.int64? "source" unique
  have target := Row.unique_take Value.int64? "target" source
  have relation := Row.unique_take Value.text? "relation" target
  rw [Entity.slots, Row.typedFirst_take reads_integer unique (by decide),
    Row.typedFirst_take reads_integer source (by decide),
    Row.typedFirst_take reads_text target (by decide),
    Row.typedFirst_take reads_double relation (by decide), Row.typedFirst_nil]
  simp only [toRow, slots, ofRow, List.append_assoc]

end

/-- The fields of group columns, then all others, each in the order of the row. -/
def Row.groupsFirst (groupColumns : List String) (row : Row) : Row :=
  (row.filter fun f => groupColumns.contains f.1) ++
    row.filter fun f => !groupColumns.contains f.1

theorem StatsItem.toRow_ofRow (groupColumns : List String) (row : Row) :
    (ofRow groupColumns row).toRow = row.groupsFirst groupColumns := by
  rw [toRow, ofRow, List.partition_eq_filter_filter]
  rfl

/-! ### Results -/

/-- A row as a result of an entity lists it. -/
def Row.listed (entity : Entity) (groupColumns : List String) (row : Row) : Row :=
  match entity with
  | .stats => row.groupsFirst groupColumns
  | entity => row.typedFirst entity.slots

theorem Row.listed_perm (entity : Entity) (groupColumns : List String) (row : Row) :
    (row.listed entity groupColumns).Perm row := by
  cases entity with
  | stats => exact List.filter_append_perm _ row
  | bookmark | tag | edge => exact typedFirst_perm (by decide) row

theorem QueryResult.rows_ofRows {rows : List Row} (unique : ∀ row ∈ rows, (Keyed.keys row).Nodup)
    (entity : Entity) (groupColumns : List String) :
    (ofRows entity rows groupColumns).rows = rows.map (Row.listed entity groupColumns) := by
  cases entity with
  | bookmark =>
    rw [ofRows, QueryResult.rows, List.map_map]
    exact List.map_congr_left fun row mem => BookmarkItem.toRow_ofRow (unique row mem)
  | tag =>
    rw [ofRows, QueryResult.rows, List.map_map]
    exact List.map_congr_left fun row mem => TagItem.toRow_ofRow (unique row mem)
  | edge =>
    rw [ofRows, QueryResult.rows, List.map_map]
    exact List.map_congr_left fun row mem => EdgeItem.toRow_ofRow (unique row mem)
  | stats =>
    rw [ofRows, QueryResult.rows, List.map_map]
    exact List.map_congr_left fun row _ => StatsItem.toRow_ofRow groupColumns row

/-- **Results lose nothing.** A result of rows is a list with one object for each row, in
order: the fields of the row, each once and with the value that it has there, those that
fit typed slots first in the order of the slots, and all others behind them in the order of
the row. In rows of statistics the group columns come first. -/
theorem QueryResult.toValue_ofRows {rows : List Row} (unique : ∀ row ∈ rows, (Keyed.keys row).Nodup)
    (entity : Entity) (groupColumns : List String) :
    ∃ objects : List Row,
      (ofRows entity rows groupColumns).toValue = .list (objects.map .object) ∧
      List.Forall₂ (fun row object => object = Row.listed entity groupColumns row ∧
        object.Perm row ∧ (Keyed.keys object).Nodup) rows objects := by
  refine ⟨rows.map (Row.listed entity groupColumns), ?_, ?_⟩
  · rw [toValue, rows_ofRows unique]
  · refine List.forall₂_map_right_iff.mpr (List.forall₂_same.mpr fun row mem => ?_)
    have same := row.listed_perm entity groupColumns
    exact ⟨rfl, same, (same.map _).nodup_iff.mpr (unique row mem)⟩

/-- A bookmark of whose typed fields only the id fits. -/
def misfits : Row :=
  [("favicon", .text "x.ico"), ("stars", .text "five"), ("tags", .list [.text "ai", .ofInt 3]),
    ("title", .null), ("id", .ofInt 7)]

/-- The fields that do not fit stand behind the id as they were. -/
theorem QueryResult.toValue_ofRows_misfits :
    (∀ row ∈ [misfits], (Keyed.keys row).Nodup) ∧
      ∃ object : Row, (ofRows .bookmark [misfits] []).toValue = .list [.object object] ∧
        object.Perm misfits ∧
        object = [("id", .ofInt 7), ("favicon", .text "x.ico"), ("stars", .text "five"),
          ("tags", .list [.text "ai", .ofInt 3]), ("title", .null)] := by
  have unique : ∀ row ∈ [misfits], (Keyed.keys row).Nodup := by decide
  obtain ⟨objects, value, each⟩ := toValue_ofRows unique .bookmark []
  obtain ⟨object, rest, ⟨listed, same, -⟩, done, rfl⟩ := List.forall₂_cons_left_iff.mp each
  obtain rfl := List.forall₂_nil_left_iff.mp done
  exact ⟨unique, object, value, same, listed⟩

end BookmarkViews
