import BookmarkViews.Proofs.Store.Kept
import Mathlib.Data.List.Perm.Basic

/-!
Insertions, one after another.

An insertion that breaks a rule of the tables fails, and the next one finds the tables as they
were. Those that succeed leave one record each, in the order of ids.

* `Tables.insertBookmark?_eq_ok_iff`, `Tables.insertEdge?_eq_ok_iff`: what an insertion does;
* `Tables.refused_iff`: when it fails;
* `Tables.Holds.insertAll`: tables hold the bookmarks that were inserted.
-/

namespace BookmarkViews

/-! ### Empty cells -/

namespace Cell

theorem ofValue_eq_null_iff {v : Value} : ofValue v = .null ↔ v = .null := by
  cases v with
  | null => simp [ofValue]
  | number n =>
    rw [ofValue]
    split <;> simp
  | bool b | text s | list items | object fields => simp [ofValue]

theorem ofNumeric_ne_null (s : String) : ofNumeric s ≠ .null := by
  unfold ofNumeric
  dsimp only
  split
  · exact Cell.noConfusion
  · split <;> exact Cell.noConfusion

theorem ofFlag_ne_null (s : String) : ofFlag s ≠ .null := by
  unfold ofFlag
  split <;> exact Cell.noConfusion

/-- Only null prepares an empty cell. -/
theorem prepare_eq_null_iff {type : Option FieldType} {v : Value} :
    prepare type v = .null ↔ v = .null := by
  unfold prepare
  split
  · exact iff_of_false (ofNumeric_ne_null _) Value.noConfusion
  · exact iff_of_false (ofNumeric_ne_null _) Value.noConfusion
  · exact iff_of_false (ofFlag_ne_null _) Value.noConfusion
  · exact ofValue_eq_null_iff

theorem preferInteger_ne_null (x : Binary64) : preferInteger x ≠ .null := by
  unfold preferInteger
  split <;> exact Cell.noConfusion

theorem ne_null_of_ofNumberText? {s : String} {c : Cell} (h : ofNumberText? s = some c) :
    c ≠ .null := by
  unfold ofNumberText? at h
  dsimp only at h
  split at h
  · split at h
    · obtain rfl := Option.some_inj.mp h
      exact Cell.noConfusion
    · obtain ⟨x, -, rfl⟩ := Option.map_eq_some_iff.mp h
      exact preferInteger_ne_null x
  · exact nomatch h

end Cell

/-- No column keeps a cell empty that was not. -/
theorem Affinity.keep_eq_null_iff {affinity : Affinity} {c : Cell} :
    affinity.keep c = .null ↔ c = .null := by
  cases c with
  | null => cases affinity <;> simp [keep]
  | integer n => cases affinity <;> simp [keep]
  | real x =>
    cases affinity with
    | integer => simpa [keep] using Cell.preferInteger_ne_null x
    | real | text => simp [keep]
  | text s =>
    refine iff_of_false ?_ Cell.noConfusion
    cases affinity with
    | text => simp [keep]
    | integer =>
      rw [keep]
      cases read : Cell.ofNumberText? s with
      | none => exact Cell.noConfusion
      | some c => exact Cell.ne_null_of_ofNumberText? read
    | real =>
      rw [keep]
      split
      · exact Cell.noConfusion
      · next read => exact Cell.ne_null_of_ofNumberText? read
      · exact Cell.noConfusion

/-- A row has an integer of 64 bits as its id. -/
def Row.HasId (row : Row) : Prop :=
  ∃ n, Decimal.fits64 n = true ∧ Keyed.get? row "id" = some (.ofInt n)

/-! ### One insertion -/

namespace Tables

variable {t t' : Tables} {row : Row} {entity : Entity} {columns : List Column} {id : Int}

/-- A row has no value under a name, or null. -/
def Lacks (row : Row) (name : String) : Prop :=
  (Keyed.get? row name).getD .null = .null

theorem cellFor_eq_null_iff {c : Column} : cellFor entity row c = .null ↔ Lacks row c.name := by
  rw [cellFor, Affinity.keep_eq_null_iff, Cell.prepare_eq_null_iff, Lacks]

/-- The columns keep cells of every row that lacks nothing required. -/
theorem cellsFor?_eq_ok_iff {cells : Cells} :
    cellsFor? entity row columns = .ok cells ↔
      (∀ c ∈ columns, c.required = true → ¬ Lacks row c.name) ∧
        cells = keptCells entity row columns := by
  constructor
  · intro kept
    refine ⟨fun c mem required lacks => ?_, keptCells_of_cellsFor? kept⟩
    obtain ⟨cell, single⟩ := exists_mapM_eq_ok_iff.mp ⟨cells, kept⟩ c mem
    dsimp only at single
    rw [if_pos (by simp [required, cellFor_eq_null_iff.mpr lacks])] at single
    exact nomatch single
  · rintro ⟨complete, rfl⟩
    obtain ⟨cells, kept⟩ : ∃ cells, cellsFor? entity row columns = .ok cells := by
      apply exists_mapM_eq_ok_iff.mpr
      intro c mem
      refine ⟨(c.name, cellFor entity row c), if_neg ?_⟩
      rw [Bool.and_eq_true, decide_eq_true_eq]
      rintro ⟨required, empty⟩
      exact complete c mem required (cellFor_eq_null_iff.mp empty)
    rw [kept, keptCells_of_cellsFor? kept]

/-- The cell that a row asks for as its id. -/
def idCell (row : Row) : Cell :=
  Affinity.keep .integer (Cell.prepare (some .int) ((Keyed.get? row "id").getD .null))

theorem prepare_int {n : Int} (fits : Decimal.fits64 n = true) :
    Cell.prepare (some .int) (.ofInt n) = .integer n := by
  simp only [Cell.prepare, Value.ofInt, Cell.ofValue, Number.int64?, if_pos fits]

theorem idCell_of_hasId (h : row.HasId) :
    ∃ n, idCell row = .integer n ∧ Keyed.get? row "id" = some (.ofInt n) := by
  obtain ⟨n, fits, asked⟩ := h
  exact ⟨n, by rw [idCell, asked, Option.getD_some, prepare_int fits, Affinity.keep], asked⟩

theorem idFor?_eq_ok_iff :
    t.idFor? row = .ok id ↔
      (idCell row = .null ∧ id = t.nextId) ∨
        (idCell row = .integer id ∧ ∀ b ∈ t.bookmarks, b.id ≠ id) := by
  rw [idFor?, ← idCell]
  cases idCell row with
  | null => simp [eq_comm]
  | integer n =>
    dsimp only
    split_ifs with taken
    · obtain ⟨b, mem, same⟩ := List.any_eq_true.mp taken
      refine iff_of_false (fun h => nomatch h) ?_
      rintro (⟨none, -⟩ | ⟨asked, free⟩)
      · exact nomatch none
      · exact free b mem ((beq_iff_eq.mp same).trans (Cell.integer.inj asked))
    · simp only [List.any_eq_true, beq_iff_eq, not_exists, not_and] at taken
      constructor
      · intro h
        obtain rfl := Except.ok.inj h
        exact .inr ⟨rfl, taken⟩
      · rintro (⟨none, -⟩ | ⟨asked, -⟩)
        · exact nomatch none
        · rw [Cell.integer.inj asked]
  | real x => simp
  | text s => simp

/-- The record that tables keep of a row. -/
def recordOf (id : Int) (row : Row) : StoredBookmark :=
  ⟨id, keptCells .bookmark row Column.bookmarks, tagsOf row⟩

/-- **What the insertion of a bookmark does.** -/
theorem insertBookmark?_eq_ok_iff :
    t.insertBookmark? row = .ok (id, t') ↔
      t.idFor? row = .ok id ∧ ¬ Lacks row "url" ∧
        t' = { t with bookmarks := place (recordOf id row) t.bookmarks } := by
  have url : (∀ c ∈ Column.bookmarks, c.required = true → ¬ Lacks row c.name) ↔
      ¬ Lacks row "url" := by
    simp [Column.bookmarks]
  rw [insertBookmark?, ← url]
  constructor
  · intro inserted
    obtain ⟨_, asked, inserted⟩ := bind_eq_ok.mp inserted
    obtain ⟨cells, kept, inserted⟩ := bind_eq_ok.mp inserted
    obtain ⟨rfl, rfl⟩ := Prod.mk.inj (Except.ok.inj inserted)
    obtain ⟨complete, rfl⟩ := cellsFor?_eq_ok_iff.mp kept
    exact ⟨asked, complete, rfl⟩
  · rintro ⟨asked, complete, rfl⟩
    refine bind_eq_ok.mpr ⟨id, asked, ?_⟩
    exact bind_eq_ok.mpr ⟨_, cellsFor?_eq_ok_iff.mpr ⟨complete, rfl⟩, rfl⟩

/-- **What the insertion of an edge does.** -/
theorem insertEdge?_eq_ok_iff :
    t.insertEdge? row = .ok t' ↔
      (¬ Lacks row "source" ∧ ¬ Lacks row "target" ∧ ¬ Lacks row "relation") ∧
        t' = { t with edges := t.edges ++ [keptCells .edge row Column.edges] } := by
  have ends : (∀ c ∈ Column.edges, c.required = true → ¬ Lacks row c.name) ↔
      ¬ Lacks row "source" ∧ ¬ Lacks row "target" ∧ ¬ Lacks row "relation" := by
    simp [Column.edges]
  rw [insertEdge?, ← ends]
  constructor
  · intro inserted
    obtain ⟨cells, kept, inserted⟩ := bind_eq_ok.mp inserted
    obtain rfl := Except.ok.inj inserted
    obtain ⟨complete, rfl⟩ := cellsFor?_eq_ok_iff.mp kept
    exact ⟨complete, rfl⟩
  · rintro ⟨complete, rfl⟩
    exact bind_eq_ok.mpr ⟨_, cellsFor?_eq_ok_iff.mpr ⟨complete, rfl⟩, rfl⟩

end Tables

/-! ### Insertions in a row -/

/-- What is inserted. -/
inductive Insertion where
  | bookmark (row : Row)
  | edge (row : Row)
deriving DecidableEq

namespace Tables

variable {t t' : Tables} {row : Row} {id : Int}

/-- The tables after an insertion. -/
def insert? (t : Tables) : Insertion → Except StoreError Tables
  | .bookmark row => (t.insertBookmark? row).map Prod.snd
  | .edge row => t.insertEdge? row

/-- The insertions that succeed, and the tables after all of them. -/
def insertAll (t : Tables) : List Insertion → List Insertion × Tables
  | [] => ([], t)
  | i :: is =>
    match t.insert? i with
    | .ok t' => (i :: (t'.insertAll is).1, (t'.insertAll is).2)
    | .error _ => t.insertAll is

/-- Insertions that tables refuse: of a bookmark with an id that is taken or is no integer, or
without an address, and of an edge without an end or a relation. -/
inductive Refused (t : Tables) : Insertion → Prop where
  | duplicate {row : Row} {b : StoredBookmark} (mem : b ∈ t.bookmarks)
    (asked : idCell row = .integer b.id) : Refused t (.bookmark row)
  | noInteger {row : Row} (something : ¬ Lacks row "id")
    (other : ∀ n, idCell row ≠ .integer n) : Refused t (.bookmark row)
  | noUrl {row : Row} (lacks : Lacks row "url") : Refused t (.bookmark row)
  | noSource {row : Row} (lacks : Lacks row "source") : Refused t (.edge row)
  | noTarget {row : Row} (lacks : Lacks row "target") : Refused t (.edge row)
  | noRelation {row : Row} (lacks : Lacks row "relation") : Refused t (.edge row)

theorem idCell_eq_null_iff : idCell row = .null ↔ Lacks row "id" := by
  rw [idCell, Affinity.keep_eq_null_iff, Cell.prepare_eq_null_iff, Lacks]

/-- An insertion that is not refused succeeds. -/
theorem exists_insert?_iff {i : Insertion} : (∃ t', t.insert? i = .ok t') ↔ ¬ t.Refused i := by
  cases i with
  | bookmark row =>
    constructor
    · rintro ⟨t', inserted⟩ refused
      obtain ⟨⟨id, _⟩, inserted, -⟩ := map_eq_ok_iff.mp inserted
      obtain ⟨asked, url, -⟩ := insertBookmark?_eq_ok_iff.mp inserted
      rcases idFor?_eq_ok_iff.mp asked with ⟨none, -⟩ | ⟨integer, free⟩
      · cases refused with
        | duplicate _ asked => exact nomatch none.symm.trans asked
        | noInteger something _ => exact something (idCell_eq_null_iff.mp none)
        | noUrl lacks => exact url lacks
      · cases refused with
        | duplicate mem asked => exact free _ mem (Cell.integer.inj (asked.symm.trans integer))
        | noInteger _ other => exact other id integer
        | noUrl lacks => exact url lacks
    · intro accepted
      have url : ¬ Lacks row "url" := fun lacks => accepted (.noUrl lacks)
      obtain ⟨id, asked⟩ : ∃ id, t.idFor? row = .ok id := by
        by_cases something : Lacks row "id"
        · exact ⟨t.nextId, idFor?_eq_ok_iff.mpr (.inl ⟨idCell_eq_null_iff.mpr something, rfl⟩)⟩
        · by_cases integer : ∃ n, idCell row = .integer n
          · obtain ⟨n, integer⟩ := integer
            refine ⟨n, idFor?_eq_ok_iff.mpr (.inr ⟨integer, ?_⟩)⟩
            rintro b mem rfl
            exact accepted (.duplicate mem integer)
          · exact absurd (.noInteger something (not_exists.mp integer)) accepted
      exact ⟨_, map_eq_ok_iff.mpr ⟨_, insertBookmark?_eq_ok_iff.mpr ⟨asked, url, rfl⟩, rfl⟩⟩
  | edge row =>
    constructor
    · rintro ⟨t', inserted⟩ refused
      obtain ⟨⟨source, target, relation⟩, -⟩ := insertEdge?_eq_ok_iff.mp inserted
      cases refused with
      | noSource lacks => exact source lacks
      | noTarget lacks => exact target lacks
      | noRelation lacks => exact relation lacks
    · intro accepted
      have complete : ¬ Lacks row "source" ∧ ¬ Lacks row "target" ∧ ¬ Lacks row "relation" :=
        ⟨fun lacks => accepted (.noSource lacks), fun lacks => accepted (.noTarget lacks),
          fun lacks => accepted (.noRelation lacks)⟩
      exact ⟨_, insertEdge?_eq_ok_iff.mpr ⟨complete, rfl⟩⟩

/-- **An insertion fails exactly when it is refused.** -/
theorem refused_iff {i : Insertion} : (∃ e, t.insert? i = .error e) ↔ t.Refused i := by
  rw [← not_iff_not, ← exists_insert?_iff]
  cases t.insert? i <;> simp

/-- An insertion that fails leaves the tables as they are. -/
theorem insertAll_refused {is : List Insertion} {i : Insertion}
    (refused : (t.insertAll is).2.Refused i) : t.insertAll (is ++ [i]) = t.insertAll is := by
  induction is generalizing t with
  | nil =>
    obtain ⟨e, failed⟩ : ∃ e, t.insert? i = .error e := refused_iff.mpr refused
    simp only [List.nil_append, insertAll, failed]
  | cons first is ih =>
    rw [insertAll] at refused
    rw [List.cons_append, insertAll, insertAll]
    cases inserted : t.insert? first with
    | error e =>
      rw [inserted] at refused
      exact ih refused
    | ok t' =>
      rw [inserted] at refused
      simp only [ih refused]

/-! ### Records in the order of ids -/

theorem place_perm (b : StoredBookmark) (bookmarks : List StoredBookmark) :
    (place b bookmarks).Perm (b :: bookmarks) := by
  induction bookmarks with
  | nil => exact .refl _
  | cons c cs ih =>
    rw [place]
    split
    · exact .refl _
    · exact (ih.cons c).trans (.swap b c cs)

/-- Records are in the order of ids, each with an id of its own. -/
def Ordered (bookmarks : List StoredBookmark) : Prop :=
  bookmarks.Pairwise fun b c => b.id < c.id

theorem ordered_place {b : StoredBookmark} {bookmarks : List StoredBookmark}
    (ordered : Ordered bookmarks) (new : ∀ c ∈ bookmarks, c.id ≠ b.id) :
    Ordered (place b bookmarks) := by
  induction bookmarks with
  | nil => exact List.pairwise_singleton _ b
  | cons c cs ih =>
    obtain ⟨below, later⟩ := List.pairwise_cons.mp ordered
    obtain ⟨other, new⟩ := List.forall_mem_cons.mp new
    rw [place]
    split
    · next before =>
      refine List.pairwise_cons.mpr ⟨?_, ordered⟩
      intro d mem
      rcases List.mem_cons.mp mem with rfl | mem
      · exact before
      · exact Int.lt_trans before (below d mem)
    · next notBefore =>
      refine List.pairwise_cons.mpr ⟨?_, ih later new⟩
      intro d mem
      rcases mem_place.mp mem with rfl | mem
      · omega
      · exact below d mem

/-- The next id is new. -/
theorem lt_nextId (ordered : Ordered t.bookmarks) {b : StoredBookmark} (mem : b ∈ t.bookmarks) :
    b.id < t.nextId := by
  rw [nextId, greatestId?]
  cases last : t.bookmarks.getLast? with
  | none =>
    rw [List.getLast?_eq_none_iff.mp last] at mem
    exact nomatch mem
  | some c =>
    obtain ⟨front, split⟩ := List.getLast?_eq_some_iff.mp last
    have upTo : b.id ≤ c.id := by
      rw [Ordered, split, List.pairwise_append] at ordered
      rw [split, List.mem_append, List.mem_singleton] at mem
      rcases mem with mem | rfl
      · exact Int.le_of_lt (ordered.2.2 b mem c (List.mem_singleton.mpr rfl))
      · exact Int.le_refl _
    dsimp only [Option.map_some]
    omega

theorem new_of_idFor? (ordered : Ordered t.bookmarks) (asked : t.idFor? row = .ok id) :
    ∀ b ∈ t.bookmarks, b.id ≠ id := by
  rcases idFor?_eq_ok_iff.mp asked with ⟨-, rfl⟩ | ⟨-, free⟩
  · exact fun b mem => Int.ne_of_lt (lt_nextId ordered mem)
  · exact free

/-- A record is kept of a row: under the id that the row asks for, if it asks for one. -/
structure Keeps (b : StoredBookmark) (row : Row) : Prop where
  record : b = recordOf b.id row
  asked : ∀ n, idCell row = .integer n → b.id = n

/-- A row with an id is kept under it. -/
theorem Keeps.get?_id {b : StoredBookmark} (keeps : Keeps b row) (h : row.HasId) :
    Keyed.get? row "id" = some (.ofInt b.id) := by
  obtain ⟨n, cell, asked⟩ := idCell_of_hasId h
  rw [asked, keeps.asked n cell]

/-- Tables hold bookmarks: one record of each row, in the order of ids. -/
structure Holds (t : Tables) (rows : List Row) : Prop where
  ordered : Ordered t.bookmarks
  listed : ∃ listed, List.Forall₂ Keeps t.bookmarks listed ∧ listed.Perm rows

theorem holds_empty : Holds {} [] where
  ordered := List.Pairwise.nil
  listed := ⟨[], .nil, .refl _⟩

variable {rows : List Row}

/-- What holds of every row holds beside its record. -/
theorem Holds.listed_and (h : t.Holds rows) {holds : Row → Prop} (all : ∀ row ∈ rows, holds row) :
    ∃ listed, List.Forall₂ (fun b row => holds row ∧ Keeps b row) t.bookmarks listed ∧
      listed.Perm rows := by
  obtain ⟨listed, each, perm⟩ := h.listed
  refine ⟨listed, List.Forall₂.flip ?_, perm⟩
  exact (List.forall₂_and_left listed t.bookmarks).mpr
    ⟨fun row mem => all row (perm.mem_iff.mp mem), each.flip⟩

/-- Every record is kept of a row. -/
theorem Holds.exists_row (h : t.Holds rows) {b : StoredBookmark} (mem : b ∈ t.bookmarks) :
    ∃ row ∈ rows, Keeps b row := by
  obtain ⟨listed, each, perm⟩ := h.listed
  obtain ⟨length, each⟩ := List.forall₂_iff_get.mp each
  obtain ⟨i, hi, rfl⟩ := List.getElem_of_mem mem
  have hi' : i < listed.length := length ▸ hi
  exact ⟨listed[i], perm.mem_iff.mp (List.getElem_mem hi'), each i hi hi'⟩

/-- One more bookmark is held. -/
theorem Holds.insertBookmark? (h : t.Holds rows) (inserted : t.insertBookmark? row = .ok (id, t')) :
    t'.Holds (row :: rows) := by
  obtain ⟨asked, -, rfl⟩ := insertBookmark?_eq_ok_iff.mp inserted
  have keeps : Keeps (recordOf id row) row := by
    refine ⟨rfl, fun n integer => ?_⟩
    rcases idFor?_eq_ok_iff.mp asked with ⟨none, -⟩ | ⟨integer', -⟩
    · exact nomatch none.symm.trans integer
    · exact Cell.integer.inj (integer'.symm.trans integer)
  obtain ⟨listed, each, perm⟩ := h.listed
  obtain ⟨listed', each', perm'⟩ :=
    List.perm_comp_forall₂ (place_perm (recordOf id row) t.bookmarks) (.cons keeps each)
  exact ⟨ordered_place h.ordered (new_of_idFor? h.ordered asked),
    listed', each', perm'.trans (perm.cons row)⟩

/-- The rows of the bookmarks among insertions. -/
def bookmarkRows (is : List Insertion) : List Row :=
  is.filterMap fun
    | .bookmark row => some row
    | .edge _ => none

/-- **Tables hold the bookmarks that were inserted**, whatever failed in between. -/
theorem Holds.insertAll (h : t.Holds rows) (is : List Insertion) :
    (t.insertAll is).2.Holds (bookmarkRows (t.insertAll is).1 ++ rows) := by
  induction is generalizing t rows with
  | nil => exact h
  | cons i is ih =>
    rw [Tables.insertAll]
    cases inserted : t.insert? i with
    | error e => exact ih h
    | ok t' =>
      cases i with
      | bookmark row =>
        obtain ⟨⟨id, _⟩, made, rfl⟩ := map_eq_ok_iff.mp inserted
        have rest := ih (h.insertBookmark? made)
        refine ⟨rest.ordered, ?_⟩
        obtain ⟨listed, each, perm⟩ := rest.listed
        exact ⟨listed, each, perm.trans List.perm_middle⟩
      | edge row =>
        obtain ⟨-, rfl⟩ := insertEdge?_eq_ok_iff.mp inserted
        have same : Holds { t with edges := t.edges ++ [keptCells .edge row Column.edges] } rows :=
          ⟨h.ordered, h.listed⟩
        exact ih same

end Tables

end BookmarkViews
