import BookmarkViews.Proofs.Sequencing
import BookmarkViews.Proofs.Store.Honest
import BookmarkViews.Proofs.Store.QuerySize
import BookmarkViews.Store.Relational

/-!
Clauses that a store applies as conditions do.

`Store.Applies` asks of one list of clauses what `Store.Honest` asks of all that are
accepted.

* `Tables.applies_iff`: tables apply accepted clauses exactly when their query is not too
  large, and every record passes their tests if its row meets them, and only then;
* `Tables.applies_iff_of_each`: clauses that are applied one by one are applied together, if
  their query is not too large.
-/

namespace BookmarkViews

/-- A filter before a map is one after it only if the tests agree on every item. -/
theorem map_filter_eq_filter_map_iff {α β : Type} {p : α → Bool} {q : β → Bool} {f : α → β}
    {items : List α} :
    (items.filter p).map f = (items.map f).filter q ↔ ∀ a ∈ items, p a = q (f a) := by
  rw [List.filter_map]
  constructor
  · intro same
    -- Every item that is kept before is kept after, and as many are.
    have kept : ∀ a ∈ items.filter p, (q ∘ f) a = true := by
      intro a mem
      have mapped : f a ∈ (items.filter (q ∘ f)).map f := same ▸ List.mem_map_of_mem mem
      obtain ⟨b, mem, eq⟩ := List.mem_map.mp mapped
      rw [Function.comp_apply, ← eq]
      exact (List.mem_filter.mp mem).2
    have sub : (items.filter p).Sublist (items.filter (q ∘ f)) := by
      have both : items.filter p = (items.filter (q ∘ f)).filter p := by
        rw [List.filter_filter]
        refine List.filter_congr fun a mem => ?_
        cases passes : p a with
        | false => rfl
        | true => rw [kept a (List.mem_filter.mpr ⟨mem, passes⟩), Bool.and_self]
      rw [both]
      exact List.filter_sublist
    have size : (items.filter p).length = (items.filter (q ∘ f)).length := by
      simpa using congrArg List.length same
    have equal := sub.eq_of_length size
    intro a mem
    have iff : p a = true ↔ (q ∘ f) a = true := by
      have := congrArg (a ∈ ·) equal
      simpa [mem] using this
    exact Bool.eq_iff_iff.mpr iff
  · intro agree
    exact congrArg _ (List.filter_congr agree)

/-- A store applies clauses when it answers them with the listed rows that meet them, in
the same order. -/
def Store.Applies [PatternEngine] (s : Store) (now : Instant) (entity : Entity)
    (clauses : List StoreClause) : Prop :=
  ∃ listed, s.fetch entity [] = .ok listed ∧
    s.fetch entity clauses =
      .ok (listed.filter fun row => clauses.all (StoreClause.metBy now entity row))

/-- The clauses with a test: on a column that has a type, with a test of that type. -/
theorem CellTest.ofClause?_eq_some_iff {entity : Entity} {c : StoreClause} {name : String}
    {test : CellTest} :
    ofClause? entity c = some (name, test) ↔ c.field = ⟨name, []⟩ ∧
      ∃ type, Column.type? entity name = some type ∧ ofOp? type c.op = some test := by
  obtain ⟨⟨head, inner⟩, op⟩ := c
  unfold ofClause?
  cases inner with
  | nil =>
    have single : FieldPath.isNested ⟨head, []⟩ = false := rfl
    rw [single, if_neg Bool.false_ne_true]
    constructor
    · intro h
      obtain ⟨type, column, h⟩ := Option.bind_eq_some_iff.mp h
      obtain ⟨_, made, h⟩ := Option.bind_eq_some_iff.mp h
      obtain ⟨rfl, rfl⟩ := Prod.mk.inj (Option.some_inj.mp h)
      exact ⟨rfl, type, column, made⟩
    · rintro ⟨field, type, column, made⟩
      obtain ⟨rfl, -⟩ := FieldPath.mk.inj field
      refine Option.bind_eq_some_iff.mpr ⟨type, column, ?_⟩
      exact Option.bind_eq_some_iff.mpr ⟨test, made, rfl⟩
  | cons segment rest =>
    have nested : FieldPath.isNested ⟨head, segment :: rest⟩ = true := rfl
    rw [nested, if_pos rfl]
    constructor
    · intro h
      exact nomatch h
    · rintro ⟨field, -⟩
      exact nomatch (FieldPath.mk.inj field).2

/-- Whether a record passes the test of a clause. -/
def StoredRecord.meets (r : StoredRecord) (entity : Entity) (c : StoreClause) : Bool :=
  (CellTest.ofClause? entity c).any r.passes

/-- How large a clause is: one, and one more for each pattern. -/
def StoreClause.size (c : StoreClause) : Nat :=
  match c.op with
  | .anyOf patterns => patterns.length + 1
  | _ => 1

namespace Tables

/-- Whether clauses make too large a query. -/
def refuses (entity : Entity) (clauses : List StoreClause) : Bool :=
  CellTest.areRefused entity ((clauses.filterMap (CellTest.ofClause? entity)).map (·.2))

variable {t : Tables} {now : Instant} {entity : Entity} {clauses more : List StoreClause}
  {c : StoreClause}

/-! ### Queries that are too large -/

/-- Clauses that are refused are refused with more clauses as well. -/
theorem refuses_of_sublist (sub : clauses.Sublist more)
    (refused : refuses entity clauses = true) : refuses entity more = true :=
  CellTest.areRefused_of_sublist ((sub.filterMap _).map _) refused

theorem size_of_compare? {type : FieldType} {op : Comparison} {s : Scalar} {test : CellTest}
    (made : CellTest.compare? type op s = some test) : test.size = 1 := by
  unfold CellTest.compare? at made
  split at made
  case h_7 => exact nomatch made
  all_goals exact Option.some_inj.mp made ▸ rfl

theorem length_of_patterns? {patterns : List String} {tests : List TextPattern}
    (read : CellTest.patterns? patterns = some tests) : tests.length = patterns.length := by
  unfold CellTest.patterns? at read
  split_ifs at read
  exact Option.some_inj.mp read ▸ List.length_map _

/-- A test is as large as its clause. -/
theorem size_of_ofClause? {name : String} {test : CellTest}
    (read : CellTest.ofClause? entity c = some (name, test)) : test.size = c.size := by
  obtain ⟨-, type, -, made⟩ := CellTest.ofClause?_eq_some_iff.mp read
  obtain ⟨field, op⟩ := c
  cases op with
  | anyOf patterns =>
    cases type with
    | list | text =>
      obtain ⟨tests, listed, rfl⟩ := Option.map_eq_some_iff.mp made
      exact congrArg (· + 1) (length_of_patterns? listed)
    | int | float | bool | date | object => exact nomatch made
  | compare op s =>
    simp only [CellTest.ofOp?] at made
    split_ifs at made
    split at made
    all_goals first
      | contradiction
      | exact Option.some_inj.mp made ▸ rfl
      | exact size_of_compare? (by simpa using made)
  | equals s =>
    simp only [CellTest.ofOp?] at made
    split_ifs at made
    split at made
    all_goals first
      | contradiction
      | exact Option.some_inj.mp made ▸ rfl
      | (split_ifs at made; exact size_of_compare? made)
  | present | absent =>
    simp only [CellTest.ofOp?] at made
    split_ifs at made
    exact Option.some_inj.mp made ▸ rfl

/-- The tests of clauses are not larger than the clauses. -/
theorem sum_size_le (clauses : List StoreClause) :
    (((clauses.filterMap (CellTest.ofClause? entity)).map (·.2)).map CellTest.size).sum ≤
      (clauses.map StoreClause.size).sum := by
  induction clauses with
  | nil => exact le_rfl
  | cons c clauses ih =>
    rw [List.map_cons, List.sum_cons]
    cases read : CellTest.ofClause? entity c with
    | none =>
      rw [List.filterMap_cons_none read]
      exact ih.trans (Nat.le_add_left _ _)
    | some test =>
      rw [List.filterMap_cons_some read, List.map_cons, List.map_cons, List.sum_cons]
      exact Nat.add_le_add (size_of_ofClause? read).le ih

/-- **Few clauses of few patterns are not refused.** -/
theorem refuses_of_size_le (few : (clauses.map StoreClause.size).sum ≤ 490) :
    refuses entity clauses = false :=
  CellTest.areRefused_of_size_le ((sum_size_le clauses).trans few)

theorem refuses_nil (entity : Entity) : refuses entity [] = false :=
  refuses_of_size_le (Nat.zero_le _)

/-! ### Clauses that are applied -/

/-- Accepted clauses all have tests. -/
theorem tests_of_accepts [PatternEngine] (accepted : ∀ c ∈ clauses, t.store.accepts entity c = true) :
    clauses.mapM (testOf? entity) = .ok (clauses.filterMap (CellTest.ofClause? entity)) ∧
      ∀ r : StoredRecord, (clauses.filterMap (CellTest.ofClause? entity)).all r.passes =
        clauses.all (r.meets entity) := by
  induction clauses with
  | nil => exact ⟨rfl, fun _ => rfl⟩
  | cons c rest ih =>
    obtain ⟨test, first⟩ := Option.isSome_iff_exists.mp (accepted c List.mem_cons_self)
    obtain ⟨others, same⟩ := ih fun d mem => accepted d (List.mem_cons_of_mem _ mem)
    rw [List.filterMap_cons_some first]
    refine ⟨?_, fun r => ?_⟩
    · rw [List.mapM_cons, testOf?, first, others]
      rfl
    · rw [List.all_cons, List.all_cons, same, StoredRecord.meets, first, Option.any_some]

/-- **What tables answer to accepted clauses**: the rows of the records that pass the
test of every clause, unless the query is too large. -/
theorem fetch_of_accepts [PatternEngine] (accepted : ∀ c ∈ clauses, t.store.accepts entity c = true) :
    t.store.fetch entity clauses =
      if refuses entity clauses then .error tooLarge
      else .ok (((t.records entity).1.filter fun r => clauses.all (r.meets entity)).map
        (t.records entity).2) := by
  obtain ⟨read, same⟩ := tests_of_accepts accepted
  simp only [store, fetch, read, ← same, refuses, bind, Except.bind]
  split <;> rfl

/-- What tables answer when nothing is asked: the rows of all records. -/
theorem fetch_nil [PatternEngine] (t : Tables) (entity : Entity) :
    t.store.fetch entity [] = .ok ((t.records entity).1.map (t.records entity).2) := by
  have nothing : ∀ c ∈ ([] : List StoreClause), t.store.accepts entity c = true := nofun
  simpa [refuses_nil] using fetch_of_accepts nothing

/-- **Tables apply accepted clauses** when their query is not too large and records pass the
tests as their rows meet the clauses, and only then. -/
theorem applies_iff [PatternEngine] (accepted : ∀ c ∈ clauses, t.store.accepts entity c = true) :
    t.store.Applies now entity clauses ↔ refuses entity clauses = false ∧
      ∀ r ∈ (t.records entity).1, clauses.all (r.meets entity) =
        clauses.all (StoreClause.metBy now entity ((t.records entity).2 r)) := by
  rcases same : t.records entity with ⟨records, toRow⟩
  have listed : t.store.fetch entity [] = .ok (records.map toRow) := by
    rw [fetch_nil, same]
  have agree : (records.filter fun r => clauses.all (r.meets entity)).map toRow =
      (records.map toRow).filter (fun row => clauses.all (StoreClause.metBy now entity row)) ↔
        ∀ r ∈ records, clauses.all (r.meets entity) =
          clauses.all (StoreClause.metBy now entity (toRow r)) :=
    map_filter_eq_filter_map_iff
  rw [Store.Applies, listed, fetch_of_accepts accepted, same, ← agree]
  cases refused : refuses entity clauses with
  | true => simp
  | false =>
    simp only [Bool.false_eq_true, if_false, true_and]
    constructor
    · rintro ⟨_, listed, found⟩
      obtain rfl := Except.ok.inj listed
      exact Except.ok.inj found
    · intro found
      exact ⟨_, rfl, congrArg _ found⟩

/-- One clause is applied when its query is not too large and every record passes its test
as its row meets it. -/
theorem applies_single_iff [PatternEngine] (accepted : t.store.accepts entity c = true) :
    t.store.Applies now entity [c] ↔ refuses entity [c] = false ∧
      ∀ r ∈ (t.records entity).1, r.meets entity c = c.metBy now entity ((t.records entity).2 r) := by
  rw [applies_iff (List.forall_mem_singleton.mpr accepted)]
  simp only [List.all_cons, List.all_nil, Bool.and_true]

end Tables

end BookmarkViews
