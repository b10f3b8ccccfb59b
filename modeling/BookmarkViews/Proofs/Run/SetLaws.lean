import BookmarkViews.Pattern.Standard
import BookmarkViews.Proofs.Run.Composing
import BookmarkViews.Proofs.Run.IdentifiedRows
import BookmarkViews.Store.Memory

/-!
The laws of union and intersection.

A union of two answers has the first row of every key, those of the first answer in front;
an intersection has the rows of the first answer whose keys the second one has
(`QueryRows.union`, `QueryRows.intersect`). Absorption and the keys of a union are laws of
answers. `set_laws` is about executions: views over two others answer so whenever the two
can be executed and yield rows of one entity, also when the two are composed themselves.
-/

namespace BookmarkViews

open BookmarkViews.Composition (Identified composeIdentified dedup keepCommon)

/-! ### Two views -/

namespace QueryRows

variable {q : QueryRows} {key : String}

/-- The rows of an answer without those whose key has occurred before. -/
def distinct (q : QueryRows) : List Row :=
  q.rows.eraseDupsBy fun row other => q.key row == q.key other

theorem dedup_identified_eq (q : QueryRows) (seen : List String) :
    dedup seen q.identified =
      (q.distinct.filter fun row => q.key row ∉ seen).map fun row => (q.key row, row) :=
  Composition.dedup_identified q.key seen q.rows

theorem keys_distinct (q : QueryRows) : (dedup [] q.identified).map (·.1) = q.distinct.map q.key := by
  rw [dedup_identified_eq, List.map_map]
  simp [Function.comp_def]

theorem mem_keys_distinct : key ∈ q.distinct.map q.key ↔ key ∈ q.keys := by
  rw [← keys_distinct, Composition.mem_keys_dedup, keys_identified]
  simp

/-- The rows of a first answer and then those of a second one, the first row of every
key. -/
def union (q q' : QueryRows) : QueryRows :=
  { q with rows := q.distinct ++ q'.distinct.filter fun row => q'.key row ∉ q.keys }

/-- The rows of a first answer whose keys a second one has. -/
def intersect (q q' : QueryRows) : QueryRows :=
  { q with rows := q.rows.filter fun row => q.key row ∈ q'.keys }

/-- The keys of a union, each row keyed as in the answer that it comes from. -/
def unionKeys (q q' : QueryRows) : List String :=
  q.distinct.map q.key ++ (q'.distinct.filter fun row => q'.key row ∉ q.keys).map q'.key

theorem dedup_append_eq (q q' : QueryRows) :
    dedup [] (q.identified ++ q'.identified) =
      q.distinct.map (fun row => (q.key row, row)) ++
        (q'.distinct.filter fun row => q'.key row ∉ q.keys).map fun row => (q'.key row, row) := by
  rw [Composition.dedup_append, dedup_identified_eq, dedup_identified_eq, keys_identified,
    List.nil_append]
  simp

theorem unionKeys_eq (q q' : QueryRows) :
    unionKeys q q' = (dedup [] (q.identified ++ q'.identified)).map (·.1) := by
  rw [dedup_append_eq, List.map_append, List.map_map, List.map_map]
  rfl

/-- **A union has every key once.** -/
theorem nodup_unionKeys (q q' : QueryRows) : (unionKeys q q').Nodup := by
  rw [unionKeys_eq]
  exact Composition.nodup_keys_dedup [] _

theorem mem_unionKeys {q q' : QueryRows} : key ∈ unionKeys q q' ↔ key ∈ q.keys ∨ key ∈ q'.keys := by
  rw [unionKeys_eq, Composition.mem_keys_dedup, List.map_append, List.mem_append, keys_identified,
    keys_identified]
  simp

/-- A union has all keys of its first answer. -/
theorem mem_keys_union {q q' : QueryRows} (h : key ∈ q.keys) : key ∈ (q.union q').keys := by
  obtain ⟨row, mem, same⟩ := List.mem_map.mp (mem_keys_distinct.mpr h)
  exact List.mem_map.mpr ⟨row, List.mem_append_left _ mem, same⟩

/-- Where rows are told apart by the same columns, a union has the keys of both. -/
theorem keys_union {q q' : QueryRows} (entity : q.entity = q'.entity)
    (columns : q.groupColumns = q'.groupColumns) : (q.union q').keys = unionKeys q q' := by
  have same : q'.key = q.key := by
    funext row
    rw [QueryRows.key, QueryRows.key, entity, columns]
  rw [unionKeys, same, ← List.map_append, keys, union, same]
  rfl

/-- **Absorption**: what intersects with a union of itself stays as it is. -/
theorem intersect_union (q q' : QueryRows) : q.intersect (q.union q') = q := by
  have all : (q.rows.filter fun row => q.key row ∈ (q.union q').keys) = q.rows :=
    List.filter_eq_self.mpr fun row mem =>
      decide_eq_true (mem_keys_union (List.mem_map_of_mem mem))
  rw [intersect, all]

/-- **Absorption**: what is united with an intersection of itself loses repeated rows only. -/
theorem union_intersect (q q' : QueryRows) :
    q.union (q.intersect q') = { q with rows := q.distinct } := by
  have none : ((q.intersect q').distinct.filter fun row => (q.intersect q').key row ∉ q.keys) = [] := by
    refine List.filter_eq_nil_iff.mpr fun row mem => ?_
    have among : q.key row ∈ (q.intersect q').keys := mem_keys_distinct.mp (List.mem_map_of_mem mem)
    obtain ⟨row', mem', same⟩ := List.mem_map.mp among
    have there : q.key row ∈ q.keys :=
      List.mem_map.mpr ⟨row', (List.mem_filter.mp mem').1, same⟩
    exact not_not.mpr there ∘ of_decide_eq_true
  rw [union, none, List.append_nil]

end QueryRows

/-! ### Executions -/

namespace View.Composes

variable {v : View} {a b : String}

theorem composeIdentified_union (h : v.Composes [a, b] []) (rowsOf : String → List Identified) :
    composeIdentified rowsOf v = dedup [] (rowsOf a ++ rowsOf b) := by
  rw [h]
  simp [composeIdentified, Composition.base?]

theorem composeIdentified_intersect (h : v.Composes [] [a, b]) (rowsOf : String → List Identified) :
    composeIdentified rowsOf v = keepCommon (rowsOf a) (rowsOf b) := by
  rw [h]
  rfl

end View.Composes

section

variable [PatternEngine]

section

variable {ctx : RunContext} {r : Registry} {supplied : Params} {v : View} {a b : String}
  {q q' : QueryRows} (known : v ∈ r.views ∨ r.find? v.name = none)
  (answered : (executeNamed ctx r supplied a).result = .ok q)
  (answered' : (executeNamed ctx r supplied b).result = .ok q') (entity : q.entity = q'.entity)

include known answered answered' entity

/-- A view over two others of one entity is executed when they are. -/
theorem execute_pair {union intersect : List String} (h : v.Composes union intersect)
    (pair : v.mentions = [a, b]) :
    (execute ctx r supplied v).result =
      .ok ⟨q.entity,
        (composeIdentified (fun name => (answerNamed ctx r supplied name).identified) v).map (·.2),
        q.groupColumns⟩ := by
  have each : ∀ name ∈ v.mentions, ∃ q₀, (executeNamed ctx r supplied name).result = .ok q₀ ∧
      q₀.entity = q.entity := by
    intro name mem
    rw [pair, List.mem_pair] at mem
    rcases mem with rfl | rfl
    · exact ⟨q, answered, rfl⟩
    · exact ⟨q', answered', entity.symm⟩
  have head : v.mentions.head? = some a := by rw [pair, List.head?_cons]
  rw [execute_composing h known head each, answerNamed_of_ok answered]

/-- **The union of two views** has the first row of every key. -/
theorem execute_union (h : v.Composes [a, b] []) :
    (execute ctx r supplied v).result = .ok (q.union q') := by
  have pair : v.mentions = [a, b] := by
    rw [h]
    rfl
  rw [execute_pair known answered answered' entity h pair, h.composeIdentified_union,
    answerNamed_of_ok answered, answerNamed_of_ok answered', QueryRows.dedup_append_eq,
    List.map_append, List.map_map, List.map_map]
  simp [Function.comp_def, QueryRows.union]

/-- **The intersection of two views** has the rows of the first whose keys the second has. -/
theorem execute_intersect (h : v.Composes [] [a, b]) :
    (execute ctx r supplied v).result = .ok (q.intersect q') := by
  have pair : v.mentions = [a, b] := by
    rw [h]
    rfl
  rw [execute_pair known answered answered' entity h pair, h.composeIdentified_intersect,
    answerNamed_of_ok answered, answerNamed_of_ok answered', keepCommon, QueryRows.keys_identified,
    QueryRows.identified, List.filter_map, List.map_map]
  simp [Function.comp_def, QueryRows.intersect]

end

/-- The set laws of two answers `q` and `q'`, for the views `u` and `n` that unite and
intersect them, `i` that intersects the first with `u`, `w` that unites the first with
`n`, and `u'` that unites them in the other order. -/
structure SetLaws (ctx : RunContext) (r : Registry) (supplied : Params) (q q' : QueryRows)
    (u n i w u' : View) : Prop where
  /-- The kept rows of the first answer come first, then the new ones of the second. -/
  union : (execute ctx r supplied u).result =
    .ok { q with rows := q.distinct ++ q'.distinct.filter fun row => q'.key row ∉ q.keys }
  /-- Every key of the two answers is listed once. -/
  once : (QueryRows.unionKeys q q').Nodup
  keys : ∀ key, key ∈ QueryRows.unionKeys q q' ↔ key ∈ q.keys ∨ key ∈ q'.keys
  intersect : (execute ctx r supplied n).result =
    .ok { q with rows := q.rows.filter fun row => q.key row ∈ q'.keys }
  /-- An intersection with a union gives the first answer back. -/
  absorbed : (execute ctx r supplied i).result = .ok q
  /-- A union with an intersection gives it back without its repeated rows. -/
  reduced : (execute ctx r supplied w).result = .ok { q with rows := q.distinct }
  /-- Where both are told apart by the same columns, the order does not touch the keys. -/
  commutes : q.groupColumns = q'.groupColumns →
    ∃ united united', (execute ctx r supplied u).result = .ok united ∧
      (execute ctx r supplied u').result = .ok united' ∧
        ∀ key, key ∈ united.keys ↔ key ∈ united'.keys

/-- **Unions and intersections of views obey the set laws**, whenever both views can be
executed and yield rows of one entity. The union and the intersection are registered, as
others mention them; what is over them may also be a query of a name that is not
registered. -/
theorem set_laws {ctx : RunContext} {r : Registry} {supplied : Params} {a b : String}
    {q q' : QueryRows} (answered : (executeNamed ctx r supplied a).result = .ok q)
    (answered' : (executeNamed ctx r supplied b).result = .ok q') (entity : q.entity = q'.entity)
    {u n i w u' : View} (hu : u ∈ r.views) (hn : n ∈ r.views)
    (known : ∀ v ∈ [i, w, u'], v ∈ r.views ∨ r.find? v.name = none)
    (union : u.Composes [a, b] []) (intersection : n.Composes [] [a, b])
    (absorbing : i.Composes [] [a, u.name]) (reducing : w.Composes [a, n.name] [])
    (swapped : u'.Composes [b, a] []) : SetLaws ctx r supplied q q' u n i w u' := by
  simp only [List.forall_mem_cons] at known
  obtain ⟨hi, hw, hu', -⟩ := known
  have united := execute_union (.inl hu) answered answered' entity union
  have common := execute_intersect (.inl hn) answered answered' entity intersection
  have united' := execute_union hu' answered' answered entity.symm swapped
  have named : (executeNamed ctx r supplied u.name).result = .ok (q.union q') := by
    rw [executeNamed_of_mem hu, united]
  have named' : (executeNamed ctx r supplied n.name).result = .ok (q.intersect q') := by
    rw [executeNamed_of_mem hn, common]
  refine ⟨united, QueryRows.nodup_unionKeys q q', fun key => QueryRows.mem_unionKeys, common,
    ?_, ?_, fun columns => ⟨_, _, united, united', fun key => ?_⟩⟩
  · rw [execute_intersect hi answered named rfl absorbing, QueryRows.intersect_union]
  · rw [execute_union hw answered named' rfl reducing, QueryRows.union_intersect]
  · rw [QueryRows.keys_union entity columns, QueryRows.keys_union entity.symm columns.symm,
      QueryRows.mem_unionKeys, QueryRows.mem_unionKeys, or_comm]

/-- Two views that share a row, and the views of the laws over them. -/
def overlapping : Registry :=
  let views : List View := [{ name := "first", limit := some 2 }, { name := "second", offset := 1 },
    { name := "either", union := ["first", "second"] },
    { name := "both", intersect := ["first", "second"] },
    { name := "absorbed", intersect := ["first", "either"] },
    { name := "reduced", union := ["first", "both"] },
    { name := "swapped", union := ["second", "first"] }]
  ⟨views, by decide⟩

/-- Three records, two of them of one bookmark. -/
def repeatedRecords : RunContext :=
  let rows : List Row := [[("id", .ofInt 1)], [("id", .ofInt 1), ("stars", .ofInt 5)],
    [("id", .ofInt 2)]]
  { store := ({ bookmarks := rows } : MemoryRecords).store, now := ⟨0, 0⟩ }

end

open StandardPatterns

/-- The laws of the two views that share a row. -/
theorem set_laws_overlapping :
    let one : Row := [("id", .ofInt 1)]
    let again : Row := [("id", .ofInt 1), ("stars", .ofInt 5)]
    let two : Row := [("id", .ofInt 2)]
    let views := overlapping.views
    (executeNamed repeatedRecords overlapping [] "first").result = .ok ⟨.bookmark, [one, again], []⟩ ∧
      (executeNamed repeatedRecords overlapping [] "second").result =
        .ok ⟨.bookmark, [again, two], []⟩ ∧
      SetLaws repeatedRecords overlapping [] ⟨.bookmark, [one, again], []⟩
        ⟨.bookmark, [again, two], []⟩ views[2] views[3] views[4] views[5] views[6] := by
  intro one again two views
  have first : (executeNamed repeatedRecords overlapping [] "first").result =
      .ok ⟨.bookmark, [one, again], []⟩ := by cbv
  have second : (executeNamed repeatedRecords overlapping [] "second").result =
      .ok ⟨.bookmark, [again, two], []⟩ := by cbv
  refine ⟨first, second, set_laws first second rfl ?_ ?_ ?_ rfl rfl rfl rfl rfl⟩ <;> decide

end BookmarkViews
