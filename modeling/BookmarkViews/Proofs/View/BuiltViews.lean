import BookmarkViews.Pattern.Standard
import BookmarkViews.Proofs.Sequencing
import BookmarkViews.Proofs.View.SortTexts
import BookmarkViews.View.Builder
import BookmarkViews.View.Definition

/-!
Building a view and defining it in a document come to the same view.

`ViewText` is a view in texts, which can be given to a builder clause by clause and to a
document as one mapping. Both read the same contents (`ViewText.contents?`): a builder
remembers that a clause failed and goes on (`ViewBuilder.ready?`), a definition is sorted by
clause first (`Definition.ofEntries?_of_nodup`) and read after. Both put the contents into a
view and check it, and there they differ in one case: where the rows of bookmarks are named as
the source of statistics, a definition takes them for the rows to read, while a builder takes
them for the result and refuses (`View.built_as_defined`).
-/

namespace BookmarkViews

/-! ### Views in texts -/

/-- The clauses of a view as texts. -/
structure ViewText where
  source : Option String := none
  filters : List (String × String) := []
  exclude : List (String × String) := []
  having : List (String × String) := []
  sort : Option String := none
  limit : Option Nat := none
  offset : Option Nat := none
  groupBy : List String := []
  compute : List (String × String) := []

namespace ViewText

/-- The builder that is given the clauses one after another. -/
def builder [PatternEngine] (t : ViewText) (name : String) : ViewBuilder :=
  let b := ViewBuilder.named {} name
  let b := t.source.elim b b.source
  let b := t.filters.foldl (fun b e => b.filter e.1 e.2) b
  let b := t.exclude.foldl (fun b e => b.exclude e.1 e.2) b
  let b := t.having.foldl (fun b e => b.having e.1 e.2) b
  let b := t.sort.elim b b.sort
  let b := t.limit.elim b b.limit
  let b := t.offset.elim b b.offset
  let b := b.groupBy t.groupBy
  t.compute.foldl (fun b e => b.compute e.1 e.2) b

/-- Conditions as a list of mappings with one entry each. -/
def blocks (conditions : List (String × String)) : Node :=
  .sequence (conditions.map fun e => .mapping [(.text e.1, .text e.2)])

/-- A number of rows as a document value. -/
def count (n : Nat) : Node :=
  .number (.int n)

/-- A clause that may be left out. -/
def given (c : Clause) (content : Option Node) : List (Clause × Node) :=
  content.toList.map (Prod.mk c)

/-- The clauses with their contents as document values. -/
def entries (t : ViewText) : List (Clause × Node) :=
  given .source (t.source.map .text) ++ given .filter (some (blocks t.filters)) ++
    given .exclude (some (blocks t.exclude)) ++ given .having (some (blocks t.having)) ++
    given .sort (t.sort.map .text) ++ given .limit (t.limit.map count) ++
    given .offset (t.offset.map count) ++
    given .group (some (.sequence (t.groupBy.map .text))) ++
    given .compute (some (.mapping (t.compute.map fun e => (.text e.1, .text e.2))))

/-- The clauses as one mapping of a document. -/
def node (t : ViewText) : Node :=
  .mapping (t.entries.map fun e => (.text e.1.key, e.2))

/-- Texts that a document can hold: the source is not blank, numbers have 64 bits, and the
fields to group by are not blank and have no comma. -/
structure WellFormed (t : ViewText) : Prop where
  source : ∀ s ∈ t.source, Text.trim s.toList ≠ []
  limit : ∀ n ∈ t.limit, Decimal.fits64 n = true
  offset : ∀ n ∈ t.offset, Decimal.fits64 n = true
  groupBy : ∀ s ∈ t.groupBy, Text.trim s.toList ≠ [] ∧ ',' ∉ s.toList

/-- The entity that the source names. -/
def entity (t : ViewText) : Option Entity :=
  t.source.bind Entity.ofName?

/-- The view that the source names, if it names no entity. -/
def reference (t : ViewText) : Option String :=
  (t.source.filter fun s => (Entity.ofName? s).isNone).map Text.trimmed

/-- Whether the rows of bookmarks are named as the source of statistics. -/
def CountsBookmarks (t : ViewText) : Prop :=
  t.entity = some .bookmark ∧ (t.groupBy ≠ [] ∨ t.compute ≠ [])

/-! ### Contents -/

/-- The contents of the clauses that have to be read. -/
structure Contents where
  filters : List Requirement
  exclude : List Requirement
  having : List Requirement
  sort : List SortKey
  groupBy : List FieldPath
  compute : List Aggregate

def requirement? [PatternEngine] (e : String × String) : Option Requirement :=
  (ViewBuilder.requirement? e.1 (Draft.ofText? e.2)).toOption

def aggregate? (e : String × String) : Option Aggregate :=
  (Aggregate.read? e.2).toOption.map fun read => ⟨e.1, read.1, read.2⟩

def sortKeys? : Option String → Option (List SortKey)
  | none => some []
  | some s => (SortKey.readAll? s).toOption

/-- The contents, if all of them can be read. -/
def contents? [PatternEngine] (t : ViewText) : Option Contents := do
  let filters ← t.filters.mapM requirement?
  let exclude ← t.exclude.mapM requirement?
  let having ← t.having.mapM requirement?
  let sort ← sortKeys? t.sort
  let groupBy ← t.groupBy.mapM fun s => (FieldPath.read? s).toOption
  let compute ← t.compute.mapM aggregate?
  return { filters, exclude, having, sort, groupBy, compute }

/-- The view with the contents that were read. -/
def viewOf (t : ViewText) (name : String) (c : Contents) : View :=
  { name, entity := t.entity, source := t.reference, filters := c.filters, sort := c.sort
    limit := t.limit, offset := t.offset.getD 0, groupBy := c.groupBy, compute := c.compute
    having := c.having, exclude := c.exclude }

end ViewText

/-! ### Building -/

namespace ViewBuilder

variable {b : ViewBuilder} {α β : Type}

/-- The view under construction, unless a clause could not be read. -/
def ready? (b : ViewBuilder) : Option View :=
  match b.error with
  | none => some b.view
  | some _ => none

theorem toOption_build? [PatternEngine] :
    b.build?.toOption = b.ready?.bind fun v => v.checked?.toOption := by
  unfold build? ready?
  cases b.error <;> rfl

theorem ready?_change (b : ViewBuilder) (f : View → View) :
    (b.change f).ready? = b.ready?.map f := by
  unfold ready? change
  cases b.error <;> rfl

theorem ready?_fail (e : ViewError) : (b.fail e).ready? = none := by
  unfold ready? fail
  cases b.error <;> rfl

/-- A clause changes the view when it can be read, and is remembered as a fault when not. -/
theorem ready?_read {ε : Type} {b' : ViewBuilder} {x : Except ε α} {add : α → View → View}
    (read : ∀ a, x = .ok a → b' = b.change (add a))
    (fault : ∀ e, x = .error e → ∃ cause, b' = b.fail cause) :
    b'.ready? = b.ready?.bind fun v => x.toOption.map (add · v) := by
  cases x with
  | ok a =>
    rw [read a rfl, ready?_change]
    cases b.ready? <;> rfl
  | error e =>
    obtain ⟨cause, failed⟩ := fault e rfl
    rw [failed, ready?_fail]
    cases b.ready? <;> rfl

theorem ready?_require (b : ViewBuilder) (field : String) (draft : Except Malformed Draft)
    (add : Requirement → View → View) : (b.require field draft add).ready? =
      b.ready?.bind fun v => (requirement? field draft).toOption.map (add · v) := by
  apply ready?_read
  · intro r read
    rw [require, read]
  · intro m unread
    exact ⟨_, by rw [require, unread]⟩

theorem ready?_sort (b : ViewBuilder) (s : String) : (b.sort s).ready? =
    b.ready?.bind fun v => (SortKey.readAll? s).toOption.map fun keys =>
      { v with sort := v.sort ++ keys } := by
  apply @ready?_read b _ _ _ _ fun keys v => { v with sort := v.sort ++ keys }
  · intro keys read
    rw [sort, read]
  · intro fault unread
    exact ⟨_, by rw [sort, unread]⟩

theorem ready?_groupByOne (b : ViewBuilder) (s : String) : (b.groupByOne s).ready? =
    b.ready?.bind fun v => (FieldPath.read? s).toOption.map fun path =>
      { v with groupBy := v.groupBy ++ [path] } := by
  apply @ready?_read b _ _ _ _ fun path v => { v with groupBy := v.groupBy ++ [path] }
  · intro path read
    rw [groupByOne, read]
  · intro m unread
    exact ⟨_, by rw [groupByOne, unread]⟩

theorem ready?_compute (b : ViewBuilder) (name s : String) : (b.compute name s).ready? =
    b.ready?.bind fun v => (ViewText.aggregate? (name, s)).map fun a =>
      { v with compute := v.compute ++ [a] } := by
  simp only [ViewText.aggregate?, Option.map_map]
  apply @ready?_read b _ _ _ _ fun (read : AggregateFn × Option FieldPath) v =>
    { v with compute := v.compute ++ [⟨name, read.1, read.2⟩] }
  · intro read same
    rw [compute, same]
  · intro fault unread
    exact ⟨_, by rw [compute, unread]⟩

/-- Clauses added one by one are read one by one, and what they say is added at the end. -/
theorem ready?_foldl {op : ViewBuilder → α → ViewBuilder} {read : α → Option β}
    {add : List β → View → View}
    (one : ∀ b a, (op b a).ready? = b.ready?.bind fun v => (read a).map fun r => add [r] v)
    (none : ∀ v, add [] v = v) (cons : ∀ r rs v, add rs (add [r] v) = add (r :: rs) v)
    (items : List α) : (items.foldl op b).ready? =
      b.ready?.bind fun v => (items.mapM read).map fun rs => add rs v := by
  induction items generalizing b with
  | nil =>
    rw [List.foldl_nil, List.mapM_nil]
    cases b.ready? with
    | none => rfl
    | some v => exact congrArg some (none v).symm
  | cons a rest ih =>
    rw [List.foldl_cons, ih, one, List.mapM_cons]
    cases b.ready? with
    | none => rfl
    | some v =>
      cases read a with
      | none => rfl
      | some r => cases rest.mapM read <;> simp [cons]

theorem ready?_filters [PatternEngine] (es : List (String × String)) :
    (es.foldl (fun b e => b.filter e.1 e.2) b).ready? = b.ready?.bind fun v =>
      (es.mapM ViewText.requirement?).map fun rs => { v with filters := v.filters ++ rs } := by
  apply @ready?_foldl b _ _ _ _ (fun rs v => { v with filters := v.filters ++ rs })
  · exact fun b e => b.ready?_require e.1 (Draft.ofText? e.2) _
  · simp
  · simp

theorem ready?_excludes [PatternEngine] (es : List (String × String)) :
    (es.foldl (fun b e => b.exclude e.1 e.2) b).ready? = b.ready?.bind fun v =>
      (es.mapM ViewText.requirement?).map fun rs => { v with exclude := v.exclude ++ rs } := by
  apply @ready?_foldl b _ _ _ _ (fun rs v => { v with exclude := v.exclude ++ rs })
  · exact fun b e => b.ready?_require e.1 (Draft.ofText? e.2) _
  · simp
  · simp

theorem ready?_havings [PatternEngine] (es : List (String × String)) :
    (es.foldl (fun b e => b.having e.1 e.2) b).ready? = b.ready?.bind fun v =>
      (es.mapM ViewText.requirement?).map fun rs => { v with having := v.having ++ rs } := by
  apply @ready?_foldl b _ _ _ _ (fun rs v => { v with having := v.having ++ rs })
  · exact fun b e => b.ready?_require e.1 (Draft.ofText? e.2) _
  · simp
  · simp

theorem ready?_groupBy (fields : List String) : (b.groupBy fields).ready? = b.ready?.bind fun v =>
    (fields.mapM fun s => (FieldPath.read? s).toOption).map fun paths =>
      { v with groupBy := v.groupBy ++ paths } := by
  apply @ready?_foldl b _ _ _ _ (fun paths v => { v with groupBy := v.groupBy ++ paths })
  · exact fun b s => b.ready?_groupByOne s
  · simp
  · simp

theorem ready?_computes (es : List (String × String)) :
    (es.foldl (fun b e => b.compute e.1 e.2) b).ready? = b.ready?.bind fun v =>
      (es.mapM ViewText.aggregate?).map fun as => { v with compute := v.compute ++ as } := by
  apply @ready?_foldl b _ _ _ _ (fun as v => { v with compute := v.compute ++ as })
  · exact fun b e => b.ready?_compute e.1 e.2
  · simp
  · simp

theorem ready?_sorted (text : Option String) : (text.elim b b.sort).ready? =
    b.ready?.bind fun v => (ViewText.sortKeys? text).map fun keys =>
      { v with sort := v.sort ++ keys } := by
  cases text with
  | none =>
    change b.ready? = _
    cases b.ready? <;> simp [ViewText.sortKeys?]
  | some s => exact b.ready?_sort s

theorem ready?_limit (n : Option Nat) :
    (n.elim b b.limit).ready? = b.ready?.map fun v => { v with limit := n.or v.limit } := by
  cases n with
  | none =>
    change b.ready? = _
    cases b.ready? <;> rfl
  | some n =>
    rw [Option.elim_some, limit, ready?_change]
    rfl

theorem ready?_offset (n : Option Nat) :
    (n.elim b b.offset).ready? = b.ready?.map fun v => { v with offset := n.getD v.offset } := by
  cases n with
  | none =>
    change b.ready? = _
    cases b.ready? <;> rfl
  | some n =>
    rw [Option.elim_some, offset, ready?_change]
    rfl

end ViewBuilder

namespace ViewText

variable (t : ViewText) (name : String)

/-- A named builder takes an entity or a view as its source. -/
theorem ready?_source :
    (t.source.elim (ViewBuilder.named {} name) (ViewBuilder.named {} name).source).ready? =
      some { name, entity := t.entity, source := t.reference } := by
  unfold entity reference
  cases t.source with
  | none => rfl
  | some s =>
    rw [Option.elim_some, ViewBuilder.source]
    cases named : Entity.ofName? s with
    | none =>
      rw [ViewBuilder.ready?_change, Option.filter_some, Option.bind_some, named,
        Option.isNone_none, if_pos rfl]
      rfl
    | some e =>
      rw [Option.filter_some, Option.bind_some, named, Option.isNone_some, if_neg (by decide)]
      rfl

/-- **A builder that is given texts** holds what they say, if all of it can be read. -/
theorem ready?_builder [PatternEngine] : (t.builder name).ready? = t.contents?.map (t.viewOf name) := by
  unfold builder contents?
  simp only [ViewBuilder.ready?_computes, ViewBuilder.ready?_groupBy, ViewBuilder.ready?_offset,
    ViewBuilder.ready?_limit, ViewBuilder.ready?_sorted, ViewBuilder.ready?_havings,
    ViewBuilder.ready?_excludes, ViewBuilder.ready?_filters, ready?_source]
  cases t.filters.mapM requirement? with
  | none => rfl
  | some filters =>
  cases t.exclude.mapM requirement? with
  | none => rfl
  | some exclude =>
  cases t.having.mapM requirement? with
  | none => rfl
  | some having =>
  cases sortKeys? t.sort with
  | none => rfl
  | some sort =>
  cases t.groupBy.mapM fun s => (FieldPath.read? s).toOption with
  | none => rfl
  | some groupBy =>
  cases t.compute.mapM aggregate? with
  | none => rfl
  | some compute => simp [viewOf]

end ViewText

/-! ### Defining -/

namespace Definition

theorem clause?_key (c : Clause) : clause? (.text c.key) = .ok c := by
  cases c <;> rfl

/-- Entries of different clauses are sorted one after another. -/
theorem ofEntries?_of_nodup {d : Definition} {seen : List Clause} {entries : List (Clause × Node)}
    (nodup : (entries.map Prod.fst).Nodup) (fresh : ∀ c ∈ entries.map Prod.fst, c ∉ seen) :
    ofEntries? d seen (entries.map fun e => (.text e.1.key, e.2)) =
      entries.foldlM (fun d e => d.set? e.2 e.1) d := by
  induction entries generalizing d seen with
  | nil => rfl
  | cons e rest ih =>
    obtain ⟨first, later⟩ := List.forall_mem_cons.mp fresh
    obtain ⟨notMem, distinct⟩ := List.nodup_cons.mp nodup
    have unseen : seen.contains e.1 = false := by simpa using first
    rw [List.map_cons, ofEntries?, clause?_key, List.foldlM_cons]
    simp only [bind, Except.bind, unseen, Bool.false_eq_true, if_false]
    cases d.set? e.2 e.1 with
    | error fault => rfl
    | ok d =>
      refine ih distinct fun c mem old => ?_
      rcases List.mem_cons.mp old with rfl | old
      · exact notMem mem
      · exact later c mem old

/-- The clauses whose contents are read only after all clauses are sorted. -/
theorem set?_content {c : Clause} (later : c ∉ [.description, .entity, .source, .limit, .offset])
    {n : Node} (given : n ≠ .null) (d : Definition) :
    d.set? n c = .ok { d with contents := d.contents ++ [(c, n)] } := by
  cases c
  case description | entity | source | limit | offset => simp at later
  all_goals exact if_neg given

end Definition

namespace ViewText

variable {d : Definition}

/-- Add clauses to a definition. -/
def addAll (d : Definition) (entries : List (Clause × Node)) : Except DefinitionFault Definition :=
  entries.foldlM (fun d e => d.set? e.2 e.1) d

theorem addAll_append (entries more : List (Clause × Node)) :
    addAll d (entries ++ more) = addAll d entries >>= fun d => addAll d more :=
  List.foldlM_append

theorem addAll_source (s : Option String) :
    addAll d (given .source (s.map .text)) = .ok { d with source := s.or d.source } := by
  cases s <;> rfl

theorem int?_count {n : Nat} (fits : Decimal.fits64 n = true) :
    Definition.int? (count n) = .ok (some ↑n) := by
  simp [Definition.int?, count, Node.untagged, fits]

theorem addAll_limit {n : Option Nat} (fits : ∀ m ∈ n, Decimal.fits64 m = true) :
    addAll d (given .limit (n.map count)) =
      .ok { d with limit := (n.map Nat.cast).or d.limit } := by
  cases n with
  | none => rfl
  | some n =>
    simp only [addAll, given, Option.map_some, Option.toList_some, List.map_cons, List.map_nil,
      List.foldlM_cons, List.foldlM_nil, Definition.set?, int?_count (fits n rfl)]
    rfl

theorem addAll_offset {n : Option Nat} (fits : ∀ m ∈ n, Decimal.fits64 m = true) :
    addAll d (given .offset (n.map count)) =
      .ok { d with offset := (n.map Nat.cast).or d.offset } := by
  cases n with
  | none => rfl
  | some n =>
    simp only [addAll, given, Option.map_some, Option.toList_some, List.map_cons, List.map_nil,
      List.foldlM_cons, List.foldlM_nil, Definition.set?, int?_count (fits n rfl)]
    rfl

theorem addAll_content {c : Clause} (later : c ∉ [.description, .entity, .source, .limit, .offset])
    {content : Option Node} (filled : content ≠ some .null) :
    addAll d (given c content) = .ok { d with contents := d.contents ++ given c content } := by
  cases content with
  | none => simp [addAll, given, pure, Except.pure]
  | some n =>
    have filled : n ≠ .null := fun null => filled (congrArg some null)
    simp only [addAll, given, Option.toList_some, List.map_cons, List.map_nil, List.foldlM_cons,
      List.foldlM_nil, Definition.set?_content later filled]
    rfl

variable (t : ViewText) (name : String)

/-- The clauses whose contents are document values. -/
def contents (t : ViewText) : List (Clause × Node) :=
  given .filter (some (blocks t.filters)) ++ given .exclude (some (blocks t.exclude)) ++
    given .having (some (blocks t.having)) ++ given .sort (t.sort.map .text) ++
    given .group (some (.sequence (t.groupBy.map .text))) ++
    given .compute (some (.mapping (t.compute.map fun e => (.text e.1, .text e.2))))

/-- The clauses after sorting. -/
def definition (t : ViewText) : Definition where
  source := t.source
  limit := t.limit.map Nat.cast
  offset := t.offset.map Nat.cast
  contents := t.contents

theorem nodup_entries : (t.entries.map Prod.fst).Nodup := by
  have one (c : Clause) (content : Option Node) :
      ((given c content).map Prod.fst).Sublist [c] := by
    cases content <;> simp [given]
  have all : (t.entries.map Prod.fst).Sublist ([.source] ++ [.filter] ++ [.exclude] ++ [.having] ++
      [.sort] ++ [.limit] ++ [.offset] ++ [.group] ++ [.compute]) := by
    simp only [entries, List.map_append]
    repeat' apply List.Sublist.append
    all_goals apply one
  exact all.nodup (by decide)

/-- **The mapping of a view in texts** has its clauses sorted without loss. -/
theorem ofNode?_node (formed : t.WellFormed) : Definition.ofNode? t.node = .ok t.definition := by
  have text (s : Option String) : s.map Node.text ≠ some .null := by
    cases s <;> simp
  change Definition.ofEntries? {} [] _ = _
  rw [Definition.ofEntries?_of_nodup t.nodup_entries fun _ _ => List.not_mem_nil]
  change addAll {} t.entries = _
  simp only [entries, addAll_append, addAll_source, addAll_limit formed.limit,
    addAll_offset formed.offset, addAll_content, text, blocks, ne_eq, Option.some.injEq,
    reduceCtorEq, not_false_eq_true, List.mem_cons, List.not_mem_nil, or_self, bind, Except.bind]
  simp [definition, contents, blocks]

theorem get?_given (c k : Clause) (content : Option Node) :
    Keyed.get? (given k content) c = if c = k then content else none := by
  cases content with
  | none => simp [given]
  | some n => simp [given, Keyed.get?_cons]

theorem content?_definition (c : Clause) : t.definition.content? c =
    match c with
    | .filter => some (blocks t.filters)
    | .exclude => some (blocks t.exclude)
    | .having => some (blocks t.having)
    | .sort => t.sort.map .text
    | .group => some (.sequence (t.groupBy.map .text))
    | .compute => some (.mapping (t.compute.map fun e => (.text e.1, .text e.2)))
    | _ => none := by
  unfold Definition.content? definition contents
  simp only [Keyed.get?_append, get?_given]
  cases c <;> simp

/-! ### Reading the contents of a definition -/

theorem blocks?_blocks (view key : String) (conditions : List (String × String)) :
    View.blocks? view key (blocks conditions) =
      .ok (conditions.map fun e => [(.text e.1, .text e.2)]) := by
  refine mapM_eq_ok_iff.mpr ?_
  rw [List.forall₂_map_left_iff, List.forall₂_map_right_iff]
  exact List.forall₂_same.mpr fun _ _ => rfl

theorem toOption_requirement? [PatternEngine] (view : String) (e : String × String) :
    (View.requirement? view (.text e.1, .text e.2)).toOption = requirement? e :=
  toOption_mapError _ _

/-- A list of mappings with one entry each is read entry by entry. -/
theorem toOption_requirements? [PatternEngine] (view key : String)
    (conditions : List (String × String)) :
    (View.requirements? view key (some (blocks conditions))).toOption =
      conditions.mapM requirement? := by
  have entries : (conditions.map fun e => [(Node.text e.1, Node.text e.2)]).flatten =
      conditions.map fun e => (.text e.1, .text e.2) := by
    rw [← List.flatMap_def, ← List.map_eq_flatMap]
  simp only [View.requirements?, blocks?_blocks, bind, Except.bind, entries]
  rw [List.mapM_map, toOption_mapM]
  exact mapM_congr fun e _ => toOption_requirement? view e

theorem toOption_sort? (view : String) (text : Option String) :
    (View.sort? view (text.map .text)).toOption = sortKeys? text := by
  cases text with
  | none => rfl
  | some s =>
    have texts : View.texts? view "sort" (.text s) = .ok [Text.trimmed s] := rfl
    have read : (View.sortKeys? view (Text.trimmed s)).toOption =
        (SortKey.readAll? s).toOption := by
      rw [View.sortKeys?, toOption_mapError, SortKey.readAll?_trimmed]
    rw [Option.map_some, View.sort?, texts, sortKeys?, ← read]
    cases keys : View.sortKeys? view (Text.trimmed s) <;>
      simp [keys, bind, Except.bind, Except.toOption, pure, Except.pure]

/-- A text without commas is the only part of itself. -/
theorem commaParts_trimmed {s : String} (filled : Text.trim s.toList ≠ [])
    (noComma : ',' ∉ s.toList) : View.commaParts (Text.trimmed s) = [Text.trimmed s] := by
  have noComma : ',' ∉ Text.trim s.toList := fun mem =>
    noComma ((Text.trim_sublist s.toList).subset mem)
  rw [View.commaParts, ParamType.commaItems, Text.trimmed, String.toList_ofList,
    List.splitOn_eq_singleton noComma, List.map_singleton, Text.trim_trim]
  simp [filled]

theorem toOption_groupBy? (view : String) {fields : List String}
    (formed : ∀ s ∈ fields, Text.trim s.toList ≠ [] ∧ ',' ∉ s.toList) :
    (View.groupBy? view (some (.sequence (fields.map .text)))).toOption =
      fields.mapM fun s => (FieldPath.read? s).toOption := by
  have texts : View.texts? view "group" (.sequence (fields.map .text)) =
      .ok (fields.map Text.trimmed) := by
    refine mapM_eq_ok_iff.mpr ?_
    rw [List.forall₂_map_left_iff, List.forall₂_map_right_iff]
    exact List.forall₂_same.mpr fun _ _ => rfl
  have parts : (fields.map Text.trimmed).flatMap View.commaParts = fields.map Text.trimmed := by
    rw [List.flatMap_map, List.map_eq_flatMap]
    exact List.flatMap_congr fun s mem => commaParts_trimmed (formed s mem).1 (formed s mem).2
  simp only [View.groupBy?, texts, bind, Except.bind, parts]
  rw [List.mapM_map, toOption_mapM]
  refine mapM_congr fun s _ => ?_
  rw [Function.comp_apply, toOption_mapError, FieldPath.read?_trimmed]

theorem toOption_compute? (view : String) (computes : List (String × String)) :
    (View.compute? view (some (.mapping (computes.map fun e => (.text e.1, .text e.2))))).toOption =
      computes.mapM aggregate? := by
  simp only [View.compute?]
  rw [List.mapM_map, toOption_mapM]
  refine mapM_congr fun e _ => ?_
  have named : View.namedAggregate? view (.text e.1, .text e.2) =
      View.aggregate? view (some e.1) e.2 := rfl
  rw [Function.comp_apply, named, View.aggregate?, toOption_bind, toOption_mapError, aggregate?]
  cases (Aggregate.read? e.2).toOption <;> rfl

theorem mapM_count? (view key : String) (n : Option Nat) :
    (n.map Nat.cast).mapM (View.count? view key) = .ok n := by
  cases n with
  | none => rfl
  | some n =>
    have fits : View.count? view key n = .ok n := by
      rw [View.count?, if_neg (by omega), Int.toNat_natCast]
    simp [fits]

/-- What the source of a definition names, and whether it is an entity. -/
theorem source?_definition (formed : t.WellFormed) (view : String) :
    View.source? view t.definition none = .ok (t.entity, t.reference, t.entity.isSome) := by
  unfold View.source? entity reference definition
  cases source : t.source with
  | none => rfl
  | some s =>
    cases named : Entity.ofName? s with
    | some e => simp [named, Option.filter_some]
    | none =>
      have filled : Text.trimmed s ≠ "" := by
        intro empty
        apply formed.source s source
        rw [← @String.toList_ofList (Text.trim s.toList), ← Text.trimmed, empty]
        rfl
      simp [named, filled, Option.filter_some]

/-- **A definition of texts** has the contents that a builder has, read in another order. Its
entity is settled before the view is checked. -/
theorem toOption_ofNode? [PatternEngine] (formed : t.WellFormed) : (View.ofNode? name t.node).toOption =
    t.contents?.bind fun c =>
      ((t.viewOf name c).settleEntity t.entity.isSome).checked?.toOption := by
  have noText : View.entity? name t.definition.entity = .ok none := rfl
  have limit : t.definition.limit.mapM (View.count? name "limit") = .ok t.limit := mapM_count? _ _ _
  have offset : t.definition.offset.mapM (View.count? name "offset") = .ok t.offset :=
    mapM_count? _ _ _
  have noViews (key : String) : View.references? name key none = .ok [] := rfl
  have noParams : View.params? name none = .ok [] := rfl
  rw [View.ofNode?, ofNode?_node t formed]
  change (View.ofDefinition? name t.definition).toOption = _
  simp only [View.ofDefinition?, toOption_bind, content?_definition, noText, limit, offset,
    noViews, noParams, toOption_ok, Option.bind_some, source?_definition t formed,
    toOption_requirements?, toOption_sort?, toOption_groupBy? name formed.groupBy,
    toOption_compute?, contents?]
  cases t.filters.mapM requirement? with
  | none => rfl
  | some filters =>
  cases t.exclude.mapM requirement? with
  | none => cases t.having.mapM requirement? <;> rfl
  | some exclude =>
  cases t.having.mapM requirement? with
  | none => rfl
  | some having =>
  cases sortKeys? t.sort with
  | none => rfl
  | some sort =>
  cases t.groupBy.mapM fun s => (FieldPath.read? s).toOption with
  | none => rfl
  | some groupBy => cases t.compute.mapM aggregate? <;> rfl

/-! ### Building and defining -/

theorem isAggregate_viewOf [PatternEngine] {c : Contents} (read : t.contents? = some c) :
    (t.viewOf name c).isAggregate = true ↔ t.groupBy ≠ [] ∨ t.compute ≠ [] := by
  unfold contents? at read
  obtain ⟨filters, -, read⟩ := Option.bind_eq_some_iff.mp read
  obtain ⟨exclude, -, read⟩ := Option.bind_eq_some_iff.mp read
  obtain ⟨having, -, read⟩ := Option.bind_eq_some_iff.mp read
  obtain ⟨sort, -, read⟩ := Option.bind_eq_some_iff.mp read
  obtain ⟨groupBy, groups, read⟩ := Option.bind_eq_some_iff.mp read
  obtain ⟨compute, computes, read⟩ := Option.bind_eq_some_iff.mp read
  obtain rfl := Option.some.inj read
  simp [View.isAggregate, viewOf, eq_nil_iff_of_mapM groups, eq_nil_iff_of_mapM computes]

/-- The source of an entity names no view. -/
theorem viewOf_unnamed {e : Entity} (named : t.entity = some e) (c : Contents) :
    { t with source := none }.viewOf name c = { t.viewOf name c with entity := none } := by
  obtain ⟨s, source, named⟩ := Option.bind_eq_some_iff.mp named
  simp [viewOf, entity, reference, source, named, Option.filter_some]

/-- Statistics whose result is said to be bookmarks do not pass. -/
theorem not_checked [PatternEngine] {v : View} (bookmarks : v.entity = some .bookmark)
    (aggregates : v.isAggregate = true) : v.checked?.toOption = none := by
  simp [View.checked?, View.check, View.checkEntity, bookmarks, aggregates, bind, Except.bind,
    Except.map, Except.toOption]

end ViewText

/-- **Building and defining agree**, but for statistics on bookmarks. Given the same clauses, a
builder and a definition both fail or come to the same view, unless the rows of bookmarks are
named as the source of a view that groups or computes: a builder refuses such a view, a
definition takes it as if no source was named. -/
theorem View.built_as_defined [PatternEngine] (t : ViewText) (name : String) (formed : t.WellFormed) :
    (¬ t.CountsBookmarks →
      (t.builder name).build?.toOption = (View.ofNode? name t.node).toOption) ∧
    (t.CountsBookmarks → (t.builder name).build?.toOption = none ∧
      (View.ofNode? name t.node).toOption =
        ({ t with source := none }.builder name).build?.toOption) := by
  simp only [ViewBuilder.toOption_build?, ViewText.ready?_builder,
    ViewText.toOption_ofNode? t name formed, Option.bind_map]
  constructor
  · intro fine
    refine Option.bind_congr fun c read => ?_
    have same : (t.viewOf name c).settleEntity t.entity.isSome = t.viewOf name c := by
      rw [View.settleEntity, if_neg]
      intro settled
      simp only [Bool.and_eq_true, decide_eq_true_eq] at settled
      exact fine ⟨settled.1.2, (t.isAggregate_viewOf name read).mp settled.2⟩
    rw [same]
    rfl
  · rintro ⟨bookmarks, counts⟩
    constructor
    · refine Option.bind_eq_none_iff.mpr fun c read => ?_
      exact ViewText.not_checked bookmarks ((t.isAggregate_viewOf name read).mpr counts)
    · have reads : { t with source := none }.contents? = t.contents? := rfl
      rw [reads]
      refine Option.bind_congr fun c read => ?_
      have aggregates := (t.isAggregate_viewOf name read).mpr counts
      have settled : (t.viewOf name c).settleEntity t.entity.isSome =
          { t.viewOf name c with entity := none } := by
        rw [View.settleEntity, if_pos]
        have bookmark : (t.viewOf name c).entity = some .bookmark := bookmarks
        simp [bookmark, aggregates, bookmarks]
      rw [settled, ← t.viewOf_unnamed name bookmarks]
      rfl

/-- The sites of bookmarks, counted. -/
def ViewText.sites : ViewText where
  source := some "bookmarks"
  groupBy := ["domain"]

/-- A view of another view with a clause of every kind. -/
def ViewText.busiest : ViewText where
  source := some " recent "
  filters := [("stars", ">= 3"), ("tags", "any [rust, lean]")]
  exclude := [("domain", "starts_with \"example.\"")]
  having := [("total", "> 10")]
  sort := some " total desc nulls first, domain "
  limit := some 10
  offset := some 2
  groupBy := ["domain", " content.kind "]
  compute := [("total", "sum(stars)"), ("n", "count()")]

theorem ViewText.wellFormed_sites : sites.WellFormed := by
  constructor <;> decide

theorem ViewText.wellFormed_busiest : busiest.WellFormed := by
  constructor <;> decide

open StandardPatterns

/-- A view with all clauses is built as it is defined, and statistics on bookmarks are not. -/
theorem View.built_as_defined_busiest :
    ViewText.busiest.WellFormed ∧ ViewText.busiest.entity = none ∧
    (ViewText.busiest.builder "busiest").build?.toOption.isSome = true ∧
    (ViewText.busiest.builder "busiest").build?.toOption =
      (View.ofNode? "busiest" ViewText.busiest.node).toOption ∧
    ViewText.sites.WellFormed ∧ ViewText.sites.CountsBookmarks ∧
    (ViewText.sites.builder "sites").build?.toOption = none := by
  have unnamed : ViewText.busiest.entity = none := by decide
  have counts : ViewText.sites.CountsBookmarks := ⟨by decide, by decide⟩
  refine ⟨ViewText.wellFormed_busiest, unnamed, by decide +kernel, ?_, ViewText.wellFormed_sites,
    counts, ?_⟩
  · refine (View.built_as_defined _ "busiest" ViewText.wellFormed_busiest).1 fun counts => ?_
    rw [ViewText.CountsBookmarks, unnamed] at counts
    exact nomatch counts.1
  · exact ((View.built_as_defined _ "sites" ViewText.wellFormed_sites).2 counts).1

/-- Statistics on bookmarks are refused by a builder and taken by a definition. -/
theorem View.refused_but_defined :
    ViewText.sites.WellFormed ∧
    (ViewText.sites.builder "sites").build? =
      .error (.definition "sites" (.groupNeedsStats .bookmark)) ∧
    View.ofNode? "sites" ViewText.sites.node =
      .ok { name := "sites", groupBy := [⟨"domain", []⟩] } :=
  ⟨ViewText.wellFormed_sites, rfl, rfl⟩

end BookmarkViews
