import BookmarkViews.Proofs.Run.Outcome

/-!
The rows of a query by recursion through the views it mentions.

`rowsBy` asks for the rows of every mention when it comes to it, the source first, then
the union, then the intersection. What happens when a view is asked for is left open:
`plainRows` runs the view again at every mention, and never looks at what was run
before.

* `Composition.composeMentions_rowsIn`: composing what is asked for is composing from a
  table of rows;
* `Registry.InOrder.get?_eq`: a prepared view does not depend on what else is prepared;
* `Registry.InOrder.plainRows_eq`: the plain rows of a view are a run over the plain rows
  of the views it mentions;
* `Registry.InOrder.plainRows_eq_of_mem`: they do not depend on what else is prepared.
-/

namespace BookmarkViews

/-! ### Composing what is asked for -/

namespace Composition

/-- Rows with the identities that they have in a view. -/
def identify (views : PreparedViews) (name : String) (rows : List Row) : List Identified :=
  let entity := ((PreparedViews.shape? views name).map Shape.entity).getD .bookmark
  let columns := ((Keyed.get? views name).map PreparedView.groupColumns).getD []
  rows.map fun row => (Row.identity entity columns row, row)

/-- The rows that a table has for a view, none where it has no entry. -/
def rowsIn (table : RowTable) (name : String) : List Row :=
  (Keyed.get? table name).getD []

/-- The rows that a view composes from one list for each of its mentions. -/
def composeMentions (v : View) (lists : List (List Identified)) : List Identified :=
  let (source, members) := lists.splitAt v.source.toList.length
  let (union, intersect) := members.splitAt v.union.length
  let base :=
    if v.union.isEmpty then source.head? else some (dedup [] (source.flatten ++ union.flatten))
  match base, intersect with
  | some rows, members => members.foldl keepCommon rows
  | none, first :: members => members.foldl keepCommon first
  | none, [] => []

/-- One list for each mention composes as the lists of the names do. -/
theorem composeMentions_map (v : View) (rowsOf : String → List Identified) :
    composeMentions v (v.mentions.map rowsOf) = composeIdentified rowsOf v := by
  have source : v.mentions.map rowsOf =
      v.source.toList.map rowsOf ++ (v.union.map rowsOf ++ v.intersect.map rowsOf) := by
    rw [View.mentions, List.map_append, List.map_append, List.append_assoc]
  have first : ((v.source.toList.map rowsOf).head?) = v.source.map rowsOf := by
    cases v.source <;> rfl
  have all : (v.source.toList.map rowsOf).flatten = (v.source.map rowsOf).getD [] := by
    cases v.source <;> simp
  have split : ∀ (xs : List String) (ys : List (List Identified)),
      (xs.map rowsOf ++ ys).splitAt xs.length = (xs.map rowsOf, ys) := by
    intro xs ys
    rw [List.splitAt_eq, List.take_left' (List.length_map _), List.drop_left' (List.length_map _)]
  unfold composeMentions composeIdentified base?
  simp only [source, split, first, all, ← List.flatMap_def]
  generalize (if v.union.isEmpty then _ else _) = based
  cases based <;> cases v.intersect <;> rfl

variable {m : Type → Type} [Monad m]

/-- Ask for the rows of every mention, in order, and compose them. -/
def composeBy (views : PreparedViews) (rowsOf : String → m (List Row)) (v : View) :
    m (List Row) := do
  let lists ← v.mentions.mapM fun name => identify views name <$> rowsOf name
  return (composeMentions v lists).map (·.2)

/-- What is composed when the rows of every mention come from one table. -/
theorem composeMentions_rowsIn (views : PreparedViews) (table : RowTable) (v : View) :
    (composeMentions v
      (v.mentions.map fun name => identify views name (rowsIn table name))).map (·.2) =
        compose views table v := by
  rw [composeMentions_map]
  rfl

end Composition

/-! ### Rows by recursion -/

variable [PatternEngine]

namespace PreparedView

variable {m : Type → Type} [Monad m] [MonadExcept QueryError m]

/-- The rows of a view: those of the store, or what it composes of the rows asked for. -/
def runBy (p : PreparedView) (now : Instant) (views : PreparedViews) (stored : m (List Row))
    (rowsOf : String → m (List Row)) : m (List Row) :=
  if p.view.isComposed then do
    let rows ← Composition.composeBy views rowsOf p.view
    let finished := p.finish now (rows.filter (passesAll now p.shape.input p.filters))
    ofExcept (finished.mapError .failed)
  else stored

end PreparedView

section Recursion

variable {m : Type → Type} [Monad m] [MonadExcept QueryError m]

/-- The rows of a view among prepared ones, the latest first: the view runs over the rows
of the views before it. `stored` reads the store for a view, and `asked` is what becomes
of the rows of a view where it is mentioned. -/
def rowsBy (now : Instant) (views : PreparedViews) (stored : PreparedView → m (List Row))
    (asked : String → m (List Row) → m (List Row)) : PreparedViews → String → m (List Row)
  | [], name => throw (.run (.missingView name name))
  | (key, p) :: earlier, name =>
    if key = name then
      p.runBy now views (stored p) fun ref => asked ref (rowsBy now views stored asked earlier ref)
    else rowsBy now views stored asked earlier name

variable {now : Instant} {views : PreparedViews} {stored : PreparedView → m (List Row)}
  {asked : String → m (List Row) → m (List Row)}

/-- Views that come later and have other names do not matter. -/
theorem rowsBy_append {name : String} {later : PreparedViews} (other : name ∉ Keyed.keys later)
    (earlier : PreparedViews) :
    rowsBy now views stored asked (later ++ earlier) name =
      rowsBy now views stored asked earlier name := by
  induction later with
  | nil => rfl
  | cons entry later ih =>
    obtain ⟨key, p⟩ := entry
    simp only [Keyed.keys, List.map_cons, List.mem_cons, not_or] at other
    rw [List.cons_append, rowsBy, if_neg (Ne.symm other.1), ih other.2]

/-- A listed view runs over the rows of the views before it. -/
theorem rowsBy_cut {before after : PreparedViews} {name : String} {p : PreparedView}
    (other : name ∉ Keyed.keys after) :
    rowsBy now views stored asked (before ++ (name, p) :: after).reverse name =
      p.runBy now views (stored p) fun ref =>
        asked ref (rowsBy now views stored asked before.reverse ref) := by
  have other' : name ∉ Keyed.keys after.reverse := by
    rwa [Keyed.keys, List.map_reverse, List.mem_reverse]
  rw [List.reverse_append, List.reverse_cons, List.append_assoc, rowsBy_append other',
    List.singleton_append, rowsBy, if_pos rfl]

/-- The rows of a listed view are the same in a list that goes on behind it. -/
theorem rowsBy_upTo {before after : PreparedViews} {name : String}
    (other : name ∉ Keyed.keys after) :
    rowsBy now views stored asked (before ++ after).reverse name =
      rowsBy now views stored asked before.reverse name := by
  have other' : name ∉ Keyed.keys after.reverse := by
    rwa [Keyed.keys, List.map_reverse, List.mem_reverse]
  rw [List.reverse_append, rowsBy_append other']

end Recursion

/-! ### Rows without a memory -/

section Plain

variable (ctx : RunContext)

/-- What a view reads of the store. -/
def PreparedView.storedRows (p : PreparedView) : Except QueryError (List Row) :=
  ((p.runStored ctx).answer []).mapError .failed

/-- The rows of a view, run again with all it mentions wherever it is mentioned. -/
def plainRows (views : PreparedViews) : String → Except QueryError (List Row) :=
  rowsBy ctx.now views (·.storedRows ctx) (fun _ rows => rows) views.reverse

/-- The rows of a query, with every view run again wherever it is mentioned. -/
def plainRun (top : PreparedView) (views : PreparedViews) : Except QueryError (List Row) :=
  top.runBy ctx.now views (top.storedRows ctx) (plainRows ctx views)

end Plain

namespace Composition

variable {m : Type → Type} [Monad m] [LawfulMonad m] {views views' : PreparedViews}
  {f g : String → m (List Row)} {v : View}

omit [PatternEngine] in
/-- What is composed depends on the mentioned views and their rows only. -/
theorem composeBy_congr
    (h : ∀ name ∈ v.mentions, Keyed.get? views name = Keyed.get? views' name ∧ f name = g name) :
    composeBy views f v = composeBy views' g v := by
  have same : (v.mentions.mapM fun name => identify views name <$> f name) =
      v.mentions.mapM fun name => identify views' name <$> g name := by
    refine mapM_congr fun name mem => ?_
    obtain ⟨prepared, rows⟩ := h name mem
    have identity : identify views name = identify views' name := by
      unfold identify PreparedViews.shape?
      rw [prepared]
    rw [identity, rows]
  rw [composeBy, composeBy, same]

end Composition

/-- A run depends on the mentioned views and their rows only. -/
theorem PreparedView.runBy_congr {m : Type → Type} [Monad m] [LawfulMonad m]
    [MonadExcept QueryError m] {p : PreparedView} {now : Instant}
    {views views' : PreparedViews} {stored : m (List Row)}
    {f g : String → m (List Row)}
    (h : ∀ name ∈ p.view.mentions,
      Keyed.get? views name = Keyed.get? views' name ∧ f name = g name) :
    p.runBy now views stored f = p.runBy now views' stored g := by
  rw [runBy, runBy, Composition.composeBy_congr h]

/-! ### Any other views -/

/-- A view is prepared by itself from the views that it refers to only. -/
theorem View.prepareAlone_congr {v : View} {supplied : Params} {views views' : PreparedViews}
    (h : ∀ ref ∈ v.references, Keyed.get? views ref = Keyed.get? views' ref) :
    v.prepareAlone supplied views = v.prepareAlone supplied views' := by
  have shapes : Shape.resolve v views.shape? = Shape.resolve v views'.shape? := by
    refine Shape.resolve_congr fun ref mem => ?_
    rw [PreparedViews.shape?, PreparedViews.shape?, h ref mem]
  have columns (shape : Shape) : v.groupColumnsOf shape views = v.groupColumnsOf shape views' := by
    have first : v.references.head?.bind (Keyed.get? views) =
        v.references.head?.bind (Keyed.get? views') := by
      cases refs : v.references with
      | nil => rfl
      | cons ref rest => exact h ref (refs ▸ List.mem_cons_self)
    rw [groupColumnsOf, groupColumnsOf, first]
  simp only [prepareAlone, shapes, columns]

namespace Registry.InOrder

variable {r : Registry} {supplied : Params} {views views' : PreparedViews} {ctx : RunContext}

/-- A listed view comes after nothing of its name. -/
theorem notMem_after (h : r.InOrder supplied views) {before after : PreparedViews} {name : String}
    {p : PreparedView} (cut : views = before ++ (name, p) :: after) : name ∉ Keyed.keys after := by
  have once := h.nodup
  rw [cut, Keyed.keys, List.map_append, List.map_cons] at once
  exact (List.nodup_cons.mp (List.nodup_append.mp once).2.1).1

/-- **A listed view is the same in any two lists** that were prepared with the same
parameters. -/
theorem get?_eq (h : r.InOrder supplied views) (h' : r.InOrder supplied views') {name : String}
    (mem : name ∈ Keyed.keys views) (mem' : name ∈ Keyed.keys views') :
    Keyed.get? views name = Keyed.get? views' name := by
  induction h generalizing name with
  | nil => exact nomatch mem
  | @snoc before last p _ new found refs prepared ih =>
    rcases PreparedViews.mem_keys_append_single.mp mem with old | rfl
    · rw [Keyed.get?_append_of_mem old]
      exact ih old mem'
    obtain ⟨before', p', after', cut, _, new', found', refs', prepared'⟩ := h'.split_of_mem mem'
    have view : p'.view = p.view := Option.some_inj.mp (found'.symm.trans found)
    have agree : ∀ ref ∈ p.view.references, Keyed.get? before ref = Keyed.get? before' ref := by
      intro ref hr
      have listed' := refs' ref (view ▸ hr)
      rw [ih (refs ref hr) (cut ▸ Keyed.mem_keys_append.mpr (.inl listed')), cut,
        Keyed.get?_append_of_mem listed']
    have same : p = p' := by
      rw [view, ← View.prepareAlone_congr agree, prepared] at prepared'
      exact Except.ok.inj prepared'
    rw [cut, Keyed.get?_cut new', Keyed.get?_cut new, same]

/-- What holds of a listed view once it holds of all views listed before it, holds of all
listed views. -/
theorem forall_names (h : r.InOrder supplied views) {P : String → Prop}
    (step : ∀ before name p after, views = before ++ (name, p) :: after →
      (∀ ref ∈ p.view.references, P ref) → P name) : ∀ name ∈ Keyed.keys views, P name := by
  suffices upTo : ∀ before, r.InOrder supplied before → ∀ after, views = before ++ after →
      ∀ name ∈ Keyed.keys before, P name from upTo views h [] (List.append_nil _).symm
  intro before inOrder
  induction inOrder with
  | nil => exact fun _ _ _ mem => nomatch mem
  | @snoc before last p _ _ _ refs _ ih =>
    intro after cut name mem
    rw [List.append_assoc, List.singleton_append] at cut
    rcases PreparedViews.mem_keys_append_single.mp mem with old | rfl
    · exact ih _ cut name old
    · exact step before name p after cut fun ref hr => ih _ cut ref (refs ref hr)

/-- **The rows of a listed view** come about by running it over the rows of the views it
mentions. -/
theorem rowsBy_eq {m : Type → Type} [Monad m] [LawfulMonad m] [MonadExcept QueryError m]
    (h : r.InOrder supplied views) {before after : PreparedViews} {name : String} {p : PreparedView}
    (cut : views = before ++ (name, p) :: after) (now : Instant)
    (stored : PreparedView → m (List Row)) (asked : String → m (List Row) → m (List Row)) :
    rowsBy now views stored asked views.reverse name =
      p.runBy now views (stored p) fun ref =>
        asked ref (rowsBy now views stored asked views.reverse ref) := by
  obtain ⟨_, _, _, refs, _⟩ := h.split cut
  have reversed : views.reverse = (before ++ (name, p) :: after).reverse := congrArg _ cut
  rw [reversed, rowsBy_cut (h.notMem_after cut)]
  refine PreparedView.runBy_congr fun ref mention => ⟨rfl, ?_⟩
  have other : ref ∉ Keyed.keys ((name, p) :: after) := by
    have once := h.nodup
    rw [cut, Keyed.keys, List.map_append] at once
    exact fun mem => (List.nodup_append.mp once).2.2 ref (refs ref (View.mem_references.mpr mention))
      ref mem rfl
  exact congrArg _ (rowsBy_upTo other).symm

/-- The plain rows of a view are a run over the plain rows of the views it mentions. -/
theorem plainRows_eq (h : r.InOrder supplied views) {before after : PreparedViews} {name : String}
    {p : PreparedView} (cut : views = before ++ (name, p) :: after) :
    plainRows ctx views name =
      p.runBy ctx.now views (p.storedRows ctx) (plainRows ctx views) :=
  h.rowsBy_eq cut ctx.now _ _

/-- **The plain rows of a view do not depend on what else is prepared.** -/
theorem plainRows_eq_of_mem (h : r.InOrder supplied views) (h' : r.InOrder supplied views')
    {name : String} (mem : name ∈ Keyed.keys views) (mem' : name ∈ Keyed.keys views') :
    plainRows ctx views name = plainRows ctx views' name := by
  refine h.forall_names (P := fun name => name ∈ Keyed.keys views' →
    plainRows ctx views name = plainRows ctx views' name) ?_ name mem mem'
  intro before name p after cut ih mem'
  obtain ⟨_, new, _, refs, _⟩ := h.split cut
  obtain ⟨before', p', after', cut', _, new', _, refs', _⟩ := h'.split_of_mem mem'
  have same : p = p' := by
    have both := h.get?_eq h' (cut ▸ Keyed.mem_keys_append.mpr (.inr List.mem_cons_self)) mem'
    rw [cut, cut', Keyed.get?_cut new, Keyed.get?_cut new'] at both
    exact Option.some_inj.mp both
  subst same
  rw [h.plainRows_eq cut, h'.plainRows_eq cut']
  refine PreparedView.runBy_congr fun ref mention => ?_
  have hr := View.mem_references.mpr mention
  have inViews : ref ∈ Keyed.keys views := cut ▸ Keyed.mem_keys_append.mpr (.inl (refs ref hr))
  have inViews' : ref ∈ Keyed.keys views' :=
    cut' ▸ Keyed.mem_keys_append.mpr (.inl (refs' ref hr))
  exact ⟨h.get?_eq h' inViews inViews', ih ref hr inViews'⟩

end Registry.InOrder

end BookmarkViews
