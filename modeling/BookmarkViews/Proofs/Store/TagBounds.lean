import BookmarkViews.Proofs.Store.DerivedTags
import BookmarkViews.Proofs.Time.TextOrder

/-!
The dates of derived tags as bounds in time.

A tag is first used at the least text of the dates of its bookmarks, and last used at the
greatest. These are its first and its last instant where the order of texts is that of instants,
as it is for dates that are all written in one form (`Tags.uses_bounded`). Not all dates are
(`Tags.first_use_after_another`).
-/

namespace BookmarkViews

theorem Value.text?_eq_some_iff {v : Value} {s : String} : v.text? = some s ↔ v = .text s := by
  cases v <;> simp [text?]

/-- A text can be read as a date. -/
def Readable (s : String) : Prop :=
  ∃ x, readInstant? s = some x

/-- The order of these texts is that of the instants they denote. -/
def InTimeOrder (written : String → Prop) : Prop :=
  ∀ s t x y, written s → written t → readInstant? s = some x → readInstant? t = some y →
    Text.order s t = .lt → x.atMost y = true

/-- **Dates that are written in one form are in order.** -/
theorem inTimeOrder_writes (form : DateForm) : InTimeOrder form.Writes := by
  intro s t x y writes writes' read read' lt
  rw [form.order_eq writes writes' read read'] at lt
  rw [Instant.atMost, lt]
  rfl

namespace Tags

variable {bookmarks : List Row} {written : String → Prop} {name s : String}

/-! ### Bounds in time -/

/-- The dates of bookmarks are texts of some kind. -/
def CreatedIn (written : String → Prop) (bookmarks : List Row) : Prop :=
  ∀ bookmark ∈ bookmarks, ∀ v, Keyed.get? bookmark "created_at" = some v →
    ∃ s, v = .text s ∧ written s

/-- A bookmark lists a tag. -/
def Carries (bookmark : Row) (name : String) : Prop :=
  ∃ items, Keyed.get? bookmark "tags" = some (.list items) ∧ .text name ∈ items

/-- The first use that the row of a tag says is no later than an instant, and the last use no
earlier. -/
structure Bounds (tag : Row) (x : Instant) : Prop where
  first : ∃ s y, Keyed.get? tag "first_used" = some (.text s) ∧ readInstant? s = some y ∧
    y.atMost x = true
  last : ∃ s y, Keyed.get? tag "last_used" = some (.text s) ∧ readInstant? s = some y ∧
    x.atMost y = true

/-- Every derived tag bounds the instants of the bookmarks that list it. -/
def Chronological (bookmarks : List Row) : Prop :=
  ∀ tag ∈ derive bookmarks, ∀ bookmark ∈ bookmarks, Carries bookmark (nameOf tag) →
    ∀ s x, Keyed.get? bookmark "created_at" = some (.text s) → readInstant? s = some x →
      Bounds tag x

/-! ### Dates of uses -/

theorem mem_usesOf {bookmark : Row} {use : String × Option String} :
    use ∈ usesOf bookmark ↔ Carries bookmark use.1 ∧
      (Keyed.get? bookmark "created_at").bind Value.text? = use.2 := by
  obtain ⟨tag, date⟩ := use
  unfold usesOf Carries
  split
  · next items found =>
    have listed : tag ∈ items.filterMap Value.text? ↔ .text tag ∈ items := by
      simp only [List.mem_filterMap, Value.text?_eq_some_iff, exists_eq_right]
    simp only [found, Option.some_inj, Value.list.injEq, exists_eq_left', ← listed, List.mem_map,
      Prod.mk.injEq]
    constructor
    · rintro ⟨tag, mem, rfl, rfl⟩
      exact ⟨mem, rfl⟩
    · rintro ⟨mem, rfl⟩
      exact ⟨tag, mem, rfl, rfl⟩
  · next none =>
    refine iff_of_false List.not_mem_nil ?_
    rintro ⟨⟨items, found, -⟩, -⟩
    exact none items found

/-- The dates of a tag are those of the bookmarks that list it. -/
theorem mem_datesOf_iff :
    s ∈ datesOf (bookmarks.flatMap usesOf) name ↔
      ∃ bookmark ∈ bookmarks, Carries bookmark name ∧
        Keyed.get? bookmark "created_at" = some (.text s) := by
  simp only [mem_datesOf, List.mem_flatMap, mem_usesOf, Option.bind_eq_some_iff,
    Value.text?_eq_some_iff, exists_eq_right]

theorem CreatedIn.mono {written' : String → Prop} (h : CreatedIn written bookmarks)
    (sub : ∀ s, written s → written' s) : CreatedIn written' bookmarks := by
  intro bookmark mem v found
  obtain ⟨s, text, writes⟩ := h bookmark mem v found
  exact ⟨s, text, sub s writes⟩

theorem CreatedIn.of_mem_datesOf (h : CreatedIn written bookmarks)
    (use : s ∈ datesOf (bookmarks.flatMap usesOf) name) : written s := by
  obtain ⟨bookmark, mem, -, found⟩ := mem_datesOf_iff.mp use
  obtain ⟨_, same, writes⟩ := h bookmark mem _ found
  obtain rfl := Value.text.inj same
  exact writes

/-- There is one row for each name that is listed. -/
theorem mem_derive {tag : Row} :
    tag ∈ derive bookmarks ↔ ∃ name, (∃ bookmark ∈ bookmarks, Carries bookmark name) ∧
      rowOfUses (bookmarks.flatMap usesOf) name = tag := by
  have listed (name : String) : name ∈ (bookmarks.flatMap usesOf).map Prod.fst ↔
      ∃ bookmark ∈ bookmarks, Carries bookmark name := by
    simp only [List.mem_map, List.mem_flatMap, mem_usesOf]
    constructor
    · rintro ⟨_, ⟨bookmark, mem, carries, -⟩, rfl⟩
      exact ⟨bookmark, mem, carries⟩
    · rintro ⟨bookmark, mem, carries⟩
      exact ⟨(name, _), ⟨bookmark, mem, carries, rfl⟩, rfl⟩
  simp only [derive, List.mem_map, List.mem_eraseDups, ← listed]

theorem get?_first_used (uses : List (String × Option String)) (name : String) :
    Keyed.get? (rowOfUses uses name) "first_used" = some (.ofText? (least? (datesOf uses name))) :=
  rfl

theorem get?_last_used (uses : List (String × Option String)) (name : String) :
    Keyed.get? (rowOfUses uses name) "last_used" =
      some (.ofText? (greatest? (datesOf uses name))) :=
  rfl

/-- Among some dates, the one whose text is least is not after any other, and the one whose text
is greatest not before. -/
def EndsInOrder (dates : List String) : Prop :=
  ∀ s ∈ dates, ∀ t ∈ dates, ∀ x y, readInstant? s = some x → readInstant? t = some y →
    least? dates = some s ∨ greatest? dates = some t → x.atMost y = true

/-- Tags bound their uses where the dates of each tag end in order. -/
theorem chronological_of_endsInOrder (created : CreatedIn Readable bookmarks)
    (ends : ∀ name, EndsInOrder (datesOf (bookmarks.flatMap usesOf) name)) :
    Chronological bookmarks := by
  intro tag derived bookmark mem carries s x found read
  obtain ⟨name, -, rfl⟩ := mem_derive.mp derived
  rw [nameOf_rowOfUses] at carries
  have use : s ∈ datesOf (bookmarks.flatMap usesOf) name :=
    mem_datesOf_iff.mpr ⟨bookmark, mem, carries, found⟩
  constructor
  · obtain ⟨first, least⟩ := exists_least? use
    have listed := (least?_eq_some_iff.mp least).1
    obtain ⟨y, read'⟩ := created.of_mem_datesOf listed
    refine ⟨first, y, ?_, read', ends name first listed s use y x read' read (.inl least)⟩
    rw [get?_first_used, least, Value.ofText?]
  · obtain ⟨last, greatest⟩ := exists_greatest? use
    have listed := (greatest?_eq_some_iff.mp greatest).1
    obtain ⟨y, read'⟩ := created.of_mem_datesOf listed
    refine ⟨last, y, ?_, read', ends name s use last listed x y read read' (.inr greatest)⟩
    rw [get?_last_used, greatest, Value.ofText?]

/-- Where tags bound their uses, the dates of each tag end in order. -/
theorem endsInOrder_of_chronological (chronological : Chronological bookmarks) (name : String) :
    EndsInOrder (datesOf (bookmarks.flatMap usesOf) name) := by
  intro s use t use' x y read read' extreme
  obtain ⟨bookmark, mem, carries, found⟩ := mem_datesOf_iff.mp use
  obtain ⟨other, mem', carries', found'⟩ := mem_datesOf_iff.mp use'
  have derived := mem_derive.mpr ⟨name, ⟨bookmark, mem, carries⟩, rfl⟩
  rcases extreme with least | greatest
  · obtain ⟨⟨first, z, shown, readFirst, le⟩, -⟩ :=
      chronological _ derived other mem' carries' t y found' read'
    rw [get?_first_used, least, Value.ofText?, Option.some_inj] at shown
    obtain rfl := Value.text.inj shown
    obtain rfl := Option.some_inj.mp (read.symm.trans readFirst)
    exact le
  · obtain ⟨-, last, z, shown, readLast, le⟩ :=
      chronological _ derived bookmark mem carries s x found read
    rw [get?_last_used, greatest, Value.ofText?, Option.some_inj] at shown
    obtain rfl := Value.text.inj shown
    obtain rfl := Option.some_inj.mp (read'.symm.trans readLast)
    exact le

/-! ### Kinds of texts -/

/-- Dates of a kind that is in order end in order. -/
theorem endsInOrder_of_inTimeOrder (inOrder : InTimeOrder written) {dates : List String}
    (writes : ∀ s ∈ dates, written s) : EndsInOrder dates := by
  intro s use t use' x y read read' extreme
  have le : (Text.order s t).isLE = true := by
    rcases extreme with least | greatest
    · exact (least?_eq_some_iff.mp least).2 t use'
    · exact (greatest?_eq_some_iff.mp greatest).2 s use
  rcases Ordering.isLE_iff_eq_lt_or_eq_eq.mp le with lt | eq
  · exact inOrder s t x y (writes s use) (writes t use') read read' lt
  · obtain rfl := Text.order_eq_eq_iff.mp eq
    obtain rfl := Option.some_inj.mp (read.symm.trans read')
    exact Instant.atMost_iff.mpr (.inr ⟨rfl, le_rfl⟩)

/-- Tags bound their uses where the order of texts is that of instants. -/
theorem chronological_of_inTimeOrder (readable : ∀ s, written s → Readable s)
    (inOrder : InTimeOrder written) (created : CreatedIn written bookmarks) :
    Chronological bookmarks := by
  refine chronological_of_endsInOrder (created.mono readable) fun name => ?_
  exact endsInOrder_of_inTimeOrder inOrder fun s use => created.of_mem_datesOf use

/-- Two dates of a kind end in order when they are those of two bookmarks with one tag. -/
theorem inTimeOrder_of_chronological
    (chronological : ∀ bookmarks, CreatedIn written bookmarks → Chronological bookmarks) :
    InTimeOrder written := by
  intro s t x y ws wt read read' lt
  let dated (s : String) : Row := [("tags", .list [.text ""]), ("created_at", .text s)]
  have created : CreatedIn written [dated s, dated t] := by
    refine List.forall_mem_cons.mpr ⟨?_, List.forall_mem_singleton.mpr ?_⟩
    · rintro v found
      exact ⟨s, (Option.some_inj.mp found).symm, ws⟩
    · rintro v found
      exact ⟨t, (Option.some_inj.mp found).symm, wt⟩
  have dates : datesOf ([dated s, dated t].flatMap usesOf) "" = [s, t] := rfl
  have ends := endsInOrder_of_chronological (chronological _ created) ""
  rw [dates] at ends
  refine ends s (by simp) t (by simp) x y read read' (.inl (least?_eq_some_iff.mpr ?_))
  refine ⟨by simp, List.forall_mem_cons.mpr ⟨isLE_refl s, List.forall_mem_singleton.mpr ?_⟩⟩
  rw [lt]
  rfl

/-- **When the dates of a tag bound its uses**: for bookmarks whose dates can be read, exactly
when no date of a tag is before the one whose text is least, or after the one whose text is
greatest. For all bookmarks with dates of a kind this is so exactly when the order of these texts
is that of the instants, and it is so for dates that are written in one form. -/
theorem uses_bounded (created : CreatedIn Readable bookmarks) :
    (Chronological bookmarks ↔
      ∀ name, EndsInOrder (datesOf (bookmarks.flatMap usesOf) name)) ∧
    (∀ written : String → Prop, (∀ s, written s → Readable s) →
      ((∀ bookmarks, CreatedIn written bookmarks → Chronological bookmarks) ↔
        InTimeOrder written)) ∧
    ∀ form : DateForm, CreatedIn form.Writes bookmarks → Chronological bookmarks := by
  refine ⟨?_, ?_, ?_⟩
  · exact ⟨endsInOrder_of_chronological, chronological_of_endsInOrder created⟩
  · intro written readable
    exact ⟨inTimeOrder_of_chronological,
      fun inOrder _ => chronological_of_inTimeOrder readable inOrder⟩
  · intro form
    exact chronological_of_inTimeOrder (fun _ writes => writes.exists_instant)
      (inTimeOrder_writes form)

/-- Two days, the later one first. -/
theorem uses_bounded_days :
    let bookmarks : List Row :=
      [[("tags", .list [.text "rust"]), ("created_at", .text "2024-01-02")],
        [("tags", .list [.text "rust"]), ("created_at", .text "2023-12-31")]]
    CreatedIn DateForm.date.Writes bookmarks ∧ Chronological bookmarks ∧
      EndsInOrder ["2024-01-02", "2023-12-31"] ∧ InTimeOrder DateForm.date.Writes := by
  have later : DateForm.date.Writes "2024-01-02" := by
    have text : String.ofList (Instant.dateText 2024 1 2) = "2024-01-02" := by decide +kernel
    exact text ▸ .date ⟨2024, 1, 2, by decide⟩ (by decide)
  have earlier : DateForm.date.Writes "2023-12-31" := by
    have text : String.ofList (Instant.dateText 2023 12 31) = "2023-12-31" := by decide +kernel
    exact text ▸ .date ⟨2023, 12, 31, by decide⟩ (by decide)
  intro bookmarks
  have created : CreatedIn DateForm.date.Writes bookmarks := by
    refine List.forall_mem_cons.mpr ⟨?_, List.forall_mem_singleton.mpr ?_⟩
    · intro v found
      exact ⟨_, (Option.some_inj.mp found).symm, later⟩
    · intro v found
      exact ⟨_, (Option.some_inj.mp found).symm, earlier⟩
  have readable : ∀ s, DateForm.date.Writes s → Readable s := fun _ writes => writes.exists_instant
  obtain ⟨ends, kinds, forms⟩ := uses_bounded (created.mono readable)
  have chronological := forms .date created
  exact ⟨created, chronological, ends.mp chronological "rust",
    (kinds _ readable).mp fun _ created => (uses_bounded (created.mono readable)).2.2 .date created⟩

/-- A day that is written without zeros comes behind the day after it. -/
theorem first_use_after_another :
    let bookmarks : List Row :=
      [[("tags", .list [.text "rust"]), ("created_at", .text "2024-01-02")],
        [("tags", .list [.text "rust"]), ("created_at", .text "2024-1-1")]]
    CreatedIn Readable bookmarks ∧ ¬ Chronological bookmarks := by
  have day : readInstant? "2024-1-1" = some ⟨1704067200, 0⟩ := by decide +kernel
  have next : readInstant? "2024-01-02" = some ⟨1704153600, 0⟩ := by decide +kernel
  intro bookmarks
  constructor
  · refine List.forall_mem_cons.mpr ⟨?_, List.forall_mem_singleton.mpr ?_⟩
    · intro v found
      exact ⟨_, (Option.some_inj.mp found).symm, _, next⟩
    · intro v found
      exact ⟨_, (Option.some_inj.mp found).symm, _, day⟩
  · intro chronological
    have derived : derive bookmarks = [row "rust" 2 (some "2024-01-02") (some "2024-1-1")] := by
      decide
    have carries : Carries [("tags", .list [.text "rust"]), ("created_at", .text "2024-1-1")]
        "rust" := ⟨_, rfl, by simp⟩
    obtain ⟨⟨s, y, found, read, le⟩, -⟩ := chronological _ (derived ▸ List.mem_singleton.mpr rfl) _
      (by simp [bookmarks]) carries _ _ rfl day
    obtain rfl : "2024-01-02" = s := Value.text.inj (Option.some_inj.mp found)
    obtain rfl := Option.some_inj.mp (next.symm.trans read)
    exact absurd le (by decide)

end Tags

end BookmarkViews
