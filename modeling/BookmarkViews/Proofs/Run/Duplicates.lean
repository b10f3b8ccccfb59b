import BookmarkViews.Pattern.Standard
import BookmarkViews.Proofs.Run.IdentifiedRows
import BookmarkViews.Proofs.Value.JsonText
import BookmarkViews.Run.Execute
import BookmarkViews.Store.Memory
import Mathlib

/-!
Which rows a union takes for the same.

Rows are told apart by a text of their entity and of some values, without the names of
the fields that the values come from. `Composition.MemberRow.identity_eq_iff` says when
two rows have one text: they are duplicates, or they are told apart by different fields
that hold the same values (`Composition.MemberRow.Confused`). A bookmark can be confused
through its id with one that has an address only, and statistics with those of a view
that groups by other columns. `Composition.composed_rows` says of every row whether a
union drops it, and `Registry.union_drops_other_columns` shows rows that it drops although
other fields tell them apart.
-/

namespace BookmarkViews

/-- The text of the value of a field, that of null where the field is missing. -/
def Row.textAt (row : Row) (name : String) : String :=
  ((Keyed.get? row name).getD .null).compact

namespace Row

variable {entity entity' : Entity} {columns columns' : List String} {row row' : Row}

theorem compact_pick_inj {names names' : List String} :
    (pick row names).compact = (pick row' names').compact ↔
      names.map (textAt row) = names'.map (textAt row') := by
  rw [pick, pick, Value.compact_list_inj, List.map_map, List.map_map]
  rfl

/-- Some values are never taken for a whole row. -/
theorem compact_pick_ne (names : List String) (fields : Row) :
    (pick row names).compact ≠ (Value.object fields).compact := by
  intro same
  rw [Value.compact_inj, pick, Value.compactChars, Value.compactChars] at same
  exact absurd (List.cons.inj same).1 (by decide)

/-- **An identity shows the entity** and the text of the identifying value. -/
theorem identity_inj :
    identity entity columns row = identity entity' columns' row' ↔
      entity = entity' ∧
        (identityValue entity columns row).compact = (identityValue entity' columns' row').compact := by
  constructor
  · intro h
    have chars := congrArg String.toList h
    simp only [identity, toString, String.toList_append] at chars
    cases entity <;> cases entity' <;>
      first
      | exact ⟨rfl, String.toList_inj.mp (List.append_cancel_left chars)⟩
      | exact absurd (congrArg List.head? chars) (by simp [Entity.name])
  · rintro ⟨rfl, same⟩
    rw [identity, identity, same]

end Row

namespace Composition

/-- A row of a view, and what tells the rows of the view apart. -/
structure MemberRow where
  entity : Entity
  columns : List String
  row : Row

namespace MemberRow

/-- The rows that a view yields. -/
def ofView (views : PreparedViews) (table : RowTable) (name : String) : List MemberRow :=
  ((Keyed.get? table name).getD []).map fun row =>
    { entity := ((PreparedViews.shape? views name).map Shape.entity).getD .bookmark
      columns := ((Keyed.get? views name).map PreparedView.groupColumns).getD []
      row }

/-- The text by which a row is told apart. -/
def identity (m : MemberRow) : String :=
  Row.identity m.entity m.columns m.row

/-- The fields that tell a row apart from others. -/
inductive ToldBy (m : MemberRow) : List String → Prop where
  | id : m.entity = .bookmark → m.row.hasValue "id" = true → ToldBy m ["id"]
  | url : m.entity = .bookmark → m.row.hasValue "id" = false → m.row.hasValue "url" = true →
    ToldBy m ["url"]
  | name : m.entity = .tag → m.row.hasValue "name" = true → ToldBy m ["name"]
  | ends : m.entity = .edge → ToldBy m ["source", "target", "relation"]
  | groups : m.entity = .stats → ToldBy m m.columns

/-- A row that no field tells apart: a bookmark with neither id nor address, or a tag
without a name. -/
inductive Unidentified (m : MemberRow) : Prop where
  | bookmark : m.entity = .bookmark → m.row.hasValue "id" = false →
    m.row.hasValue "url" = false → Unidentified m
  | tag : m.entity = .tag → m.row.hasValue "name" = false → Unidentified m

/-- Rows that are the same: the same fields tell them apart and hold values of the same
texts, or none does and the rows have the same fields with such values. -/
inductive Duplicate (m m' : MemberRow) : Prop where
  | told {names : List String} : m.entity = m'.entity → m.ToldBy names → m'.ToldBy names →
    (∀ name ∈ names, m.row.textAt name = m'.row.textAt name) → Duplicate m m'
  | whole : m.entity = m'.entity → m.Unidentified → m'.Unidentified →
    m.row.map (fun f => (f.1, f.2.compact)) = m'.row.map (fun f => (f.1, f.2.compact)) →
    Duplicate m m'

/-- A bookmark with an id, and one without whose address has the text of the id. -/
structure IdIsUrl (m m' : MemberRow) : Prop where
  entity : m.entity = .bookmark
  entity' : m'.entity = .bookmark
  id : m.row.hasValue "id" = true
  noId : m'.row.hasValue "id" = false
  url : m'.row.hasValue "url" = true
  same : m.row.textAt "id" = m'.row.textAt "url"

/-- Statistics of views that group by other columns, with values of the same texts. -/
structure OtherColumns (m m' : MemberRow) : Prop where
  entity : m.entity = .stats
  entity' : m'.entity = .stats
  other : m.columns ≠ m'.columns
  same : m.columns.map m.row.textAt = m'.columns.map m'.row.textAt

/-- Rows that are told apart by different fields which hold values of the same texts. -/
inductive Confused (m m' : MemberRow) : Prop where
  | id : m.IdIsUrl m' → Confused m m'
  | url : m'.IdIsUrl m → Confused m m'
  | groups : m.OtherColumns m' → Confused m m'

variable {m m' : MemberRow} {names names' : List String}

/-- Every row is told apart by some fields, or by none. -/
theorem toldBy_or_unidentified (m : MemberRow) : (∃ names, m.ToldBy names) ∨ m.Unidentified := by
  cases entity : m.entity with
  | bookmark =>
    cases id : m.row.hasValue "id" with
    | true => exact .inl ⟨_, .id entity id⟩
    | false =>
      cases url : m.row.hasValue "url" with
      | true => exact .inl ⟨_, .url entity id url⟩
      | false => exact .inr (.bookmark entity id url)
  | tag =>
    cases name : m.row.hasValue "name" with
    | true => exact .inl ⟨_, .name entity name⟩
    | false => exact .inr (.tag entity name)
  | edge => exact .inl ⟨_, .ends entity⟩
  | stats => exact .inl ⟨_, .groups entity⟩

theorem ToldBy.identityValue_eq (h : m.ToldBy names) :
    Row.identityValue m.entity m.columns m.row = m.row.pick names := by
  cases h with
  | id entity id => simp [Row.identityValue, entity, id]
  | url entity id url => simp [Row.identityValue, entity, id, url]
  | name entity name => simp [Row.identityValue, entity, name]
  | ends entity => simp [Row.identityValue, entity]
  | groups entity => simp [Row.identityValue, entity]

theorem Unidentified.identityValue_eq (h : m.Unidentified) :
    Row.identityValue m.entity m.columns m.row = .object m.row := by
  cases h with
  | bookmark entity id url => simp [Row.identityValue, entity, id, url]
  | tag entity name => simp [Row.identityValue, entity, name]

/-- Rows of one entity that different fields tell apart are bookmarks, one with an id and
one without, or statistics of views that group by other columns. -/
theorem ToldBy.confused (h : m.ToldBy names) (h' : m'.ToldBy names') (entity : m.entity = m'.entity)
    (other : names ≠ names') (same : names.map m.row.textAt = names'.map m'.row.textAt) :
    m.Confused m' := by
  cases h with
  | id bookmark id =>
    cases h' with
    | id => exact absurd rfl other
    | url bookmark' noId url =>
      exact .id ⟨bookmark, bookmark', id, noId, url, List.singleton_inj.mp same⟩
    | name entity' | ends entity' | groups entity' =>
      rw [bookmark, entity'] at entity
      exact nomatch entity
  | url bookmark noId url =>
    cases h' with
    | id bookmark' id =>
      exact .url ⟨bookmark', bookmark, id, noId, url, (List.singleton_inj.mp same).symm⟩
    | url => exact absurd rfl other
    | name entity' | ends entity' | groups entity' =>
      rw [bookmark, entity'] at entity
      exact nomatch entity
  | name tag =>
    cases h' with
    | name => exact absurd rfl other
    | id entity' | url entity' | ends entity' | groups entity' =>
      rw [tag, entity'] at entity
      exact nomatch entity
  | ends edge =>
    cases h' with
    | ends => exact absurd rfl other
    | id entity' | url entity' | name entity' | groups entity' =>
      rw [edge, entity'] at entity
      exact nomatch entity
  | groups stats =>
    cases h' with
    | groups stats' => exact .groups ⟨stats, stats', other, same⟩
    | id entity' | url entity' | name entity' | ends entity' =>
      rw [stats, entity'] at entity
      exact nomatch entity

/-- Rows that fields tell apart have one identity when the fields hold the same values. -/
theorem ToldBy.identity_eq_iff (h : m.ToldBy names) (h' : m'.ToldBy names') :
    m.identity = m'.identity ↔
      m.entity = m'.entity ∧ names.map m.row.textAt = names'.map m'.row.textAt := by
  rw [identity, identity, Row.identity_inj, h.identityValue_eq, h'.identityValue_eq,
    Row.compact_pick_inj]

theorem Unidentified.identity_eq_iff (h : m.Unidentified) (h' : m'.Unidentified) :
    m.identity = m'.identity ↔ m.entity = m'.entity ∧
      m.row.map (fun f => (f.1, f.2.compact)) = m'.row.map (fun f => (f.1, f.2.compact)) := by
  rw [identity, identity, Row.identity_inj, h.identityValue_eq, h'.identityValue_eq,
    Value.compact_object_inj]

/-- A row that fields tell apart never has the identity of one that none does. -/
theorem ToldBy.identity_ne (h : m.ToldBy names) (h' : m'.Unidentified) :
    m.identity ≠ m'.identity := by
  rw [identity, identity, Ne, Row.identity_inj, h.identityValue_eq, h'.identityValue_eq]
  exact fun same => Row.compact_pick_ne _ _ same.2

/-- Confused rows have one identity. -/
theorem Confused.identity_eq (h : m.Confused m') : m.identity = m'.identity := by
  cases h with
  | id h =>
    have told := ToldBy.id h.entity h.id
    have told' := ToldBy.url h.entity' h.noId h.url
    exact (told.identity_eq_iff told').mpr ⟨h.entity.trans h.entity'.symm, by simp [h.same]⟩
  | url h =>
    have told := ToldBy.url h.entity' h.noId h.url
    have told' := ToldBy.id h.entity h.id
    exact (told.identity_eq_iff told').mpr ⟨h.entity'.trans h.entity.symm, by simp [h.same]⟩
  | groups h =>
    have told := ToldBy.groups h.entity
    have told' := ToldBy.groups h.entity'
    exact (told.identity_eq_iff told').mpr ⟨h.entity.trans h.entity'.symm, h.same⟩

/-- **Rows have one identity when they are the same, or confused**, and only then. -/
theorem identity_eq_iff : m.identity = m'.identity ↔ m.Duplicate m' ∨ m.Confused m' := by
  constructor
  · intro h
    rcases m.toldBy_or_unidentified with ⟨names, told⟩ | none
    · rcases m'.toldBy_or_unidentified with ⟨names', told'⟩ | none'
      · obtain ⟨entity, same⟩ := (told.identity_eq_iff told').mp h
        by_cases fields : names = names'
        · subst fields
          exact .inl (.told entity told told' (List.map_inj_left.mp same))
        · exact .inr (told.confused told' entity fields same)
      · exact absurd h (told.identity_ne none')
    · rcases m'.toldBy_or_unidentified with ⟨names', told'⟩ | none'
      · exact absurd h.symm (told'.identity_ne none)
      · obtain ⟨entity, same⟩ := (none.identity_eq_iff none').mp h
        exact .inl (.whole entity none none' same)
  · rintro (duplicate | confused)
    · cases duplicate with
      | told entity told told' same =>
        exact (told.identity_eq_iff told').mpr ⟨entity, List.map_inj_left.mpr same⟩
      | whole entity none none' same => exact (none.identity_eq_iff none').mpr ⟨entity, same⟩
    · exact confused.identity_eq

/-- The fields that tell a row apart are settled by the row. -/
theorem ToldBy.unique (h : m.ToldBy names) (h' : m.ToldBy names') : names = names' := by
  cases h <;> cases h' <;> simp_all

theorem ToldBy.not_unidentified (h : m.ToldBy names) : ¬ m.Unidentified := by
  rintro (_ | _) <;> cases h <;> simp_all

/-- **Confused rows are not the same**: other fields tell them apart. -/
theorem Confused.not_duplicate (h : m.Confused m') : ¬ m.Duplicate m' := by
  obtain ⟨names, names', told, told', other⟩ : ∃ names names', m.ToldBy names ∧
      m'.ToldBy names' ∧ names ≠ names' := by
    cases h with
    | id h => exact ⟨_, _, .id h.entity h.id, .url h.entity' h.noId h.url, by decide⟩
    | url h => exact ⟨_, _, .url h.entity' h.noId h.url, .id h.entity h.id, by decide⟩
    | groups h => exact ⟨_, _, .groups h.entity, .groups h.entity', h.other⟩
  intro duplicate
  cases duplicate with
  | told _ same same' _ => exact other ((told.unique same).trans (same'.unique told'))
  | whole _ none _ _ => exact told.not_unidentified none

end MemberRow

/-! ### What a union drops -/

/-- The rows that a union goes through, in order: those of the source, then those of its
members. -/
def unionRows (views : PreparedViews) (table : RowTable) (v : View) : List MemberRow :=
  (v.source.toList ++ v.union).flatMap (MemberRow.ofView views table)

/-- Whether the row of another view stands for a row in an intersection. -/
def StandsIn (views : PreparedViews) (table : RowTable) (name : String) (m : MemberRow) : Prop :=
  ∃ m' ∈ MemberRow.ofView views table name, m'.Duplicate m ∨ m'.Confused m

theorem identified_eq (views : PreparedViews) (table : RowTable) (name : String) :
    identified views table name =
      (MemberRow.ofView views table name).map fun m => (m.identity, m.row) := by
  rw [MemberRow.ofView, List.map_map]
  rfl

theorem mem_keys_identified {views : PreparedViews} {table : RowTable} {name : String}
    {m : MemberRow} :
    m.identity ∈ (identified views table name).map (·.1) ↔ StandsIn views table name m := by
  rw [identified_eq, List.map_map, List.mem_map]
  exact exists_congr fun m' => and_congr_right fun _ => MemberRow.identity_eq_iff

/-- What a view with a union composes: the first row of every identity, as long as all
intersected views have it. -/
theorem composeIdentified_union {views : PreparedViews} {table : RowTable} {v : View}
    (h : v.union ≠ []) :
    composeIdentified (identified views table) v =
      (dedup [] ((unionRows views table v).map fun m => (m.identity, m.row))).filter fun e =>
        (v.intersect.map (identified views table)).all fun others =>
          (others.map (·.1)).contains e.1 := by
  have rows : (v.source.map (identified views table)).getD [] ++
      v.union.flatMap (identified views table) =
        (unionRows views table v).map fun m => (m.identity, m.row) := by
    rw [unionRows, List.map_flatMap, List.flatMap_append]
    simp only [← identified_eq]
    cases v.source <;> simp
  have based : base? (identified views table) v =
      some (dedup [] ((unionRows views table v).map fun m => (m.identity, m.row))) := by
    rw [base?, if_neg (by simpa using h), rows]
  rw [composeIdentified, based]
  exact foldl_keepCommon _ _

/-- **What becomes of the rows that a union goes through.** They are composed in order,
and one is left out when an earlier one is the same or is confused with it, and else only
where an intersection has no row for it. -/
theorem composed_rows (views : PreparedViews) (table : RowTable) {v : View} (h : v.union ≠ []) :
    let rows := unionRows views table v
    ∃ kept : List (Fin rows.length), kept.Pairwise (· < ·) ∧
      compose views table v = kept.map (fun i => rows[i].row) ∧
      ∀ i, i ∉ kept ↔ (∃ j < i, rows[j].Duplicate rows[i] ∨ rows[j].Confused rows[i]) ∨
        ∃ name ∈ v.intersect, ¬ StandsIn views table name rows[i] := by
  intro rows
  let first (i : Fin rows.length) : Prop := ∀ j < i, rows[j].identity ≠ rows[i].identity
  let common (i : Fin rows.length) : Bool :=
    (v.intersect.map (identified views table)).all fun others =>
      (others.map (·.1)).contains rows[i].identity
  let kept := ((List.finRange rows.length).filter fun i => first i).filter common
  have first_iff (i : Fin rows.length) :
      ¬ first i ↔ ∃ j < i, rows[j].Duplicate rows[i] ∨ rows[j].Confused rows[i] := by
    simp only [first, ne_eq, not_forall, not_not, exists_prop, MemberRow.identity_eq_iff]
  have common_iff (i : Fin rows.length) :
      ¬ common i ↔ ∃ name ∈ v.intersect, ¬ StandsIn views table name rows[i] := by
    simp only [common, List.all_map, List.all_eq_true, Function.comp, List.contains_iff_mem,
      mem_keys_identified, not_forall, exists_prop]
  refine ⟨kept, ?_, ?_, fun i => ?_⟩
  · exact ((List.pairwise_lt_finRange _).filter _).filter _
  · rw [compose, composeIdentified_union h, dedup_map, List.filter_map, List.map_map]
    simp [kept, first, common, Function.comp_def, rows]
  · rw [← first_iff, ← common_iff]
    simp only [kept, List.mem_filter, List.mem_finRange, true_and, decide_eq_true_eq]
    exact not_and_or

/-- The rows of two views, one bookmark in both. -/
def sharedRows : RowTable :=
  [("left", [[("id", .ofInt 1)], [("id", .ofInt 2), ("title", .text "first")]]),
    ("right", [[("id", .ofInt 2), ("title", .text "second")], [("id", .ofInt 3)]])]

/-- The union of the two views. -/
def eitherView : View :=
  { name := "either", union := ["left", "right"] }

open StandardPatterns

/-- The bookmark that both views have is left out where it comes again. -/
theorem composed_rows_shared :
    eitherView.union ≠ [] ∧
      ∃ kept : List (Fin (unionRows [] sharedRows eitherView).length),
        compose [] sharedRows eitherView =
          kept.map (fun i => (unionRows [] sharedRows eitherView)[i].row) ∧
        ⟨2, by decide⟩ ∉ kept := by
  have union : eitherView.union ≠ [] := by decide
  obtain ⟨kept, -, composed, leftOut⟩ := composed_rows [] sharedRows union
  refine ⟨union, kept, composed, (leftOut _).mpr (.inl ⟨⟨1, by decide⟩, by decide, .inl ?_⟩)⟩
  exact .told rfl (.id rfl rfl) (.id rfl rfl) (by decide)

end Composition

/-! ### Rows that are confused -/

namespace Registry

open BookmarkViews.Composition (MemberRow)

/-- Two groupings of bookmarks, and all bookmarks, each in a union. -/
def unions : Registry :=
  let views : List View := [{ name := "by_domain", groupBy := [⟨"domain", []⟩] },
    { name := "by_title", groupBy := [⟨"title", []⟩] },
    { name := "groups", union := ["by_domain", "by_title"] },
    { name := "all" }, { name := "either", union := ["all"] }]
  ⟨views, by decide⟩

/-- A bookmark with one text for title and domain. -/
def sameTexts [PatternEngine] : RunContext :=
  let row : Row := [("id", .ofInt 1), ("title", .text "x"), ("domain", .text "x")]
  { store := ({ bookmarks := [row] } : MemoryRecords).store, now := ⟨0, 0⟩ }

/-- A bookmark whose id is the address of another one. -/
def idIsUrl [PatternEngine] : RunContext :=
  let rows : List Row := [[("id", .text "a.com")], [("url", .text "a.com")]]
  { store := ({ bookmarks := rows } : MemoryRecords).store, now := ⟨0, 0⟩ }

open StandardPatterns

/-- **A union drops rows that are not the same as any before.** Statistics by title are
taken for those by domain, and a bookmark with an address for one with an id. -/
theorem union_drops_other_columns :
    (let byDomain : Row := [("domain", .text "x"), ("count", .ofInt 1)]
      let byTitle : Row := [("title", .text "x"), ("count", .ofInt 1)]
      (executeNamed sameTexts unions [] "by_domain").result =
          .ok ⟨.stats, [byDomain], ["domain"]⟩ ∧
        (executeNamed sameTexts unions [] "by_title").result = .ok ⟨.stats, [byTitle], ["title"]⟩ ∧
        (executeNamed sameTexts unions [] "groups").result = .ok ⟨.stats, [byDomain], ["domain"]⟩ ∧
        ¬ MemberRow.Duplicate ⟨.stats, ["domain"], byDomain⟩ ⟨.stats, ["title"], byTitle⟩) ∧
      (let withId : Row := [("id", .text "a.com")]
        let withUrl : Row := [("url", .text "a.com")]
        (executeNamed idIsUrl unions [] "all").result = .ok ⟨.bookmark, [withId, withUrl], []⟩ ∧
          (executeNamed idIsUrl unions [] "either").result = .ok ⟨.bookmark, [withId], []⟩ ∧
          ¬ MemberRow.Duplicate ⟨.bookmark, [], withId⟩ ⟨.bookmark, [], withUrl⟩) := by
  refine ⟨⟨by cbv, by cbv, by cbv, ?_⟩, by cbv, by cbv, ?_⟩
  · exact MemberRow.Confused.not_duplicate (.groups ⟨rfl, rfl, by decide, by decide⟩)
  · exact MemberRow.Confused.not_duplicate (.id ⟨rfl, rfl, rfl, rfl, rfl, by decide⟩)

end Registry

end BookmarkViews
