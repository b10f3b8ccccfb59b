import BookmarkViews.Pattern.Standard
import BookmarkViews.Proofs.Store.Applied
import BookmarkViews.Proofs.Store.TextCells

/-!
Clauses on the tags of bookmarks, applied by tables and by conditions.

Tables test each tag as it was inserted. Conditions test the tags that a row shows, and
those travelled in one text between separators: a tag that holds a separator comes back
in pieces (`Tables.travelled_eq_iff`).
-/

namespace BookmarkViews

/-! ### Patterns -/

/-- Every text meets itself as a pattern, also one that ends in a slash and a star. -/
theorem patternMeets_self (s : String) : patternMeets s s = true := by
  unfold patternMeets
  cases cut : Text.before? ['*'] s.toList with
  | none => exact beq_self_eq_true s
  | some lead =>
    dsimp only
    split_ifs
    · rw [Text.before?_eq_some_iff.mp cut, List.isPrefixOf_iff_prefix]
      exact List.prefix_append lead ['*']
    · exact beq_self_eq_true s

/-- What meets a pattern has all characters of the pattern, a star apart. -/
theorem mem_of_patternMeets {pattern item : String} (meets : patternMeets pattern item = true)
    {c : Char} (mem : c ∈ pattern.toList) (plain : c ≠ '*') : c ∈ item.toList := by
  unfold patternMeets at meets
  cases cut : Text.before? ['*'] pattern.toList with
  | none =>
    rw [cut] at meets
    rw [eq_of_beq meets]
    exact mem
  | some lead =>
    rw [cut] at meets
    dsimp only at meets
    split_ifs at meets
    · rw [Text.before?_eq_some_iff.mp cut, List.mem_append, List.mem_singleton] at mem
      rcases mem with inLead | star
      · exact (List.isPrefixOf_iff_prefix.mp meets).subset inLead
      · exact absurd star plain
    · rw [eq_of_beq meets]
      exact mem

namespace Tables

/-! ### Tags that travel -/

/-- No tag comes back with a separator in it. -/
theorem notMem_of_mem_travelled {tags : List String} {tag : String} (mem : tag ∈ travelled tags) :
    tagSeparator ∉ tag.toList := by
  unfold travelled at mem
  split_ifs at mem
  · exact nomatch mem
  · obtain ⟨piece, cut, rfl⟩ := List.mem_map.mp mem
    rw [String.toList_ofList]
    intro separator
    rw [List.splitOn_eq_splitOnP] at cut
    have other := Text.not_of_mem_splitOnP cut tagSeparator separator
    exact nomatch (beq_self_eq_true tagSeparator).symm.trans other

/-- **Tags come back as they were exactly when none holds a separator.** -/
theorem travelled_eq_iff {tags : List String} :
    travelled tags = tags ↔ ∀ tag ∈ tags, tagSeparator ∉ tag.toList := by
  constructor
  · intro same tag mem
    rw [← same] at mem
    exact notMem_of_mem_travelled mem
  · intro clean
    unfold travelled
    split_ifs with empty
    · exact (List.isEmpty_iff.mp empty).symm
    · have pieces : ∀ piece ∈ tags.map String.toList, tagSeparator ∉ piece := by
        intro piece mem
        obtain ⟨tag, listed, rfl⟩ := List.mem_map.mp mem
        exact clean tag listed
      have nonempty : tags.map String.toList ≠ [] := by
        simpa using empty
      dsimp only
      rw [List.splitOn_intercalate tagSeparator pieces nonempty, List.map_map]
      simp

/-! ### Sets of tags -/

variable {t : Tables} {b : StoredBookmark} {patterns : List String}

/-- A bookmark shows its tags as they come back. -/
theorem at_tags (kept : t.Kept) (mem : b ∈ t.bookmarks) :
    (bookmarkRow (bookmarkRecord b)).at ⟨"tags", []⟩ = .list ((travelled b.tags).map .text) := by
  have empty : (bookmarkRecord b).cell "tags" = .null := by
    have noColumn : "tags" ∉ Keyed.keys (bookmarkRecord b).cells := by
      rw [kept.keys_bookmarkRecord mem]
      decide
    rw [StoredRecord.cell, Keyed.get?_eq_none_of_notMem noColumn, Option.getD_none]
  rw [Row.at_single, get?_bookmarkRow (kept.nodup_bookmarkRecord mem), empty]
  rfl

/-- What the tags that a bookmark shows mean to a set of patterns. -/
theorem metBy_tags [PatternEngine] (kept : t.Kept) (mem : b ∈ t.bookmarks) (now : Instant) :
    StoreClause.metBy now .bookmark (bookmarkRow (bookmarkRecord b))
        ⟨⟨"tags", []⟩, .anyOf patterns⟩ =
      patterns.any fun p => (travelled b.tags).any (patternMeets p) := by
  have texts (tags : List String) : Value.memberTexts (.list (tags.map .text)) = tags := by
    unfold Value.memberTexts
    dsimp only
    rw [List.filterMap_map]
    exact List.filterMap_some
  rw [StoreClause.metBy, FieldTest.passes, StoreClause.test, StoreClause.condition,
    at_tags kept mem]
  simp only [Condition.holds, Quantifier.holdsOf, texts]

/-- Tables accept every set of patterns that is not empty, and test the tags as they were
inserted. -/
theorem ofClause?_tags (nonempty : patterns ≠ []) :
    CellTest.ofClause? .bookmark ⟨⟨"tags", []⟩, .anyOf patterns⟩ =
      some ("tags", .anyTag (patterns.map TextPattern.ofText)) := by
  have read : CellTest.patterns? patterns = some (patterns.map TextPattern.ofText) := by
    unfold CellTest.patterns?
    rw [if_neg]
    simpa using nonempty
  have test : CellTest.ofOp? .list (.anyOf patterns) =
      some (.anyTag (patterns.map TextPattern.ofText)) := by
    simp only [CellTest.ofOp?, read, Option.map_some]
  exact CellTest.ofClause?_eq_some_iff.mpr ⟨rfl, .list, by decide, test⟩

theorem meets_tags (nonempty : patterns ≠ []) :
    (bookmarkRecord b).meets .bookmark ⟨⟨"tags", []⟩, .anyOf patterns⟩ =
      patterns.any fun p => b.tags.any (patternMeets p) := by
  rw [StoredRecord.meets, ofClause?_tags nonempty, Option.any_some]
  change (b.tags.any fun tag => (patterns.map TextPattern.ofText).any (TextPattern.covers tag)) = _
  rw [Bool.eq_iff_iff]
  simp only [List.any_eq_true, List.mem_map, exists_exists_and_eq_and, TextPattern.covers_ofText]
  constructor
  · rintro ⟨tag, listed, p, asked, meets⟩
    exact ⟨p, asked, tag, listed, meets⟩
  · rintro ⟨p, asked, tag, listed, meets⟩
    exact ⟨tag, listed, p, asked, meets⟩

theorem accepts_tags [PatternEngine] (t : Tables) (nonempty : patterns ≠ []) :
    t.store.accepts .bookmark ⟨⟨"tags", []⟩, .anyOf patterns⟩ = true :=
  Option.isSome_iff_exists.mpr ⟨_, ofClause?_tags nonempty⟩

/-- How many patterns of tags a query may have. -/
theorem refuses_tags_iff (nonempty : patterns ≠ []) :
    refuses .bookmark [⟨⟨"tags", []⟩, .anyOf patterns⟩] = true ↔
      498 < (TextPattern.anyFragment (patterns.map TextPattern.ofText)).height := by
  rw [refuses, List.filterMap_cons_some (ofClause?_tags nonempty)]
  exact CellTest.areRefused_anyTag_iff (mt List.map_eq_nil_iff.mp nonempty)

/-- Few patterns of tags are not too large a query. -/
theorem refuses_tags_of_le (few : patterns.length ≤ 495) :
    refuses .bookmark [⟨⟨"tags", []⟩, .anyOf patterns⟩] = false := by
  rcases eq_or_ne patterns [] with rfl | nonempty
  · rfl
  rw [Bool.eq_false_iff, Ne, refuses_tags_iff nonempty]
  have le := TextPattern.height_anyFragment_le (patterns.map TextPattern.ofText)
  rw [List.length_map] at le
  omega

/-- Many patterns of tags are too large a query. -/
theorem refuses_tags_of_lt (many : 496 < patterns.length) :
    refuses .bookmark [⟨⟨"tags", []⟩, .anyOf patterns⟩] = true := by
  have nonempty : patterns ≠ [] := List.ne_nil_of_length_pos (by omega)
  rw [refuses_tags_iff nonempty]
  have le := TextPattern.le_height_anyFragment
    (mt (@List.map_eq_nil_iff _ _ TextPattern.ofText _).mp nonempty)
  rw [List.length_map] at le
  omega

/-- What tables find for a set of patterns: the bookmarks with an inserted tag that meets
one of them, unless the query is too large. -/
theorem fetch_tags [PatternEngine] (nonempty : patterns ≠ []) :
    t.store.fetch .bookmark [⟨⟨"tags", []⟩, .anyOf patterns⟩] =
      if refuses .bookmark [⟨⟨"tags", []⟩, .anyOf patterns⟩] then .error tooLarge
      else
        .ok ((t.bookmarks.filter fun b => patterns.any fun p => b.tags.any (patternMeets p)).map
          fun b => bookmarkRow (bookmarkRecord b)) := by
  rw [fetch_of_accepts (List.forall_mem_singleton.mpr (t.accepts_tags nonempty))]
  refine if_congr Iff.rfl rfl ?_
  change Except.ok (((t.bookmarks.map bookmarkRecord).filter _).map bookmarkRow) = _
  rw [List.filter_map, List.map_map]
  congr 2
  apply List.filter_congr
  intro b _
  rw [Function.comp_apply, List.all_cons, List.all_nil, Bool.and_true, meets_tags nonempty]

/-- Tables apply a set of patterns as conditions do when it is not too large a query, and
the tags of every bookmark meet it before they travel and after. -/
theorem applies_tags_iff [PatternEngine] (kept : t.Kept) (nonempty : patterns ≠ []) (now : Instant) :
    t.store.Applies now .bookmark [⟨⟨"tags", []⟩, .anyOf patterns⟩] ↔
      refuses .bookmark [⟨⟨"tags", []⟩, .anyOf patterns⟩] = false ∧
        ∀ b ∈ t.bookmarks, (patterns.any fun p => b.tags.any (patternMeets p)) =
          patterns.any fun p => (travelled b.tags).any (patternMeets p) := by
  rw [applies_single_iff (t.accepts_tags nonempty)]
  refine and_congr_right fun _ => ⟨fun agree b mem => ?_, fun agree r mem => ?_⟩
  · have same := agree (bookmarkRecord b) (List.mem_map_of_mem mem)
    rw [meets_tags nonempty] at same
    exact same.trans (metBy_tags kept mem now)
  · obtain ⟨b, stored, rfl⟩ := List.mem_map.mp mem
    rw [meets_tags nonempty, agree b stored]
    exact (metBy_tags kept stored now).symm

/-- **When tables apply sets of tags as conditions do.** They take every set of patterns
that is not empty. They refuse it where its query is too large, and otherwise find the
bookmarks with an inserted tag that meets one. For every set that they do not refuse these
are the listed bookmarks that meet it exactly when no bookmark has a tag with a separator
in it: such a tag is found as it was inserted, and is shown in pieces. -/
theorem fetch_tag_sets [PatternEngine] (built : t.Built) (now : Instant) :
    (∀ patterns ≠ [], t.store.accepts .bookmark ⟨⟨"tags", []⟩, .anyOf patterns⟩ = true ∧
      t.store.fetch .bookmark [⟨⟨"tags", []⟩, .anyOf patterns⟩] =
        if refuses .bookmark [⟨⟨"tags", []⟩, .anyOf patterns⟩] then .error tooLarge
        else
          .ok ((t.bookmarks.filter fun b => patterns.any fun p => b.tags.any (patternMeets p)).map
            fun b => bookmarkRow (bookmarkRecord b))) ∧
      ((∀ patterns ≠ [], refuses .bookmark [⟨⟨"tags", []⟩, .anyOf patterns⟩] = false →
          t.store.Applies now .bookmark [⟨⟨"tags", []⟩, .anyOf patterns⟩]) ↔
        ∀ b ∈ t.bookmarks, ∀ tag ∈ b.tags, tagSeparator ∉ tag.toList) ∧
      ∀ patterns : List String,
        (patterns.length ≤ 495 → refuses .bookmark [⟨⟨"tags", []⟩, .anyOf patterns⟩] = false) ∧
        (496 < patterns.length → refuses .bookmark [⟨⟨"tags", []⟩, .anyOf patterns⟩] = true) := by
  refine ⟨fun patterns nonempty => ⟨t.accepts_tags nonempty, fetch_tags nonempty⟩, ⟨?_, ?_⟩,
    fun patterns => ⟨refuses_tags_of_le, refuses_tags_of_lt⟩⟩
  · intro applied b mem tag listed separator
    -- The tag itself, as the only pattern, is met by the tag and by no piece.
    have single : [tag] ≠ [] := List.cons_ne_nil tag []
    have fits : refuses .bookmark [⟨⟨"tags", []⟩, .anyOf [tag]⟩] = false :=
      refuses_tags_of_le (Nat.le_of_ble_eq_true rfl)
    have same := ((applies_tags_iff built.kept single now).mp (applied [tag] single fits)).2 b mem
    have found : (b.tags.any (patternMeets tag)) = true :=
      List.any_eq_true.mpr ⟨tag, listed, patternMeets_self tag⟩
    simp only [List.any_cons, List.any_nil, Bool.or_false, found] at same
    obtain ⟨piece, back, meets⟩ := List.any_eq_true.mp same.symm
    exact notMem_of_mem_travelled back (mem_of_patternMeets meets separator (by decide))
  · intro clean patterns nonempty fits
    refine (applies_tags_iff built.kept nonempty now).mpr ⟨fits, fun b mem => ?_⟩
    rw [travelled_eq_iff.mpr (clean b mem)]

/-! ### One bookmark -/

/-- The tables after one bookmark with these tags. -/
def taggedBookmark (tags : List String) : Tables :=
  let row : Row := [("url", .text "https://a.com"), ("tags", .list (tags.map .text))]
  { bookmarks := [⟨1, keptCells .bookmark row Column.bookmarks, tagsOf row⟩] }

theorem built_taggedBookmark (tags : List String) : (taggedBookmark tags).Built :=
  @Built.bookmark {} _ [("url", .text "https://a.com"), ("tags", .list (tags.map .text))] 1 .empty
    rfl

open StandardPatterns

/-- A tag under a path is found and shown under the path. -/
theorem fetch_tag_sets_under_path :
    (taggedBookmark ["work/rust"]).Built ∧
      (taggedBookmark ["work/rust"]).store.Applies ⟨0, 0⟩ .bookmark
        [⟨⟨"tags", []⟩, .anyOf ["work/*"]⟩] := by
  have built := built_taggedBookmark ["work/rust"]
  obtain ⟨-, applied, size⟩ := fetch_tag_sets built ⟨0, 0⟩
  refine ⟨built, applied.mpr ?_ ["work/*"] (by decide) ((size ["work/*"]).1 (by decide))⟩
  decide

/-- **A tag that tables do not find where conditions do.** The tag holds a separator, so
the listed bookmark shows its two pieces, and the first one meets the pattern. -/
theorem fetch_misses_piece :
    ∃ (t : Tables) (c : StoreClause) (listed : List Row), t.Built ∧
      t = taggedBookmark ["a\x1fb"] ∧ c = ⟨⟨"tags", []⟩, .anyOf ["a"]⟩ ∧
      t.store.accepts .bookmark c = true ∧ t.store.fetch .bookmark [] = .ok listed ∧
      t.store.fetch .bookmark [c] = .ok [] ∧
      listed.filter (StoreClause.metBy ⟨0, 0⟩ .bookmark · c) ≠ [] := by
  refine ⟨_, _, _, built_taggedBookmark _, rfl, rfl, by decide, rfl, ?_, ?_⟩
  · decide +kernel
  · decide +kernel

end Tables

end BookmarkViews
