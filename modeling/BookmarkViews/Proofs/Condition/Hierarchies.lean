import BookmarkViews.Condition.Holds
import Mathlib.Data.List.DropRight

/-!
What lies under a path, asked as a test of texts and as a set of two patterns.

The test leaves out slashes at the end of the path (`TextTest.holdsOf_under_iff`), and the set
takes a star behind a slash at its end for what is strictly under it. Paths that end in neither
are `IsPlainPath`, and for these, and no others, both ask the same of every text
(`isPlainPath_iff`), and so of every text, list of texts and null (`Condition.holds_under`).
-/

namespace BookmarkViews

/-- A path that ends neither in a slash nor in a slash and a star. -/
def IsPlainPath (path : String) : Prop :=
  ¬ ['/'] <:+ path.toList ∧ ¬ ['/', '*'] <:+ path.toList

instance : DecidablePred IsPlainPath := fun _ => inferInstanceAs (Decidable (_ ∧ _))

/-- A text lies under a path: it is the path, or goes on behind it with a slash. -/
def LiesUnder (path s : String) : Prop :=
  s = path ∨ path.toList ++ ['/'] <+: s.toList

/-- The patterns of what lies under a path: the path, and all that is strictly under it. -/
def pathPatterns (path : String) : List String :=
  [path, path ++ "/*"]

variable {path s : String}

theorem LiesUnder.length_le (h : LiesUnder path s) : path.toList.length ≤ s.toList.length := by
  rcases h with rfl | strictly
  · exact le_rfl
  · have longer := strictly.length_le
    rw [List.length_append] at longer
    omega

/-! ### Tests and patterns of one text -/

variable [PatternEngine]

/-- The test asks what lies under the path without the slashes at its end. -/
theorem TextTest.holdsOf_under_iff : (TextTest.under path).holdsOf s = true ↔
    LiesUnder (String.ofList (path.toList.rdropWhile (· == '/'))) s := by
  unfold TextTest.holdsOf LiesUnder
  rw [← String.toList_inj, String.toList_ofList, List.rdropWhile]
  dsimp only
  generalize (path.toList.reverse.dropWhile (· == '/')).reverse = lead
  cases behind : Text.after? lead s.toList with
  | none =>
    have apart (rest : List Char) : s.toList ≠ lead ++ rest := by
      intro same
      rw [Text.after?_eq_some_iff.mpr same] at behind
      exact nomatch behind
    simp only [Bool.false_eq_true, false_iff, not_or]
    refine ⟨fun same => apart [] (by rw [same, List.append_nil]), ?_⟩
    rintro ⟨rest, same⟩
    exact apart ('/' :: rest) (by rw [← same, List.append_assoc]; rfl)
  | some rest =>
    rw [Text.after?_eq_some_iff.mp behind, List.prefix_append_right_inj]
    cases rest with
    | nil => simp
    | cons c rest => simp [List.cons_prefix_cons, @eq_comm _ c]

omit [PatternEngine] in
/-- A pattern that does not end in a slash and a star is met by itself only. -/
theorem patternMeets_iff_eq (single : ¬ ['/', '*'] <:+ path.toList) :
    patternMeets path s = true ↔ s = path := by
  unfold patternMeets
  cases cut : Text.before? ['*'] path.toList with
  | none => exact beq_iff_eq
  | some lead =>
    dsimp only
    rw [if_neg, beq_iff_eq]
    intro slash
    obtain ⟨front, rfl⟩ := List.getLast?_eq_some_iff.mp slash
    rw [Text.before?_eq_some_iff.mp cut, List.append_assoc] at single
    exact single (List.suffix_append front ['/', '*'])

omit [PatternEngine] in
/-- A slash and a star behind a path are met by all that goes on behind the slash. -/
theorem patternMeets_slash_star : patternMeets (path ++ "/*") s = true ↔
    path.toList ++ ['/'] <+: s.toList := by
  have cut : Text.before? ['*'] (path ++ "/*").toList = some (path.toList ++ ['/']) := by
    rw [Text.before?_eq_some_iff, String.toList_append, List.append_assoc]
    rfl
  unfold patternMeets
  rw [cut]
  dsimp only
  rw [List.getLast?_concat, if_pos rfl, List.isPrefixOf_iff_prefix]

omit [PatternEngine] in
theorem any_pathPatterns_iff (single : ¬ ['/', '*'] <:+ path.toList) :
    (pathPatterns path).any (patternMeets · s) = true ↔ LiesUnder path s := by
  simp [pathPatterns, patternMeets_iff_eq single, patternMeets_slash_star, LiesUnder]

theorem IsPlainPath.holdsOf_under_iff (plain : IsPlainPath path) :
    (TextTest.under path).holdsOf s = true ↔ LiesUnder path s := by
  have whole : path.toList.rdropWhile (· == '/') = path.toList := by
    refine List.rdropWhile_eq_self_iff.mpr fun some slash => plain.1 ?_
    refine ⟨path.toList.dropLast, ?_⟩
    rw [← eq_of_beq slash, List.dropLast_append_getLast]
  rw [TextTest.holdsOf_under_iff, whole, String.ofList_toList]

/-- **Test and set agree on every text exactly for plain paths.** A slash at the end is left
out by the test only, and a star behind it is more than itself to the set only. -/
theorem isPlainPath_iff : IsPlainPath path ↔
    ∀ s, (TextTest.under path).holdsOf s = (pathPatterns path).any (patternMeets · s) := by
  constructor
  · intro plain s
    rw [Bool.eq_iff_iff, plain.holdsOf_under_iff, any_pathPatterns_iff plain.2]
  · intro agree
    constructor
    · rintro ⟨front, ends⟩
      -- The path without its slashes is found by the test, and is too short for the set.
      set lead := String.ofList (path.toList.rdropWhile (· == '/')) with lead_eq
      have single : ¬ ['/', '*'] <:+ path.toList := by
        rintro ⟨other, star⟩
        have last := congrArg List.getLast? (ends.trans star.symm)
        simp at last
      have found := agree lead
      rw [TextTest.holdsOf_under_iff.mpr (.inl rfl)] at found
      have longer := ((any_pathPatterns_iff single).mp found.symm).length_le
      have shorter : (path.toList.rdropWhile (· == '/')).length ≤ front.length := by
        rw [← ends, List.rdropWhile_concat_pos _ _ _ rfl]
        exact (List.rdropWhile_prefix _ _).length_le
      rw [lead_eq, String.toList_ofList] at longer
      have whole : path.toList.length = front.length + 1 := by
        rw [← ends, List.length_append, List.length_singleton]
      omega
    · rintro ⟨front, ends⟩
      -- A slash behind the front of the path meets the pattern, and is too short for the test.
      have path_eq : path = String.ofList front ++ "/*" := by
        rw [← String.toList_inj, String.toList_append, String.toList_ofList, ← ends]
        rfl
      have met : patternMeets path (String.ofList (front ++ ['/'])) = true := by
        rw [path_eq]
        refine patternMeets_slash_star.mpr ⟨[], ?_⟩
        rw [String.toList_ofList, String.toList_ofList, List.append_nil]
      have found : (TextTest.under path).holdsOf (String.ofList (front ++ ['/'])) = true := by
        rw [agree, pathPatterns, List.any_cons, met, Bool.true_or]
      have whole : path.toList.rdropWhile (· == '/') = path.toList := by
        rw [← ends, List.append_cons front, List.rdropWhile_concat_neg _ _ _ (by decide)]
      have longer := (TextTest.holdsOf_under_iff.mp found).length_le
      rw [whole, String.ofList_toList, String.toList_ofList, ← ends] at longer
      simp at longer

omit [PatternEngine] in
/-- What a text is under stays above it when the text goes on behind a slash. -/
theorem LiesUnder.append_slash {front : List Char} (h : LiesUnder path (String.ofList front))
    (rest : List Char) : LiesUnder path (String.ofList (front ++ '/' :: rest)) := by
  refine .inr ?_
  rw [String.toList_ofList]
  rcases h with rfl | strictly
  · rw [String.toList_ofList, List.append_cons front '/' rest]
    exact List.prefix_append _ rest
  · rw [String.toList_ofList] at strictly
    exact strictly.trans (List.prefix_append front _)

omit [PatternEngine] in
/-- Every text lies under a plain path that has its characters, slashes and stars apart. -/
theorem exists_plainPath (cs : List Char) : ∃ path, IsPlainPath path ∧
    LiesUnder path (String.ofList cs) ∧ ∀ c ∈ cs, c ≠ '/' → c ≠ '*' → c ∈ path.toList := by
  by_cases plain : IsPlainPath (String.ofList cs)
  · exact ⟨String.ofList cs, plain, .inl rfl, fun c mem _ _ => by rwa [String.toList_ofList]⟩
  · have cut : ∃ front rest, cs = front ++ '/' :: rest ∧ ∀ c ∈ rest, c = '*' := by
      rw [IsPlainPath, not_and_or, not_not, not_not, String.toList_ofList] at plain
      rcases plain with ⟨front, rfl⟩ | ⟨front, rfl⟩
      · exact ⟨front, [], rfl, nofun⟩
      · exact ⟨front, ['*'], rfl, fun c => List.mem_singleton.mp⟩
    obtain ⟨front, rest, split, stars⟩ := cut
    have shorter : front.length < cs.length := by simp [split]
    obtain ⟨path, plain, lies, has⟩ := exists_plainPath front
    rw [split]
    refine ⟨path, plain, lies.append_slash rest, fun c mem noSlash noStar => ?_⟩
    rcases List.mem_append.mp mem with mem | mem
    · exact has c mem noSlash noStar
    · rcases List.mem_cons.mp mem with slash | mem
      · exact absurd slash noSlash
      · exact absurd (stars c mem) noStar
termination_by cs.length

/-! ### Values -/

/-- A value of paths: null, a text or a list of texts. -/
inductive Value.IsPathSet : Value → Prop where
  | null : IsPathSet .null
  | text (s : String) : IsPathSet (.text s)
  | list (texts : List String) : IsPathSet (.list (texts.map .text))

namespace Condition

variable {v : Value}

/-- The condition that a value lies under a path, as a test of texts. -/
def under (path : String) : Condition :=
  .text (.under path)

/-- The condition that a value lies under a path, as a set of patterns. -/
def underAsSet (path : String) : Condition :=
  .members .any (pathPatterns path)

theorem holds_under_eq_any (paths : v.IsPathSet) (now : Instant) (type : Option FieldType)
    (path : String) :
    holds now type v (under path) = v.memberTexts.any fun s => (TextTest.under path).holdsOf s := by
  cases paths with
  | null => rfl
  | text s => simp [holds, under, Value.anyItem, Value.memberTexts]
  | list texts =>
    simp [holds, under, Value.anyItem, Value.memberTexts, List.filterMap_map, Function.comp_def]

theorem holds_underAsSet_eq_any (now : Instant) (type : Option FieldType) (v : Value)
    (path : String) : holds now type v (underAsSet path) =
      v.memberTexts.any fun s => (pathPatterns path).any (patternMeets · s) := by
  rw [underAsSet, holds, Quantifier.holdsOf, Bool.eq_iff_iff]
  simp only [List.any_eq_true]
  constructor
  · rintro ⟨pattern, asked, s, shown, meets⟩
    exact ⟨s, shown, pattern, asked, meets⟩
  · rintro ⟨s, shown, pattern, asked, meets⟩
    exact ⟨pattern, asked, s, shown, meets⟩

/-- **A hierarchy is a set of two patterns.** -/
theorem holds_under (plain : IsPlainPath path) (paths : v.IsPathSet) (now : Instant)
    (type : Option FieldType) :
    holds now type v (under path) = holds now type v (underAsSet path) := by
  rw [holds_under_eq_any paths, holds_underAsSet_eq_any]
  simp only [isPlainPath_iff.mp plain]

theorem holds_none (now : Instant) (type : Option FieldType) (v : Value) (path : String) :
    holds now type v (.members .none (pathPatterns path)) =
      !holds now type v (underAsSet path) :=
  rfl

end Condition

end BookmarkViews
