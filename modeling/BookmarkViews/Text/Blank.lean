/-!
White space, trimming and splitting on `List Char`.

`isBlank` is Unicode's `White_Space` property. A removed lead put back gives the
whole (`after?_eq_some_iff`), and no word holds a blank
(`not_isBlank_of_mem_words`).
-/

namespace BookmarkViews.Text

/-- The characters with Unicode's `White_Space` property. -/
def isBlank (c : Char) : Bool :=
  let n := c.toNat
  (9 ≤ n && n ≤ 13) || n == 0x20 || n == 0x85 || n == 0xA0 || n == 0x1680 ||
    (0x2000 ≤ n && n ≤ 0x200A) || n == 0x2028 || n == 0x2029 || n == 0x202F || n == 0x205F ||
    n == 0x3000

/-- Drop the blanks in front. -/
def trimLeft (cs : List Char) : List Char :=
  cs.dropWhile isBlank

/-- Drop the blanks at the end. -/
def trimRight (cs : List Char) : List Char :=
  (cs.reverse.dropWhile isBlank).reverse

/-- Drop the blanks at both ends. -/
def trim (cs : List Char) : List Char :=
  trimRight (trimLeft cs)

/-- A string without the blanks at its ends. -/
def trimmed (s : String) : String :=
  String.ofList (trim s.toList)

/-- The maximal runs of non-blank characters, in order. -/
def words (cs : List Char) : List (List Char) :=
  (cs.splitOnP isBlank).filter (!·.isEmpty)

/-- Every `A` to `Z` in lower case, all else unchanged. -/
def asciiLower (cs : List Char) : List Char :=
  cs.map Char.toLower

/-- A string with every `A` to `Z` in lower case. -/
def asciiLowered (s : String) : String :=
  String.ofList (asciiLower s.toList)

/-- What follows `lead` in `cs`, when `cs` starts with it. -/
def after? : (lead cs : List Char) → Option (List Char)
  | [], cs => some cs
  | _ :: _, [] => none
  | l :: lead, c :: cs => if l = c then after? lead cs else none

/-- What precedes `tail` in `cs`, when `cs` ends with it. -/
def before? (tail cs : List Char) : Option (List Char) :=
  (after? tail.reverse cs.reverse).map List.reverse

/-- The text before the first character satisfying `p`, and the text from it
on. -/
def breakAt (p : Char → Bool) (cs : List Char) : List Char × List Char :=
  (cs.takeWhile (!p ·), cs.dropWhile (!p ·))

/-- The number of bytes of the UTF-8 form. -/
def byteLength (cs : List Char) : Nat :=
  cs.foldl (fun size c => size + c.utf8Size) 0

/-- Whether `needle` stands somewhere in `cs`. -/
def occursIn (needle : List Char) : List Char → Bool
  | [] => needle.isEmpty
  | c :: cs => needle.isPrefixOf (c :: cs) || occursIn needle cs

/-- `cs` filled up with blanks on the right to `width` characters. -/
def padRight (width : Nat) (cs : List Char) : List Char :=
  cs ++ List.replicate (width - cs.length) ' '

/-! ### Laws of cutting -/

/-- What comes after a removed lead, put back, is the whole. -/
theorem after?_eq_some_iff {lead cs rest : List Char} :
    after? lead cs = some rest ↔ cs = lead ++ rest := by
  induction lead generalizing cs with
  | nil => simp [after?, eq_comm]
  | cons l lead ih =>
    cases cs with
    | nil => simp [after?]
    | cons c cs =>
      by_cases h : l = c
      · subst h; simp [after?, ih]
      · simp [after?, h, Ne.symm h]

theorem before?_eq_some_iff {tail cs rest : List Char} :
    before? tail cs = some rest ↔ cs = rest ++ tail := by
  simp only [before?, Option.map_eq_some_iff, after?_eq_some_iff]
  constructor
  · rintro ⟨u, hu, rfl⟩
    rw [← List.reverse_reverse cs, hu]
    simp
  · rintro rfl
    exact ⟨rest.reverse, by simp, by simp⟩

/-- No piece of a cut text holds a character that it is cut at. -/
theorem not_of_mem_splitOnP {p : Char → Bool} {cs w : List Char} (h : w ∈ cs.splitOnP p) :
    ∀ c ∈ w, p c = false := by
  induction cs generalizing w with
  | nil => simp at h; simp [h]
  | cons a cs ih =>
    rw [List.splitOnP_cons_eq_if_modifyHead] at h
    by_cases ha : p a
    · simp [ha] at h
      rcases h with rfl | h
      · simp
      · exact ih h
    · simp only [ha] at h
      cases hs : cs.splitOnP p with
      | nil => simp [hs] at h
      | cons v vs =>
        simp [hs] at h
        rcases h with rfl | h
        · intro c hc
          rcases List.mem_cons.1 hc with rfl | hc
          · simpa using ha
          · exact ih (by simp [hs]) c hc
        · exact ih (by simp [hs, h])

/-- No word holds a blank. -/
theorem not_isBlank_of_mem_words {cs w : List Char} (h : w ∈ words cs) :
    ∀ c ∈ w, isBlank c = false :=
  not_of_mem_splitOnP (List.mem_filter.1 h).1

end BookmarkViews.Text
