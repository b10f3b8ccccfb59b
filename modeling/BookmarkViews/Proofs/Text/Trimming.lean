import BookmarkViews.Text.Blank
import Mathlib.Data.List.TakeWhile

/-!
What trimming leaves of a text.

Only blanks are trimmed (`trimRight_append_blanks`), and trimming twice is trimming once
(`trim_trim`). `Solid` texts have no blank at all. `Tight` texts, those with no blank at
either end, are left alone (`tight_iff_trim_eq`), and a word in front of a text keeps its
place (`trim_word_append`).
-/

namespace BookmarkViews.Text

/-! ### Blanks at one end -/

/-- Nothing is trimmed on the left exactly when no blank stands there. -/
theorem trimLeft_eq_self_iff {cs : List Char} :
    trimLeft cs = cs ↔ ∀ c ∈ cs.head?, isBlank c = false := by
  rw [trimLeft, List.dropWhile_eq_self_iff]
  cases cs <;> simp

theorem not_isBlank_head_trimLeft (cs : List Char) :
    ∀ c ∈ (trimLeft cs).head?, isBlank c = false := by
  intro c mem
  have first := List.head?_dropWhile_not isBlank cs
  rw [← trimLeft, Option.mem_def.mp mem] at first
  exact first

/-- Trimming on the right is trimming the reversed text on the left. -/
theorem trimRight_eq (cs : List Char) : trimRight cs = (trimLeft cs.reverse).reverse :=
  rfl

/-- Nothing is trimmed on the right exactly when no blank stands there. -/
theorem trimRight_eq_self_iff {cs : List Char} :
    trimRight cs = cs ↔ ∀ c ∈ cs.getLast?, isBlank c = false := by
  rw [trimRight_eq, List.reverse_eq_iff, trimLeft_eq_self_iff, List.head?_reverse]

theorem not_isBlank_getLast_trimRight (cs : List Char) :
    ∀ c ∈ (trimRight cs).getLast?, isBlank c = false := by
  rw [trimRight_eq, List.getLast?_reverse]
  exact not_isBlank_head_trimLeft _

/-- What is trimmed on the right is a run of blanks. -/
theorem trimRight_append_blanks (cs : List Char) :
    ∃ blanks, cs = trimRight cs ++ blanks ∧ ∀ c ∈ blanks, isBlank c = true := by
  refine ⟨(cs.reverse.takeWhile isBlank).reverse, ?_, ?_⟩
  · rw [trimRight, ← List.reverse_append, List.takeWhile_append_dropWhile, List.reverse_reverse]
  · intro c hc
    exact (List.all_eq_true.1 List.all_takeWhile) c (List.mem_reverse.1 hc)

/-- A text without a blank in front keeps that property when trimmed on the
right. -/
theorem trimLeft_trimRight {cs : List Char} (h : ∀ c ∈ cs.head?, isBlank c = false) :
    trimLeft (trimRight cs) = trimRight cs := by
  refine trimLeft_eq_self_iff.mpr fun c mem => h c ?_
  obtain ⟨blanks, eq, -⟩ := trimRight_append_blanks cs
  rw [eq]
  cases kept : trimRight cs with
  | nil => simp [kept] at mem
  | cons d ds => simpa [kept] using mem

/-! ### Blanks at both ends -/

/-- A text without blanks. -/
def Solid (cs : List Char) : Prop :=
  ∀ c ∈ cs, isBlank c = false

instance : DecidablePred Solid := fun cs =>
  decidable_of_iff (cs.all (!isBlank ·) = true) (by simp [Solid])

/-- Trimming drops characters and adds none. -/
theorem trim_sublist (cs : List Char) : (trim cs).Sublist cs := by
  have right : (trim cs).Sublist (trimLeft cs) := by
    have := (List.dropWhile_sublist isBlank (l := (trimLeft cs).reverse)).reverse
    rwa [List.reverse_reverse] at this
  exact right.trans (List.dropWhile_sublist isBlank)

/-- A text with no blank at either end. -/
structure Tight (cs : List Char) : Prop where
  first : ∀ c ∈ cs.head?, isBlank c = false
  last : ∀ c ∈ cs.getLast?, isBlank c = false

theorem tight_trim (cs : List Char) : Tight (trim cs) where
  first := by
    rw [trim, ← trimLeft_trimRight (not_isBlank_head_trimLeft cs)]
    exact not_isBlank_head_trimLeft _
  last := not_isBlank_getLast_trimRight _

/-- **A tight text is what trimming leaves of it**, and nothing else is. -/
theorem tight_iff_trim_eq {cs : List Char} : Tight cs ↔ trim cs = cs := by
  constructor
  · intro h
    rw [trim, trimLeft_eq_self_iff.mpr h.first, trimRight_eq_self_iff.mpr h.last]
  · intro h
    rw [← h]
    exact tight_trim cs

theorem Tight.trim_eq {cs : List Char} (h : Tight cs) : trim cs = cs :=
  tight_iff_trim_eq.mp h

@[simp] theorem trim_trim (cs : List Char) : trim (trim cs) = trim cs :=
  (tight_trim cs).trim_eq

/-- A text without blanks is tight. -/
theorem tight_of_solid {cs : List Char} (solid : Solid cs) : Tight cs where
  first c mem := solid c (List.mem_of_mem_head? mem)
  last c mem := solid c (List.mem_of_getLast? mem)

/-- A text between two tight ones is tight with them. -/
theorem Tight.append {cs ds : List Char} (h : Tight cs) (mid : List Char) (h' : Tight ds)
    (nonempty : cs ≠ []) (nonempty' : ds ≠ []) : Tight (cs ++ mid ++ ds) where
  first c mem := by
    rw [List.append_assoc, List.head?_append, List.head?_eq_some_head nonempty,
      Option.some_or] at mem
    exact h.first c (List.head?_eq_some_head nonempty ▸ mem)
  last c mem := by
    rw [List.getLast?_append, List.getLast?_eq_some_getLast nonempty', Option.some_or] at mem
    exact h'.last c (List.getLast?_eq_some_getLast nonempty' ▸ mem)

/-- A text between two characters that are not blank is tight. -/
theorem tight_between {a b : Char} (cs : List Char) (ha : isBlank a = false)
    (hb : isBlank b = false) : Tight (a :: (cs ++ [b])) :=
  (tight_of_solid (List.forall_mem_singleton.mpr ha)).append cs
    (tight_of_solid (List.forall_mem_singleton.mpr hb)) (List.cons_ne_nil a []) (List.cons_ne_nil b [])

/-- Blanks in front of a text do not count. -/
theorem trim_blanks_append {blanks : List Char} (blank : ∀ c ∈ blanks, isBlank c = true)
    (cs : List Char) : trim (blanks ++ cs) = trim cs := by
  rw [trim, trimLeft, List.dropWhile_append_of_pos blank]
  rfl

/-- Blanks behind a text do not count. -/
theorem trim_append_blanks {blanks : List Char} (blank : ∀ c ∈ blanks, isBlank c = true)
    (cs : List Char) : trim (cs ++ blanks) = trim cs := by
  have right (ds : List Char) : trimRight (ds ++ blanks) = trimRight ds := by
    rw [trimRight, List.reverse_append, List.dropWhile_append_of_pos]
    · rfl
    · exact fun c mem => blank c (List.mem_reverse.mp mem)
  rw [trim, trim, trimLeft, trimLeft, List.dropWhile_append]
  split
  · next nothing => rw [List.isEmpty_iff.mp nothing, List.dropWhile_eq_nil_iff.mpr blank]
  · exact right _

/-- A text that does not start with a blank keeps its first character. -/
theorem head?_trim {c : Char} (h : isBlank c = false) (cs : List Char) :
    (trim (c :: cs)).head? = some c := by
  have left : trimLeft (c :: cs) = c :: cs := trimLeft_eq_self_iff.mpr (by simpa using h)
  obtain ⟨blanks, eq, blank⟩ := trimRight_append_blanks (c :: cs)
  rw [trim, left]
  cases kept : trimRight (c :: cs) with
  | nil =>
    rw [kept, List.nil_append] at eq
    have first : isBlank c = true := blank c (eq ▸ List.mem_cons_self)
    exact absurd first (by simp [h])
  | cons d ds =>
    rw [kept, List.cons_append, List.cons.injEq] at eq
    rw [List.head?_cons, eq.1]

/-- **A word in front keeps its place.** What trimming leaves behind it is nothing or
starts with a blank, and is the rest up to the blanks around it. -/
theorem trim_word_append {word : List Char} (solid : Solid word) (nonempty : word ≠ [])
    (rest : List Char) :
    ∃ tail, trim (word ++ ' ' :: rest) = word ++ tail ∧ (∀ c ∈ tail.head?, isBlank c = true) ∧
      trim tail = trim rest := by
  have left : trimLeft (word ++ ' ' :: rest) = word ++ ' ' :: rest := by
    refine trimLeft_eq_self_iff.mpr fun c mem => solid c ?_
    rw [List.head?_append, List.head?_eq_some_head nonempty, Option.some_or] at mem
    exact Option.mem_some.mp mem ▸ List.head_mem nonempty
  obtain ⟨blanks, eq, blank⟩ := trimRight_append_blanks (word ++ ' ' :: rest)
  rw [trim, left]
  have space : ∀ c ∈ [' '], isBlank c = true := List.forall_mem_singleton.mpr rfl
  have spaced : trim (' ' :: rest) = trim rest := trim_blanks_append space rest
  rcases List.append_eq_append_iff.mp eq with ⟨tail, kept, behind⟩ | ⟨cut, kept, behind⟩
  · refine ⟨tail, kept, ?_, ?_⟩
    · cases tail with
      | nil => simp
      | cons c tail =>
        obtain ⟨rfl, -⟩ := List.cons.inj behind
        simp [isBlank]
    · rw [← spaced, behind, trim_append_blanks blank]
  · -- The blanks at the end would reach into the word.
    have uncut : cut = [] := by
      refine List.eq_nil_iff_forall_not_mem.mpr fun c mem => ?_
      have inWord := solid c (kept ▸ List.mem_append_right _ mem)
      have inBlanks := blank c (behind ▸ List.mem_append_left _ mem)
      exact absurd inBlanks (by simp [inWord])
    rw [uncut, List.nil_append] at behind
    rw [uncut, List.append_nil] at kept
    refine ⟨[], by rw [List.append_nil, ← kept], by simp, ?_⟩
    rw [← spaced, ← behind]
    exact (trim_append_blanks blank []).symm

/-! ### Words -/

/-- The pieces of a cut text are made of its characters. -/
theorem sublist_of_mem_splitOnP {p : Char → Bool} {cs w : List Char} (mem : w ∈ cs.splitOnP p) :
    w.Sublist cs := by
  induction cs generalizing w with
  | nil =>
    obtain rfl : w = [] := by simpa using mem
    exact List.Sublist.refl []
  | cons c cs ih =>
    rw [List.splitOnP_cons_eq_if_modifyHead] at mem
    split_ifs at mem with cut
    · rcases List.mem_cons.mp mem with rfl | later
      · exact List.nil_sublist _
      · exact (ih later).cons c
    · cases pieces : cs.splitOnP p with
      | nil => simp [pieces] at mem
      | cons first rest =>
        rw [pieces, List.modifyHead_cons] at mem
        rcases List.mem_cons.mp mem with rfl | later
        · exact (ih (pieces ▸ List.mem_cons_self)).cons_cons c
        · exact (ih (pieces ▸ List.mem_cons_of_mem first later)).cons c

theorem sublist_of_mem_words {cs word : List Char} (mem : word ∈ words cs) : word.Sublist cs :=
  sublist_of_mem_splitOnP (List.mem_filter.mp mem).1

/-- **Words split at a blank.** -/
theorem words_append_blank {c : Char} (blank : isBlank c = true) (cs ds : List Char) :
    words (cs ++ c :: ds) = words cs ++ words ds := by
  rw [words, words, words, List.splitOnP_append_cons cs ds blank, List.filter_append]

/-- Blanks in front of a text make no word. -/
theorem words_blanks_append {blanks : List Char} (blank : ∀ c ∈ blanks, isBlank c = true)
    (cs : List Char) : words (blanks ++ cs) = words cs := by
  induction blanks with
  | nil => rfl
  | cons c blanks ih =>
    obtain ⟨first, later⟩ := List.forall_mem_cons.mp blank
    exact (words_append_blank first [] (blanks ++ cs)).trans (ih later)

/-- Blanks behind a text make no word. -/
theorem words_append_blanks {blanks : List Char} (blank : ∀ c ∈ blanks, isBlank c = true)
    (cs : List Char) : words (cs ++ blanks) = words cs := by
  cases blanks with
  | nil => rw [List.append_nil]
  | cons c blanks =>
    obtain ⟨first, later⟩ := List.forall_mem_cons.mp blank
    have none : words blanks = [] := by simpa [words] using words_blanks_append later []
    rw [words_append_blank first, none, List.append_nil]

/-- Trimming takes blanks away at both ends. -/
theorem exists_blanks_around (cs : List Char) : ∃ front back, cs = front ++ trim cs ++ back ∧
    (∀ c ∈ front, isBlank c = true) ∧ ∀ c ∈ back, isBlank c = true := by
  obtain ⟨back, left, blank⟩ := trimRight_append_blanks (trimLeft cs)
  refine ⟨cs.takeWhile isBlank, back, ?_, List.all_eq_true.mp List.all_takeWhile, blank⟩
  rw [trim, List.append_assoc, ← left, trimLeft, List.takeWhile_append_dropWhile]

/-- What follows a text without a separator belongs to its last piece. -/
theorem splitOn_append_of_notMem {x : Char} {ds : List Char} (notMem : x ∉ ds) (cs : List Char) :
    ∃ init last, cs.splitOn x = init ++ [last] ∧ (cs ++ ds).splitOn x = init ++ [last ++ ds] := by
  simp only [List.splitOn_eq_splitOnP]
  induction cs with
  | nil =>
    refine ⟨[], [], List.splitOnP_nil, ?_⟩
    exact List.splitOnP_eq_singleton fun c mem => beq_false_of_ne (ne_of_mem_of_not_mem mem notMem)
  | cons c cs ih =>
    obtain ⟨init, last, before, after⟩ := ih
    rw [List.cons_append, List.splitOnP_cons_eq_if_modifyHead,
      List.splitOnP_cons_eq_if_modifyHead, before, after]
    split_ifs
    · exact ⟨[] :: init, last, rfl, rfl⟩
    · cases init with
      | nil => exact ⟨[], c :: last, rfl, rfl⟩
      | cons first init => exact ⟨(c :: first) :: init, last, rfl, rfl⟩

/-- Trimming a text does not change the words of its pieces. -/
theorem map_words_splitOn_trim {x : Char} (plain : isBlank x = false) (cs : List Char) :
    ((trim cs).splitOn x).map words = (cs.splitOn x).map words := by
  obtain ⟨front, back, around, blankFront, blankBack⟩ := exists_blanks_around cs
  have notMem : x ∉ back := fun mem => by simp [blankBack x mem] at plain
  have before (front : List Char) (blank : ∀ c ∈ front, isBlank c = true) (ds : List Char) :
      ((front ++ ds).splitOn x).map words = (ds.splitOn x).map words := by
    simp only [List.splitOn_eq_splitOnP]
    induction front with
    | nil => rfl
    | cons c front ih =>
      obtain ⟨first, later⟩ := List.forall_mem_cons.mp blank
      have other : (c == x) = false := by
        apply beq_false_of_ne
        rintro rfl
        exact nomatch plain.symm.trans first
      rw [← ih later, List.cons_append, List.splitOnP_cons_eq_if_modifyHead, other]
      cases (front ++ ds).splitOnP (· == x) with
      | nil => rfl
      | cons piece rest =>
        have same : words (c :: piece) = words piece := words_append_blank first [] piece
        simp [same]
  obtain ⟨init, last, inner, outer⟩ := splitOn_append_of_notMem notMem (front ++ trim cs)
  rw [← around] at outer
  rw [← before front blankFront, inner, outer]
  simp [words_append_blanks blankBack]

/-- A text without blanks is one word. -/
theorem words_of_solid {word : List Char} (solid : Solid word) (nonempty : word ≠ []) :
    words word = [word] := by
  rw [words, List.splitOnP_eq_singleton solid]
  simp [nonempty]

end BookmarkViews.Text
