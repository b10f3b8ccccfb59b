import BookmarkViews.Proofs.Number.Reading
import BookmarkViews.Proofs.Text.Trimming
import BookmarkViews.Proofs.Time.Calendar
import BookmarkViews.Time.DateText

/-!
The readers of the parts of a date.

Each reader has a lemma for what it takes and one for what it reads back.

* `year?_yearText`, `leadingDate?_dateText`: years and dates are read from their own texts,
  whatever sign and length the year has;
* `leadingDate?_eq_some`: a date that is read starts with a year and a dash.
-/

namespace BookmarkViews.DateText

open Decimal

variable {cs rest : List Char} {n : Nat}

/-- A digit, or the letter of a stamp without an offset, at the end of a text. -/
def Closed (cs : List Char) : Prop :=
  ∃ c, cs.getLast? = some c ∧ (isDigit c = true ∨ c = 'Z' ∨ c = 'z')

theorem Closed.of_suffix {tail : List Char} (closed : Closed tail) (suffix : tail <:+ cs) :
    Closed cs := by
  obtain ⟨front, rfl⟩ := suffix
  obtain ⟨c, last, form⟩ := closed
  exact ⟨c, by rw [List.getLast?_append, last, Option.some_or], form⟩

theorem closed_append_numeral {ds : List Char} (front : List Char) (numeral : Numeral ds) :
    Closed (front ++ ds) := by
  obtain ⟨c, last, digit⟩ := numeral.getLast? front
  exact ⟨c, last, .inl digit⟩

/-- What a reader of a number leaves: the end of the text, and nothing only of a text
that a number ends. -/
structure Leaves (cs rest : List Char) : Prop where
  suffix : rest <:+ cs
  closed : rest = [] → Closed cs

theorem Leaves.of_suffix {tail : List Char} (leaves : Leaves tail rest) (suffix : tail <:+ cs) :
    Leaves cs rest where
  suffix := leaves.suffix.trans suffix
  closed empty := (leaves.closed empty).of_suffix suffix

theorem leaves_numeral {ds : List Char} (numeral : Numeral ds) (rest : List Char) :
    Leaves (ds ++ rest) rest where
  suffix := List.suffix_append ds rest
  closed empty := by
    rw [empty, List.append_nil, ← List.nil_append ds]
    exact closed_append_numeral [] numeral

/-! ### Marks -/

theorem mark?_cons (c : Char) (rest : List Char) : mark? c (c :: rest) = some rest :=
  Text.after?_eq_some_iff.mpr rfl

theorem mark?_eq_some {c : Char} (h : mark? c cs = some rest) : cs = c :: rest :=
  Text.after?_eq_some_iff.mp h

theorem mark?_suffix {c : Char} (h : mark? c cs = some rest) : rest <:+ cs := by
  rw [mark?_eq_some h]
  exact List.suffix_cons c rest

/-! ### Numbers of a fixed length -/

theorem digits?_padded {count : Nat} (pos : 0 < count) (fits : n < 10 ^ count) (rest : List Char) :
    digits? count (padded count n ++ rest) = some (n, rest) := by
  have size := length_padded pos fits
  have digits : (padded count n).all isDigit = true :=
    List.all_eq_true.mpr (numeral_padded count n).digits
  rw [digits?, List.take_left' size, List.drop_left' size, size, digits, ofDigits_padded]
  simp

theorem digits?_padded_last {count : Nat} (pos : 0 < count) (fits : n < 10 ^ count) :
    digits? count (padded count n) = some (n, []) := by
  rw [← digits?_padded pos fits [], List.append_nil]

/-- A number of a fixed length is that many digits. -/
theorem digits?_eq_some {count : Nat} (pos : 0 < count) (h : digits? count cs = some (n, rest)) :
    n < 10 ^ count ∧ ∃ ds, Numeral ds ∧ cs = ds ++ rest := by
  unfold digits? at h
  dsimp only at h
  split at h
  · next form =>
    simp only [Bool.and_eq_true, decide_eq_true_eq] at form
    obtain ⟨size, all⟩ := form
    have digits := List.all_eq_true.mp all
    simp only [Option.some.injEq, Prod.mk.injEq] at h
    obtain ⟨rfl, rfl⟩ := h
    have bound := ofDigits_lt digits
    rw [size] at bound
    refine ⟨bound, cs.take count, ⟨?_, digits⟩, (List.take_append_drop count cs).symm⟩
    exact List.ne_nil_of_length_pos (by omega)
  · exact nomatch h

theorem digits?_suffix {count : Nat} (pos : 0 < count) (h : digits? count cs = some (n, rest)) :
    rest <:+ cs := by
  obtain ⟨-, ds, -, rfl⟩ := digits?_eq_some pos h
  exact List.suffix_append ds rest

/-- No exact number of digits is read where something else stands in front. -/
theorem digits?_cons_of_not {count : Nat} {c : Char} (other : isDigit c = false)
    (rest : List Char) : digits? (count + 1) (c :: rest) = none := by
  rw [digits?, List.take_succ_cons, List.all_cons, other]
  simp

/-! ### Numbers of any length -/

/-- Digits are taken up to what is none. -/
theorem takeWhile_numeral {ds : List Char} (numeral : Numeral ds)
    (stop : ∀ c ∈ rest.head?, isDigit c = false) : (ds ++ rest).takeWhile isDigit = ds := by
  rw [List.takeWhile_append_of_pos numeral.digits]
  cases rest with
  | nil => exact List.append_nil ds
  | cons c rest => rw [List.takeWhile_cons_of_neg (by simp [stop c rfl]), List.append_nil]

/-- A number is read up to its greatest length or up to what is no digit. -/
theorem number?_append {most : Nat} {ds : List Char} (numeral : Numeral ds)
    (fits : ds.length ≤ most)
    (stop : ds.length = most ∨ ∀ c ∈ rest.head?, isDigit c = false) :
    number? most (ds ++ rest) = some (ofDigits ds, rest) := by
  have taken : ((ds ++ rest).take most).takeWhile isDigit = ds := by
    rw [List.take_append, List.take_of_length_le fits]
    refine takeWhile_numeral numeral fun c mem => ?_
    rcases stop with full | stop
    · rw [full, Nat.sub_self] at mem
      exact nomatch mem
    · refine stop c ?_
      cases rest with
      | nil => simp at mem
      | cons d rest =>
        cases room : most - ds.length with
        | zero => simp [room] at mem
        | succ k => simpa [room] using mem
  rw [number?, taken, List.drop_left]
  simp [numeral.nonempty]

theorem number?_eq_some {most : Nat} (h : number? most cs = some (n, rest)) :
    ∃ ds, Numeral ds ∧ cs = ds ++ rest := by
  unfold number? at h
  dsimp only at h
  split at h
  · exact nomatch h
  · next nonempty =>
    simp only [Option.some.injEq, Prod.mk.injEq] at h
    obtain ⟨-, rfl⟩ := h
    have front : (cs.take most).takeWhile isDigit <+: cs :=
      (List.takeWhile_prefix isDigit).trans (List.take_prefix most cs)
    refine ⟨(cs.take most).takeWhile isDigit, ⟨?_, ?_⟩, (List.prefix_iff_eq_append.mp front).symm⟩
    · exact fun empty => nonempty (List.isEmpty_iff.mpr empty)
    · exact List.all_eq_true.mp List.all_takeWhile

theorem trimLeft_numeral {ds : List Char} (numeral : Numeral ds) (rest : List Char) :
    Text.trimLeft (ds ++ rest) = ds ++ rest := by
  obtain ⟨c, first, digit⟩ := numeral.head? rest
  refine Text.trimLeft_eq_self_iff.mpr fun d mem => ?_
  obtain rfl := Option.some_inj.mp (first.symm.trans mem)
  exact isBlank_of_isNumberChar (isNumberChar_of_isDigit digit)

theorem short?_padded (fits : n < 10 ^ 2) (rest : List Char) :
    short? (padded 2 n ++ rest) = some (n, rest) := by
  have numeral := numeral_padded 2 n
  have size : (padded 2 n).length = 2 := length_padded (by decide) fits
  rw [short?, trimLeft_numeral numeral, number?_append numeral size.le (.inl size), ofDigits_padded]

theorem short?_padded_last (fits : n < 10 ^ 2) : short? (padded 2 n) = some (n, []) := by
  rw [← short?_padded fits [], List.append_nil]

theorem short?_eq_some (h : short? cs = some (n, rest)) : Leaves cs rest := by
  obtain ⟨ds, numeral, chars⟩ := number?_eq_some h
  have leaves := leaves_numeral numeral rest
  rw [← chars] at leaves
  exact leaves.of_suffix (List.dropWhile_suffix _)

/-! ### Years -/

/-- The characters of a year: digits, perhaps behind a sign. -/
def IsYear (ys : List Char) : Prop :=
  ∃ sign ds, sign ∈ [[], ['-'], ['+']] ∧ Numeral ds ∧ ys = sign ++ ds

/-- A year without a sign is read as four digits. -/
theorem year?_of_digits {ds : List Char} (numeral : Numeral ds) (size : ds.length = 4)
    (rest : List Char) : year? (ds ++ rest) = some ((ofDigits ds : Int), rest) := by
  obtain ⟨c, first, digit⟩ := numeral.head? rest
  have unsigned {d : Char} (other : isDigit d = false) : (ds ++ rest).head? ≠ some d := by
    intro same
    obtain rfl := Option.some_inj.mp (first.symm.trans same)
    exact absurd digit (by simp [other])
  rw [year?, trimLeft_numeral numeral]
  split
  · next sign => exact absurd (by rw [sign]; rfl) (unsigned (d := '-') (by decide))
  · next sign => exact absurd (by rw [sign]; rfl) (unsigned (d := '+') (by decide))
  · rw [number?_append numeral size.le (.inl size), Option.map_some]

/-- A year behind a sign is read up to the dash that follows it. -/
theorem year?_of_sign {ds : List Char} (numeral : Numeral ds) (rest : List Char) :
    year? ('-' :: (ds ++ '-' :: rest)) = some (-(ofDigits ds : Int), '-' :: rest) ∧
      year? ('+' :: (ds ++ '-' :: rest)) = some ((ofDigits ds : Int), '-' :: rest) := by
  have number : number? (ds ++ '-' :: rest).length (ds ++ '-' :: rest) =
      some (ofDigits ds, '-' :: rest) :=
    number?_append numeral (by simp) (.inr (by simp [isDigit]))
  constructor
  · change (number? (ds ++ '-' :: rest).length (ds ++ '-' :: rest)).map _ = _
    rw [number]
    rfl
  · change (number? (ds ++ '-' :: rest).length (ds ++ '-' :: rest)).map _ = _
    rw [number]
    rfl

/-- **A year is read from its own text.** -/
theorem year?_yearText (year : Int) (rest : List Char) :
    year? (Instant.yearText year ++ '-' :: rest) = some (year, '-' :: rest) := by
  have numeral := numeral_padded 4 year.natAbs
  unfold Instant.yearText
  split
  · next bounds =>
    simp only [Bool.and_eq_true, decide_eq_true_eq] at bounds
    have size : (padded 4 year.natAbs).length = 4 := length_padded (by decide) (by omega)
    have same : (year.natAbs : Int) = year := by omega
    rw [year?_of_digits numeral size, ofDigits_padded, same]
  · obtain ⟨minus, plus⟩ := year?_of_sign numeral rest
    rw [ofDigits_padded] at minus plus
    by_cases negative : year < 0
    · have same : -(year.natAbs : Int) = year := by omega
      rw [if_pos negative, List.cons_append, minus, same]
    · have same : (year.natAbs : Int) = year := by omega
      rw [if_neg negative, List.cons_append, plus, same]

theorem year?_eq_some {year : Int} (h : year? cs = some (year, rest)) :
    ∃ ys, IsYear ys ∧ Text.trimLeft cs = ys ++ rest := by
  have numeral {most : Nat} {cs : List Char} {f : Nat × List Char → Int × List Char}
      (kept : ∀ n rest, (f (n, rest)).2 = rest)
      (h : (number? most cs).map f = some (year, rest)) : ∃ ds, Numeral ds ∧ cs = ds ++ rest := by
    obtain ⟨⟨n, tail⟩, read, same⟩ := Option.map_eq_some_iff.mp h
    have := kept n tail
    rw [same] at this
    subst this
    exact number?_eq_some read
  unfold year? at h
  split at h
  · next tail chars =>
    obtain ⟨ds, numeral, rfl⟩ := numeral (fun _ _ => rfl) h
    exact ⟨'-' :: ds, ⟨['-'], ds, by simp, numeral, rfl⟩, chars⟩
  · next tail chars =>
    obtain ⟨ds, numeral, rfl⟩ := numeral (fun _ _ => rfl) h
    exact ⟨'+' :: ds, ⟨['+'], ds, by simp, numeral, rfl⟩, chars⟩
  · obtain ⟨ds, numeral, chars⟩ := numeral (fun _ _ => rfl) h
    exact ⟨ds, ⟨[], ds, by simp, numeral, rfl⟩, chars⟩

/-! ### Dates -/

/-- **A date is read from its own text.** -/
theorem leadingDate?_dateText (d : Date) (rest : List Char) :
    leadingDate? (Instant.dateText d.year d.month d.day ++ rest) = some (d, rest) := by
  obtain ⟨month, day⟩ := d.two_digits
  have real : Date.of? d.year d.month d.day = some d := Date.of?_eq_some_iff.mpr ⟨rfl, rfl, rfl⟩
  rw [leadingDate?, Instant.dateText, List.append_assoc, List.append_assoc, List.cons_append,
    year?_yearText]
  simp only [Option.bind_eq_bind, Option.bind_some, mark?_cons, List.cons_append,
    short?_padded month, short?_padded day, real]

/-- **A date that is read starts with a year and a dash**, and a number ends it. -/
theorem leadingDate?_eq_some {d : Date} (h : leadingDate? cs = some (d, rest)) :
    ∃ ys tail, IsYear ys ∧ Text.trimLeft cs = ys ++ '-' :: tail ∧ Leaves tail rest := by
  simp only [leadingDate?, Option.bind_eq_bind, Option.bind_eq_some_iff, Prod.exists,
    Option.some.injEq, Prod.mk.injEq] at h
  obtain ⟨_, _, year, _, dash, _, _, month, _, dash', _, _, day, _, -, -, rfl⟩ := h
  obtain ⟨ys, isYear, chars⟩ := year?_eq_some year
  rw [mark?_eq_some dash] at chars
  exact ⟨ys, _, isYear, chars, (short?_eq_some day).of_suffix <|
    (mark?_suffix dash').trans (short?_eq_some month).suffix⟩

end BookmarkViews.DateText
