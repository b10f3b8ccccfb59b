import BookmarkViews.Proofs.Time.Calendar
import BookmarkViews.Time.Instant

/-!
Days and dates correspond, and months follow each other without a gap.

Months are numbered through all years (`Civil.monthIndex`), so the month after December is the
next number as well.

* `startOfMonth_add_length_le`: a month ends before every later one starts;
* `Civil.dayNumber_ofDay`, `Civil.proper_ofDay`: every day has the date that is found for it;
* `Date.dayNumber_of_next?`: the next date is one day later;
* `Instant.startOfDay_atMost_iff`, `Instant.isBefore_startOfDay_iff`: the instants of a day are
  those from its start to the start of the next one.
-/

namespace BookmarkViews

namespace Calendar

/-! ### Months in a row -/

/-- The length of the month with this number. -/
def lengthOfMonth (index : Int) : Nat :=
  monthLength (index / 12) ((index % 12).toNat + 1)

/-- The days from the start of year 1 to the start of the month with this number. -/
def startOfMonth (index : Int) : Int :=
  daysBeforeYear (index / 12) + daysBeforeMonth (index / 12) ((index % 12).toNat + 1)

theorem length_monthLengths (year : Int) : (monthLengths year).length = 12 :=
  rfl

/-- No month is empty. -/
theorem monthLength_pos {year : Int} {month : Nat} (first : 1 ≤ month)
    (last : month ≤ 12) : 1 ≤ monthLength year month := by
  have each : ∀ length ∈ monthLengths year, 1 ≤ length := by
    unfold monthLengths
    split_ifs <;> decide
  have inYear : month - 1 < (monthLengths year).length := by
    rw [length_monthLengths]
    omega
  rw [monthLength, List.getD_eq_getElem _ _ inYear]
  exact each _ (List.getElem_mem inYear)

theorem lengthOfMonth_pos (index : Int) : 1 ≤ lengthOfMonth index :=
  monthLength_pos (Nat.le_add_left _ _) (by omega)

/-- The days before a month and those of the month come before the next one. -/
theorem sum_take_month (year : Int) {index : Nat} (h : index < 12) :
    ((monthLengths year).take (index + 1)).sum =
      ((monthLengths year).take index).sum + (monthLengths year).getD index 0 := by
  rw [List.sum_take_succ _ _ h, List.getD_eq_getElem _ _ h]

/-- **A month ends where the next one starts**, also at the end of a year. -/
theorem startOfMonth_succ (index : Int) :
    startOfMonth (index + 1) = startOfMonth index + lengthOfMonth index := by
  have whole := sum_take_month (index / 12) (by omega : (index % 12).toNat < 12)
  rcases (by omega : (index % 12).toNat < 11 ∨ (index % 12).toNat = 11) with inside | december
  · have year : (index + 1) / 12 = index / 12 := by omega
    have month : ((index + 1) % 12).toNat = (index % 12).toNat + 1 := by omega
    rw [startOfMonth, startOfMonth, lengthOfMonth, year, month, daysBeforeMonth_eq_sum,
      daysBeforeMonth_eq_sum, monthLength, Nat.add_sub_cancel, Nat.add_sub_cancel, whole]
    omega
  · have year : (index + 1) / 12 = index / 12 + 1 := by omega
    have month : ((index + 1) % 12).toNat = 0 := by omega
    have all : (monthLengths (index / 12)).take (11 + 1) = monthLengths (index / 12) :=
      List.take_of_length_le (length_monthLengths _).le
    rw [december, all, ← yearLength] at whole
    rw [startOfMonth, startOfMonth, lengthOfMonth, year, month, december, daysBeforeYear_succ,
      daysBeforeMonth_eq_sum, daysBeforeMonth_eq_sum, monthLength, whole]
    simp
    omega

/-- **A month ends before every later one starts.** -/
theorem startOfMonth_add_length_le {index later : Int} (h : index < later) :
    startOfMonth index + lengthOfMonth index ≤ startOfMonth later := by
  induction later, h using Int.leInduction with
  | base => exact (startOfMonth_succ index).ge
  | succ later _ ih =>
    have next := startOfMonth_succ later
    omega

/-! ### The date of a day -/

/-- Every day lies in a year. -/
theorem exists_year (n : Int) : ∃ year, daysBeforeYear year ≤ n ∧ n < daysBeforeYear (year + 1) := by
  have low : daysBeforeYear (n * 400 / 146097 + 1) ≤ n := by
    rw [daysBeforeYear_eq]
    omega
  have high : n < daysBeforeYear (n * 400 / 146097 + 1 + 1 + 1) := by
    rw [daysBeforeYear_eq]
    omega
  rcases lt_or_ge n (daysBeforeYear (n * 400 / 146097 + 1 + 1)) with inside | later
  · exact ⟨_, low, inside⟩
  · exact ⟨_, later, high⟩

/-- Every day of a year lies in a month. -/
theorem exists_month {lengths : List Nat} {n : Nat} (h : n < lengths.sum) :
    ∃ index day, day < lengths.getD index 0 ∧ n = (lengths.take index).sum + day := by
  induction lengths generalizing n with
  | nil => exact absurd h (Nat.not_lt_zero n)
  | cons length lengths ih =>
    rw [List.sum_cons] at h
    rcases Nat.lt_or_ge n length with first | later
    · exact ⟨0, n, first, by simp⟩
    · obtain ⟨index, day, inside, rest⟩ := ih (n := n - length) (by omega)
      refine ⟨index + 1, day, inside, ?_⟩
      rw [List.take_succ_cons, List.sum_cons]
      omega

end Calendar

open Calendar

namespace Civil

/-- The number of a date, the first of January 1970 being 0. -/
def dayNumber (c : Civil) : Int :=
  Calendar.dayNumber c.year c.month c.day

/-- The number of the month of a date. -/
def monthIndex (c : Civil) : Int :=
  c.year * 12 + (c.month - 1 : Nat)

/-- A day of one of the months, of any year. -/
structure Proper (c : Civil) : Prop where
  month_pos : 1 ≤ c.month
  month_le : c.month ≤ 12
  day_pos : 1 ≤ c.day
  day_le : c.day ≤ monthLength c.year c.month

namespace Proper

variable {c : Civil}

theorem monthIndex_div (h : c.Proper) : c.monthIndex / 12 = c.year := by
  have := h.month_le
  rw [monthIndex]
  omega

theorem monthIndex_mod (h : c.Proper) : (c.monthIndex % 12).toNat + 1 = c.month := by
  have := h.month_pos
  have := h.month_le
  rw [monthIndex]
  omega

/-- A date is counted from the start of its month. -/
theorem dayNumber_eq (h : c.Proper) :
    c.dayNumber = startOfMonth c.monthIndex + c.day - 1 - epoch := by
  rw [startOfMonth, h.monthIndex_div, h.monthIndex_mod]
  rfl

theorem lengthOfMonth_eq (h : c.Proper) :
    lengthOfMonth c.monthIndex = monthLength c.year c.month := by
  rw [lengthOfMonth, h.monthIndex_div, h.monthIndex_mod]

end Proper

/-- Every day has a date. -/
theorem exists_proper (n : Int) : ∃ c : Civil, c.Proper ∧ c.dayNumber = n := by
  obtain ⟨year, low, high⟩ := exists_year (n + epoch)
  rw [daysBeforeYear_succ] at high
  have inYear : (n + epoch - daysBeforeYear year).toNat < (monthLengths year).sum := by
    rw [← yearLength]
    omega
  obtain ⟨index, day, inside, split⟩ := exists_month inYear
  have month : index < 12 := by
    by_contra beyond
    rw [List.getD_eq_default _ _ (Nat.le_of_not_lt beyond)] at inside
    exact absurd inside (Nat.not_lt_zero day)
  refine ⟨⟨year, index + 1, day + 1⟩, ⟨Nat.le_add_left _ _, month, Nat.le_add_left _ _, inside⟩, ?_⟩
  rw [dayNumber, Calendar.dayNumber, daysBeforeMonth_eq_sum, Nat.add_sub_cancel]
  dsimp only
  omega

/-- **The date that is found for a day is a date, and that of the day.** -/
theorem ofDay_spec (n : Int) : (ofDay n).Proper ∧ (ofDay n).dayNumber = n := by
  obtain ⟨c, proper, rfl⟩ := exists_proper n
  have found : ofDay c.dayNumber = c :=
    ofDay_dayNumber_of_le proper.month_pos proper.day_pos proper.day_le
  rw [found]
  exact ⟨proper, rfl⟩

theorem proper_ofDay (n : Int) : (ofDay n).Proper :=
  (ofDay_spec n).1

theorem dayNumber_ofDay (n : Int) : (ofDay n).dayNumber = n :=
  (ofDay_spec n).2

end Civil

/-! ### Next dates -/

/-- The first day of a month follows the last day of the month before. -/
theorem Civil.Proper.dayNumber_next_month {c e : Civil} (h : c.Proper) (h' : e.Proper)
    (last : c.day = monthLength c.year c.month) (first : e.day = 1)
    (next : e.monthIndex = c.monthIndex + 1) : e.dayNumber = c.dayNumber + 1 := by
  rw [h.dayNumber_eq, h'.dayNumber_eq, next, startOfMonth_succ, h.lengthOfMonth_eq, last, first]
  omega

namespace Date

/-- Year, month and day of a date. -/
def civil (d : Date) : Civil :=
  ⟨d.year, d.month, d.day⟩

theorem dayNumber_civil (d : Date) : d.civil.dayNumber = d.dayNumber :=
  rfl

theorem proper_civil (d : Date) : d.civil.Proper := by
  have valid := d.valid
  simp only [isDate, Bool.and_eq_true, decide_eq_true_eq] at valid
  obtain ⟨⟨⟨⟨_, first⟩, last⟩, low⟩, high⟩ := valid
  exact ⟨first, last, low, high⟩

/-- The next date: on the next day of the month, or else on the first of the next month, or
else on the first of the next year. -/
def next? (d : Date) : Option Date :=
  (of? d.year d.month (d.day + 1)).or <|
    (of? d.year (d.month + 1) 1).or (of? (d.year + 1) 1 1)

theorem of?_eq_none_iff {year : Int} {month day : Nat} :
    of? year month day = none ↔ isDate year month day = false := by
  unfold of?
  split_ifs with valid <;> simp [valid]

section Ends

variable {d : Date}

/-- Only the last day of a month is not followed in the month. -/
theorem day_of_ended (ended : isDate d.year d.month (d.day + 1) = false) :
    d.day = monthLength d.year d.month := by
  have valid := d.valid
  simp only [isDate, Bool.and_eq_true, decide_eq_true_eq] at valid
  have noLonger : ¬ d.day + 1 ≤ monthLength d.year d.month := fun longer => by
    simp [isDate, valid, longer] at ended
  omega

/-- Only the last month of a year is not followed in the year. -/
theorem month_of_ended (ended : isDate d.year (d.month + 1) 1 = false) : d.month = 12 := by
  have valid := d.valid
  simp only [isDate, Bool.and_eq_true, decide_eq_true_eq] at valid
  have noLater : ¬ d.month + 1 ≤ 12 := fun later => by
    have nonempty : 1 ≤ monthLength d.year (d.month + 1) :=
      monthLength_pos (Nat.le_add_left _ _) later
    simp [isDate, valid, later, nonempty] at ended
  omega

end Ends

/-- **The next date is one day later.** -/
theorem dayNumber_of_next? {d e : Date} (h : d.next? = some e) :
    e.dayNumber = d.dayNumber + 1 := by
  rw [next?, Option.or_eq_some_iff, Option.or_eq_some_iff, of?_eq_none_iff, of?_eq_none_iff] at h
  rcases h with sameMonth | ⟨ended, nextMonth⟩
  · obtain ⟨year, month, day⟩ := of?_eq_some_iff.mp sameMonth
    rw [dayNumber, dayNumber, year, month, day, Calendar.dayNumber, Calendar.dayNumber]
    omega
  · have next : e.civil.day = 1 ∧ e.civil.monthIndex = d.civil.monthIndex + 1 := by
      have first : 1 ≤ d.month := d.proper_civil.month_pos
      rw [Civil.monthIndex, Civil.monthIndex]
      rcases nextMonth with inYear | ⟨yearEnded, inNextYear⟩
      · obtain ⟨year, month, day⟩ := of?_eq_some_iff.mp inYear
        refine ⟨day, ?_⟩
        rw [civil, civil, year, month]
        dsimp only
        omega
      · obtain ⟨year, month, day⟩ := of?_eq_some_iff.mp inNextYear
        refine ⟨day, ?_⟩
        rw [civil, civil, year, month, month_of_ended yearEnded]
        dsimp only
        omega
    rw [← dayNumber_civil, ← dayNumber_civil]
    exact d.proper_civil.dayNumber_next_month e.proper_civil (day_of_ended ended) next.1 next.2

end Date

/-! ### Days and instants -/

namespace Instant

variable {a b t : Instant} {n : Int}

instance : Std.TransCmp Instant.compare :=
  inferInstanceAs (Std.TransCmp (compareLex (compareOn Instant.seconds)
    (compareOn Instant.nanos)))

theorem compare_eq_lt_iff :
    a.compare b = .lt ↔ a.seconds < b.seconds ∨ a.seconds = b.seconds ∧ a.nanos < b.nanos := by
  rw [compare, Ordering.then_eq_lt, compare_lt_iff_lt, compare_eq_iff_eq, compare_lt_iff_lt]

theorem isBefore_iff :
    a.isBefore b = true ↔ a.seconds < b.seconds ∨ a.seconds = b.seconds ∧ a.nanos < b.nanos := by
  rw [isBefore, beq_iff_eq, compare_eq_lt_iff]

theorem atMost_iff :
    a.atMost b = true ↔ a.seconds < b.seconds ∨ a.seconds = b.seconds ∧ a.nanos ≤ b.nanos := by
  rw [atMost, compare, Ordering.isLE_then_iff_or, compare_lt_iff_lt, compare_eq_iff_eq,
    Std.isLE_compare]

theorem atMost_trans {c : Instant} (h : a.atMost b = true) (h' : b.atMost c = true) :
    a.atMost c = true := by
  rw [atMost_iff] at h h' ⊢
  omega

/-- The start of a day comes no later than the instants of the day and of later ones. -/
theorem startOfDay_atMost_iff : (startOfDay n).atMost t = true ↔ n ≤ t.day := by
  rw [atMost_iff, startOfDay, day, daySeconds]
  dsimp only
  omega

/-- The instants before the start of a day are those of earlier days, leap seconds included. -/
theorem isBefore_startOfDay_iff : t.isBefore (startOfDay n) = true ↔ t.day < n := by
  rw [isBefore_iff, startOfDay, day, daySeconds]
  dsimp only
  omega

theorem secondOfDay_nonneg (t : Instant) : 0 ≤ t.secondOfDay :=
  Int.emod_nonneg _ (by decide)

theorem secondOfDay_lt (t : Instant) : t.secondOfDay < daySeconds :=
  Int.emod_lt_of_pos _ (by decide)

/-- An instant is its day and the second of the day. -/
theorem seconds_eq (t : Instant) : t.seconds = t.day * daySeconds + t.secondOfDay := by
  rw [day, secondOfDay, daySeconds]
  omega

end Instant

end BookmarkViews
