import BookmarkViews.Condition.Holds
import BookmarkViews.Pattern.Standard
import BookmarkViews.Proofs.Time.DayCount

/-!
The window of a longer span reaches further back.

Going back in time is a count that falls, cut off at the earliest instant
(`Instant.orEarliest`), and the cut keeps the order. Months are compared by their numbers, so
the clamped day of the month matters only between equal numbers of months.

* `Span.secondsBefore_antitone`, `Span.monthsBefore_antitone`: more seconds or months lead no
  less far back;
* `Span.before_antitone`: a longer window contains a shorter one.
-/

namespace BookmarkViews

open Calendar

/-! ### The earliest instant -/

namespace Instant

variable {a b t : Instant}

/-- An instant, or the earliest one where there is no such instant. -/
def orEarliest (t : Instant) : Instant :=
  if t.seconds < earliestSeconds then earliest else t

theorem orEarliest_atMost (le : a.atMost b = true) (h : earliestSeconds ≤ b.seconds) :
    a.orEarliest.atMost b = true := by
  unfold orEarliest
  split_ifs
  · rw [atMost_iff, earliest]
    dsimp only
    omega
  · exact le

/-- The cut at the earliest instant keeps the order. -/
theorem orEarliest_mono (le : a.atMost b = true) : a.orEarliest.atMost b.orEarliest = true := by
  rcases lt_or_ge b.seconds earliestSeconds with early | late
  · have early' : a.seconds < earliestSeconds := by
      rw [atMost_iff] at le
      omega
    rw [orEarliest, orEarliest, if_pos early, if_pos early', atMost_iff]
    omega
  · rw [orEarliest.eq_def b, if_neg (by omega)]
    exact orEarliest_atMost le late

/-- The start of the next second instead of a leap second. -/
def withoutLeap (t : Instant) : Instant :=
  if second ≤ t.nanos then ⟨t.seconds + 1, t.nanos - second⟩ else t

end Instant

namespace Span

variable {t : Instant} {a b count : Nat}

/-! ### Spans of a fixed length -/

theorem secondsBefore_of_pos (pos : 0 < count) :
    secondsBefore count t =
      Instant.orEarliest ⟨t.withoutLeap.seconds - count, t.withoutLeap.nanos⟩ := by
  rw [secondsBefore, if_neg pos.ne']
  rfl

/-- **More seconds lead no less far back.** -/
theorem secondsBefore_antitone (h : Instant.earliestSeconds ≤ t.seconds) (le : a ≤ b) :
    (secondsBefore b t).atMost (secondsBefore a t) = true := by
  rcases Nat.eq_zero_or_pos b with rfl | pos
  · obtain rfl := Nat.le_zero.mp le
    rw [Instant.atMost_iff]
    omega
  · rw [secondsBefore_of_pos pos]
    rcases Nat.eq_zero_or_pos a with rfl | pos'
    · refine Instant.orEarliest_atMost ?_ h
      rw [Instant.atMost_iff, Instant.withoutLeap, secondsBefore, if_pos rfl]
      split_ifs <;> dsimp only <;> omega
    · rw [secondsBefore_of_pos pos']
      refine Instant.orEarliest_mono ?_
      rw [Instant.atMost_iff]
      dsimp only
      omega

/-! ### Months -/

/-- The number of the day that lies some months before the day `n`. -/
def monthsBackDay (count : Nat) (n : Int) : Int :=
  let c := Civil.ofDay n
  let index := c.monthIndex - count
  startOfMonth index + (min c.day (lengthOfMonth index) : Nat) - 1 - epoch

theorem monthsBackDay_zero (n : Int) : monthsBackDay 0 n = n := by
  have proper := Civil.proper_ofDay n
  have same := Civil.dayNumber_ofDay n
  have fits : min (Civil.ofDay n).day (lengthOfMonth (Civil.ofDay n).monthIndex) =
      (Civil.ofDay n).day := by
    rw [proper.lengthOfMonth_eq]
    exact Nat.min_eq_left proper.day_le
  rw [proper.dayNumber_eq] at same
  rw [monthsBackDay, Nat.cast_zero, Int.sub_zero, fits]
  exact same

/-- **More months lead to an earlier day**, whatever the lengths of the months are. -/
theorem monthsBackDay_lt (lt : a < b) (n : Int) : monthsBackDay b n < monthsBackDay a n := by
  have earlier : (Civil.ofDay n).monthIndex - b < (Civil.ofDay n).monthIndex - a := by omega
  have ended := startOfMonth_add_length_le earlier
  have first := (Civil.proper_ofDay n).day_pos
  have nonempty := lengthOfMonth_pos ((Civil.ofDay n).monthIndex - a)
  rw [monthsBackDay, monthsBackDay]
  omega

theorem monthsBackDay_antitone (le : a ≤ b) (n : Int) : monthsBackDay b n ≤ monthsBackDay a n := by
  rcases Nat.eq_or_lt_of_le le with rfl | lt
  · exact le_refl _
  · exact (monthsBackDay_lt lt n).le

/-- The first month with dates starts with the earliest instant. -/
theorem startOfMonth_first :
    (startOfMonth (firstYear * 12) - epoch) * Instant.daySeconds = Instant.earliestSeconds := by
  decide

/-- A day of a month without dates is before the earliest instant, and no other one is. -/
theorem early_iff {index : Int} {day : Nat} (pos : 1 ≤ day) (le : day ≤ lengthOfMonth index)
    {second : Int} (low : 0 ≤ second) (high : second < Instant.daySeconds) :
    (startOfMonth index + day - 1 - epoch) * Instant.daySeconds + second < Instant.earliestSeconds ↔
      index < firstYear * 12 := by
  rw [← startOfMonth_first]
  rw [Instant.daySeconds] at *
  constructor
  · intro early
    by_contra late
    rcases Int.lt_or_eq_of_le (not_lt.mp late) with later | rfl
    · have ended := startOfMonth_add_length_le later
      omega
    · omega
  · intro early
    have ended := startOfMonth_add_length_le early
    omega

/-- Going back by months is counting back the day and keeping the time of day. -/
theorem monthsBefore_eq (h : Instant.earliestSeconds ≤ t.seconds) :
    monthsBefore count t = Instant.orEarliest
      ⟨monthsBackDay count t.day * Instant.daySeconds + t.secondOfDay, t.nanos⟩ := by
  rcases Nat.eq_zero_or_pos count with rfl | pos
  · rw [monthsBefore, if_pos rfl, monthsBackDay_zero, ← t.seconds_eq, Instant.orEarliest,
      if_neg (not_lt.mpr h)]
  · have day_pos : 1 ≤ min (Civil.ofDay t.day).day
        (lengthOfMonth ((Civil.ofDay t.day).monthIndex - count)) :=
      le_min (Civil.proper_ofDay t.day).day_pos (lengthOfMonth_pos _)
    have early := early_iff day_pos (Nat.min_le_right _ _) t.secondOfDay_nonneg t.secondOfDay_lt
    have year : ((Civil.ofDay t.day).monthIndex - count) / 12 < firstYear ↔
        (Civil.ofDay t.day).monthIndex - count < firstYear * 12 := by omega
    rw [monthsBefore, if_neg pos.ne', Instant.orEarliest, monthsBackDay]
    simp only [early, ← year]
    rfl

/-- **More months lead no less far back.** -/
theorem monthsBefore_antitone (h : Instant.earliestSeconds ≤ t.seconds) (le : a ≤ b) :
    (monthsBefore b t).atMost (monthsBefore a t) = true := by
  rw [monthsBefore_eq h, monthsBefore_eq h]
  refine Instant.orEarliest_mono ?_
  have earlier := monthsBackDay_antitone le t.day
  rw [Instant.atMost_iff, Instant.daySeconds]
  dsimp only
  omega

/-- The last month with dates ends with the latest second. -/
theorem startOfMonth_last :
    (startOfMonth ((lastYear + 1) * 12) - epoch) * Instant.daySeconds = Instant.latestSeconds + 1 := by
  decide

theorem monthIndex_lt (h : t.seconds ≤ Instant.latestSeconds) :
    (Civil.ofDay t.day).monthIndex < (lastYear + 1) * 12 := by
  have proper := Civil.proper_ofDay t.day
  have found := Civil.dayNumber_ofDay t.day
  have first := proper.day_pos
  have low := t.secondOfDay_nonneg
  have ended := startOfMonth_last
  rw [proper.dayNumber_eq] at found
  rw [t.seconds_eq, ← found] at h
  rw [Instant.daySeconds] at *
  by_contra late
  rcases Int.lt_or_eq_of_le (not_lt.mp late) with later | same
  · have before := startOfMonth_add_length_le later
    omega
  · rw [← same] at h
    omega

/-- A number of months of more than 31 bits leads to the earliest instant from everywhere. -/
theorem monthsBefore_of_overflow (h : Instant.inRange t.seconds = true) (overflow : 2 ^ 31 ≤ count) :
    monthsBefore count t = Instant.earliest := by
  simp only [Instant.inRange, Bool.and_eq_true, decide_eq_true_eq] at h
  have last := monthIndex_lt h.2
  have early : ((Civil.ofDay t.day).monthIndex - count) / 12 < firstYear := by
    rw [lastYear] at last
    rw [firstYear]
    omega
  rw [monthsBefore, if_neg (by omega)]
  exact if_pos early

theorem before_months (n : Nat) (t : Instant) : before ⟨n, .months⟩ t = monthsBefore n t :=
  congrArg (monthsBefore · t) (Nat.mul_one n)

theorem before_years (n : Nat) (t : Instant) : before ⟨n, .years⟩ t = monthsBefore (n * 12) t :=
  rfl

/-- So months and years go back to the earliest instant wherever their number overflows. -/
theorem before_of_overflow (h : Instant.inRange t.seconds = true) {n : Nat} :
    (2 ^ 31 ≤ n → before ⟨n, .months⟩ t = Instant.earliest) ∧
      (2 ^ 31 ≤ n * 12 → before ⟨n, .years⟩ t = Instant.earliest) := by
  constructor
  · intro overflow
    rw [before_months, monthsBefore_of_overflow h overflow]
  · intro overflow
    rw [before_years, monthsBefore_of_overflow h overflow]

/-! ### Windows -/

/-- More of a unit lead no less far back. -/
theorem before_atMost_before (h : Instant.earliestSeconds ≤ t.seconds) (le : a ≤ b)
    (unit : TimeUnit) : (before ⟨b, unit⟩ t).atMost (before ⟨a, unit⟩ t) = true := by
  cases unit with
  | hours | days | weeks => exact secondsBefore_antitone h (Nat.mul_le_mul_right _ le)
  | months | years => exact monthsBefore_antitone h (Nat.mul_le_mul_right _ le)

theorem before_zero (unit : TimeUnit) (t : Instant) : before ⟨0, unit⟩ t = t := by
  cases unit <;> simp [before, unitSeconds, secondsBefore, monthsBefore]

end Span

/-- A test that another one follows from is met by no fewer values. -/
theorem Value.anyItem_mono {p q : Value → Bool} (h : ∀ v, p v = true → q v = true) {v : Value}
    (met : v.anyItem p = true) : v.anyItem q = true := by
  cases v with
  | list items =>
    obtain ⟨item, mem, holds⟩ := List.any_eq_true.mp met
    exact List.any_eq_true.mpr ⟨item, mem, h item holds⟩
  | _ => exact h _ met

/-- A window that starts earlier contains the instants of the other one. -/
theorem Temporal.holds_within_of_atMost {now t : Instant} {short long : Span}
    (earlier : (long.before now).atMost (short.before now) = true)
    (holds : (within short).holds now t = true) : (within long).holds now t = true := by
  rw [Temporal.holds, Bool.and_eq_true] at holds ⊢
  exact ⟨Instant.atMost_trans earlier holds.1, holds.2⟩

/-- **A longer window contains a shorter one.** From every instant, leap seconds included, more
of a unit lead no less far back and none lead forward, so the values within the shorter span
are within the longer one. -/
theorem Span.before_antitone [PatternEngine] {now : Instant} (h : Instant.inRange now.seconds = true)
    (unit : TimeUnit) {a b : Nat} (le : a ≤ b) :
    (before ⟨b, unit⟩ now).atMost (before ⟨a, unit⟩ now) = true ∧
      (before ⟨a, unit⟩ now).atMost now = true ∧
      ∀ (type : Option FieldType) (v : Value),
        (Condition.temporal (.within ⟨a, unit⟩)).holds now type v = true →
          (Condition.temporal (.within ⟨b, unit⟩)).holds now type v = true := by
  simp only [Instant.inRange, Bool.and_eq_true, decide_eq_true_eq] at h
  have further := before_atMost_before h.1 le unit
  have back := before_atMost_before h.1 (Nat.zero_le a) unit
  rw [before_zero] at back
  refine ⟨further, back, fun type v within => ?_⟩
  refine Value.anyItem_mono (fun item met => ?_) within
  obtain ⟨t, read, holds⟩ := (Option.any_eq_true _ _).mp met
  exact (Option.any_eq_true _ _).mpr ⟨t, read, Temporal.holds_within_of_atMost further holds⟩

open StandardPatterns

/-- A year from a leap second, and more years than a count of months can hold. -/
theorem Span.before_antitone_leap_second :
    let now : Instant := ⟨1483228799, 1500000000⟩
    before ⟨1, .years⟩ now = ⟨1451606399, 1500000000⟩ ∧
      before ⟨4294967295, .years⟩ now = Instant.earliest ∧
      (before ⟨4294967295, .years⟩ now).atMost (before ⟨1, .years⟩ now) = true ∧
      (Condition.temporal (.within ⟨4294967295, .years⟩)).holds now (some .date)
        (.text "2016-02-29") = true := by
  have within : (Condition.temporal (.within ⟨1, .years⟩)).holds ⟨1483228799, 1500000000⟩
      (some .date) (.text "2016-02-29") = true := by decide +kernel
  have representable : Instant.inRange (Instant.mk 1483228799 1500000000).seconds = true := by
    decide
  obtain ⟨further, -, contains⟩ :=
    Span.before_antitone representable .years (by decide : 1 ≤ 4294967295)
  exact ⟨by decide +kernel, by decide +kernel, further, contains _ _ within⟩

end BookmarkViews
