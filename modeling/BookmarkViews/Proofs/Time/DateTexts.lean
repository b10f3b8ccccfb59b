import BookmarkViews.Proofs.Sequencing
import BookmarkViews.Proofs.Time.DateReading

/-!
Dates with a time of day and time stamps are read back from their texts.

`ClockReading` is what a clock shows; every date-time and every stamp that is read comes
from one (`local?_eq_some`, `stamp?_eq_some`), and its text shows the same again.

* `local?_text`: a date-time is read from the text of its clock;
* `stamp?_text`: a stamp is read from its own text, with any offset, fraction and leap
  second;
* `stamp?_dateText`, `stamp?_localText`: neither of the shorter texts is a stamp.
-/

namespace BookmarkViews

open Decimal

/-- A date and a time of day, as a clock shows them; second 60 is a leap second. -/
structure ClockReading where
  date : Date
  hour : Nat
  minute : Nat
  sec : Nat
  nanos : Nat
  hour_le : hour ≤ 23
  minute_le : minute ≤ 59
  sec_le : sec ≤ 60
  nanos_lt : nanos < Instant.second

/-! ### What a clock shows -/

namespace ClockReading

variable (c : ClockReading)

/-- The instant at which a clock without an offset shows this. -/
def instant : Instant :=
  DateText.clockInstant c.date c.hour c.minute c.sec c.nanos

theorem two_digits : c.hour < 10 ^ 2 ∧ c.minute < 10 ^ 2 ∧ c.sec < 10 ^ 2 := by
  have := c.hour_le
  have := c.minute_le
  have := c.sec_le
  omega

/-- The seconds of the day; a leap second counts as the second before it. -/
def secondOfDay : Nat :=
  c.hour * 3600 + c.minute * 60 + if c.sec = 60 then 59 else c.sec

theorem secondOfDay_lt : c.secondOfDay < 86400 := by
  have := c.hour_le
  have := c.minute_le
  have := c.sec_le
  unfold secondOfDay
  split_ifs <;> omega

theorem seconds_instant :
    c.instant.seconds = c.date.dayNumber * Instant.daySeconds + c.secondOfDay := by
  change _ + _ * 3600 + _ * 60 + ((if c.sec = 60 then 59 else c.sec : Nat) : Int) = _
  unfold secondOfDay
  omega

theorem day_instant : c.instant.day = c.date.dayNumber := by
  have := c.secondOfDay_lt
  rw [Instant.day, seconds_instant, Instant.daySeconds]
  omega

theorem secondOfDay_instant : c.instant.secondOfDay.toNat = c.secondOfDay := by
  have := c.secondOfDay_lt
  rw [Instant.secondOfDay, seconds_instant, Instant.daySeconds]
  omega

theorem nanos_instant :
    c.instant.nanos = if c.sec = 60 then Instant.second + c.nanos else c.nanos :=
  rfl

/-- The text of the date. -/
theorem civilText_instant :
    c.instant.civilText = Instant.dateText c.date.year c.date.month c.date.day := by
  rw [Instant.civilText, day_instant, Date.dayNumber, Civil.ofDay_dayNumber c.date.valid]

/-- The text of the time of day, with second 60 where the clock shows it. -/
theorem clockText_instant :
    c.instant.clockText =
      padded 2 c.hour ++ ':' :: (padded 2 c.minute ++ ':' :: padded 2 c.sec) := by
  have := c.minute_le
  have := c.sec_le
  have := c.nanos_lt
  have hour : c.secondOfDay / 3600 = c.hour := by
    unfold secondOfDay
    split_ifs <;> omega
  have minute : c.secondOfDay / 60 % 60 = c.minute := by
    unfold secondOfDay
    split_ifs <;> omega
  have sec : (c.secondOfDay % 60 + if Instant.second ≤ c.instant.nanos then 1 else 0) = c.sec := by
    rw [nanos_instant]
    unfold secondOfDay
    split_ifs <;> omega
  rw [Instant.clockText, secondOfDay_instant, hour, minute, sec]
  simp

theorem fractionText_instant : c.instant.fractionText = (⟨0, c.nanos⟩ : Instant).fractionText := by
  have same : c.instant.nanos % Instant.second = c.nanos % Instant.second := by
    rw [nanos_instant]
    split_ifs
    · exact Nat.add_mod_left _ _
    · rfl
  rw [Instant.fractionText, Instant.fractionText, same]

end ClockReading

namespace DateText

variable {cs rest : List Char}

/-! ### Dates with a time of day

The readers are run, and run backwards, one step after the other: a rewriter that opens all
their steps at once takes too long. -/

/-- **A date-time is read from the text of its clock.** -/
theorem local?_text {c : ClockReading} (whole : c.nanos = 0) :
    local? false (c.instant.civilText ++ ' ' :: c.instant.clockText) = some c.instant := by
  obtain ⟨hour, minute, sec⟩ := c.two_digits
  have gap (rest : List Char) :
      gap? false (' ' :: (padded 2 c.hour ++ rest)) = some (padded 2 c.hour ++ rest) :=
    congrArg some (trimLeft_numeral (numeral_padded 2 c.hour) rest)
  rw [c.civilText_instant, c.clockText_instant]
  calc local? false _
    _ = _ :=
      (bind_of_eq_some (leadingDate?_dateText c.date _)).trans <|
      (bind_of_eq_some (gap _)).trans <|
      (bind_of_eq_some (short?_padded hour _)).trans <|
      (bind_of_eq_some (mark?_cons _ _)).trans <|
      (bind_of_eq_some (short?_padded minute _)).trans <|
      (bind_of_eq_some (mark?_cons _ _)).trans <|
      bind_of_eq_some (short?_padded_last sec)
    _ = some (clockInstant c.date c.hour c.minute c.sec 0) :=
      if_pos (by simp [c.hour_le, c.minute_le, c.sec_le])
    _ = some c.instant := by rw [ClockReading.instant, whole]

theorem gap?_suffix {letter : Bool} (h : gap? letter cs = some rest) : rest <:+ cs := by
  unfold gap? at h
  split at h
  · exact mark?_suffix h
  · obtain rfl := Option.some_inj.mp h
    exact List.dropWhile_suffix _

/-- The look of a date that is written out. -/
structure Dated (cs : List Char) : Prop where
  year : ∃ ys tail, IsYear ys ∧ cs = ys ++ '-' :: tail
  closed : Closed cs

/-- A date in front and a number at the end make the look of a date. -/
theorem dated_of_leadingDate? {d : Date} (front : ∀ c ∈ cs.head?, Text.isBlank c = false)
    (h : leadingDate? cs = some (d, rest)) (closed : Closed rest ∨ rest = []) : Dated cs := by
  obtain ⟨ys, tail, isYear, chars, leaves⟩ := leadingDate?_eq_some h
  have same : Text.trimLeft cs = cs := Text.trimLeft_eq_self_iff.mpr front
  rw [same] at chars
  refine ⟨⟨ys, tail, isYear, chars⟩, ?_⟩
  have behind : tail <:+ cs := by
    rw [chars]
    exact (List.suffix_cons _ _).trans (List.suffix_append _ _)
  rcases closed with closed | empty
  · exact (closed.of_suffix leaves.suffix).of_suffix behind
  · exact (leaves.closed empty).of_suffix behind

/-- **A date-time that is read is what some clock shows.** -/
theorem local?_eq_some {letter : Bool} {t : Instant}
    (front : ∀ c ∈ cs.head?, Text.isBlank c = false) (h : local? letter cs = some t) :
    Dated cs ∧ ∃ c : ClockReading, c.nanos = 0 ∧ t = c.instant := by
  obtain ⟨⟨date, _⟩, leading, h⟩ := Option.bind_eq_some_iff.mp h
  obtain ⟨_, gap, h⟩ := Option.bind_eq_some_iff.mp h
  obtain ⟨⟨hour, _⟩, readHour, h⟩ := Option.bind_eq_some_iff.mp h
  obtain ⟨_, colon, h⟩ := Option.bind_eq_some_iff.mp h
  obtain ⟨⟨minute, _⟩, readMinute, h⟩ := Option.bind_eq_some_iff.mp h
  obtain ⟨_, colon', h⟩ := Option.bind_eq_some_iff.mp h
  obtain ⟨⟨sec, _⟩, readSec, h⟩ := Option.bind_eq_some_iff.mp h
  obtain ⟨bounds, h⟩ := Option.ite_none_right_eq_some.mp h
  simp only [Bool.and_eq_true, decide_eq_true_eq, List.isEmpty_iff] at bounds
  obtain ⟨⟨⟨hour_le, minute_le⟩, sec_le⟩, empty⟩ := bounds
  obtain rfl := Option.some_inj.mp h
  refine ⟨dated_of_leadingDate? front leading (.inl ?_),
    ⟨date, hour, minute, sec, 0, hour_le, minute_le, sec_le, by decide⟩, rfl, rfl⟩
  exact ((short?_eq_some readSec).closed empty).of_suffix <|
    (mark?_suffix colon').trans <| (short?_eq_some readMinute).suffix.trans <|
    (mark?_suffix colon).trans <| (short?_eq_some readHour).suffix.trans (gap?_suffix gap)

theorem either?_eq_some {t : Instant} (h : either? cs = some t) :
    ∃ letter, local? letter cs = some t := by
  rcases Option.or_eq_some_iff.mp h with read | ⟨-, read⟩
  · exact ⟨false, read⟩
  · exact ⟨true, read⟩

theorem date?_eq_some {d : Date} (h : date? cs = some d) : leadingDate? cs = some (d, []) := by
  simp only [date?, Option.bind_eq_bind, Option.bind_eq_some_iff, Prod.exists,
    Option.ite_none_right_eq_some, List.isEmpty_iff, Option.some.injEq] at h
  obtain ⟨_, _, leading, rfl, rfl⟩ := h
  exact leading

/-- **A date is read from its own text.** -/
theorem date?_dateText (d : Date) : date? (Instant.dateText d.year d.month d.day) = some d := by
  have leading := leadingDate?_dateText d []
  rw [List.append_nil] at leading
  simp [date?, leading]

/-- Nothing behind a date is no time of day. -/
theorem either?_dateText (d : Date) :
    either? (Instant.dateText d.year d.month d.day) = none := by
  have leading := leadingDate?_dateText d []
  rw [List.append_nil] at leading
  have blank : short? (Text.trimLeft []) = none := rfl
  have letter : mark? 'T' [] = none := rfl
  simp [either?, local?, gap?, leading, blank, letter]

/-! ### Fractions and offsets -/

theorem fraction?_padded {count n : Nat} (pos : 0 < count) (most : count ≤ 9)
    (fits : n < 10 ^ count) (stop : ∀ c ∈ rest.head?, isDigit c = false) :
    fraction? ('.' :: (padded count n ++ rest)) = some (n * 10 ^ (9 - count), rest) := by
  have size := length_padded pos fits
  have kept : (padded count n).take 9 = padded count n := List.take_of_length_le (by omega)
  have nonempty := (numeral_padded count n).nonempty
  rw [fraction?, takeWhile_numeral (numeral_padded count n) stop]
  simp [nonempty, kept, size, ofDigits_padded]

/-- **The fraction of a second is read from its own text**, in front of an offset. -/
theorem fraction?_fractionText {nanos : Nat} {c : Char} (fits : nanos < Instant.second)
    (sign : c = '+' ∨ c = '-') (rest : List Char) :
    fraction? ((⟨0, nanos⟩ : Instant).fractionText ++ c :: rest) = some (nanos, c :: rest) := by
  have stop : ∀ d ∈ (c :: rest).head?, isDigit d = false := by
    rintro d mem
    obtain rfl := Option.some_inj.mp mem
    rcases sign with rfl | rfl <;> decide
  have small : nanos % Instant.second = nanos := Nat.mod_eq_of_lt fits
  rw [Instant.second] at fits
  unfold Instant.fractionText
  dsimp only
  rw [small]
  split_ifs
  · next zero =>
    rw [zero, List.nil_append]
    rcases sign with rfl | rfl <;> rfl
  · next millis =>
    have whole : nanos / 1000000 * 10 ^ (9 - 3) = nanos :=
      Nat.div_mul_cancel (Nat.dvd_of_mod_eq_zero millis)
    rw [List.cons_append, fraction?_padded (by decide) (by decide) (by omega) stop, whole]
  · next micros =>
    have whole : nanos / 1000 * 10 ^ (9 - 6) = nanos :=
      Nat.div_mul_cancel (Nat.dvd_of_mod_eq_zero micros)
    rw [List.cons_append, fraction?_padded (by decide) (by decide) (by omega) stop, whole]
  · rw [List.cons_append, fraction?_padded (by decide) (by decide) (by omega) stop, Nat.sub_self,
      Nat.pow_zero, Nat.mul_one]

theorem fraction?_suffix {nanos : Nat} (h : fraction? cs = some (nanos, rest)) : rest <:+ cs := by
  unfold fraction? at h
  split at h
  · next tail =>
    dsimp only at h
    split at h
    · exact nomatch h
    · simp only [Option.some.injEq, Prod.mk.injEq] at h
      obtain ⟨-, rfl⟩ := h
      exact (List.drop_suffix _ tail).trans (List.suffix_cons '.' tail)
  · simp only [Option.some.injEq, Prod.mk.injEq] at h
    obtain ⟨-, rfl⟩ := h
    exact List.suffix_rfl

theorem fraction?_lt {nanos : Nat} (h : fraction? cs = some (nanos, rest)) :
    nanos < Instant.second := by
  unfold fraction? at h
  split at h
  · next tail =>
    dsimp only at h
    split at h
    · exact nomatch h
    · have short : ((tail.takeWhile isDigit).take 9).length ≤ 9 := List.length_take_le _ _
      have small : ofDigits ((tail.takeWhile isDigit).take 9) <
          10 ^ ((tail.takeWhile isDigit).take 9).length :=
        ofDigits_lt fun c mem => List.all_eq_true.mp List.all_takeWhile c (List.mem_of_mem_take mem)
      simp only [Option.some.injEq, Prod.mk.injEq] at h
      obtain ⟨rfl, -⟩ := h
      generalize (tail.takeWhile isDigit).take 9 = kept at short small
      calc ofDigits kept * 10 ^ (9 - kept.length)
        _ < 10 ^ kept.length * 10 ^ (9 - kept.length) :=
          Nat.mul_lt_mul_of_pos_right small (Nat.pow_pos (by decide))
        _ = Instant.second := by rw [← Nat.pow_add, Nat.add_sub_cancel' short]; rfl
  · simp only [Option.some.injEq, Prod.mk.injEq] at h
    obtain ⟨rfl, -⟩ := h
    decide

/-- **An offset of less than a day is read from its own text.** -/
theorem offset?_offsetText {offset : Int} (fits : offset.natAbs < 1440) :
    offset? (Stamp.offsetText offset) = some (offset, []) := by
  have hours : offset.natAbs / 60 < 10 ^ 2 := by omega
  have minutes : offset.natAbs % 60 < 10 ^ 2 := by omega
  have bounds : (decide (offset.natAbs / 60 ≤ 23) && decide (offset.natAbs % 60 ≤ 59)) = true := by
    simp only [Bool.and_eq_true, decide_eq_true_eq]
    omega
  unfold Stamp.offsetText
  split_ifs with negative
  · have value : -((offset.natAbs / 60 : Nat) * 60 + (offset.natAbs % 60 : Nat) : Int) = offset := by
      omega
    calc offset? _
      _ = _ :=
        (bind_of_eq_some (digits?_padded (by decide) hours _)).trans <|
        (bind_of_eq_some (mark?_cons _ _)).trans <|
        bind_of_eq_some (digits?_padded_last (by decide) minutes)
      _ = some (offset, []) := (if_pos bounds).trans (congrArg (fun n => some (n, [])) value)
  · have value : ((offset.natAbs / 60 : Nat) * 60 + (offset.natAbs % 60 : Nat) : Int) = offset := by
      omega
    calc offset? _
      _ = _ :=
        (bind_of_eq_some (digits?_padded (by decide) hours _)).trans <|
        (bind_of_eq_some (mark?_cons _ _)).trans <|
        bind_of_eq_some (digits?_padded_last (by decide) minutes)
      _ = some (offset, []) := (if_pos bounds).trans (congrArg (fun n => some (n, [])) value)

/-- An offset that is read is less than a day, and ends the text when nothing is left. -/
theorem offset?_eq_some {offset : Int} (h : offset? cs = some (offset, rest)) :
    offset.natAbs < 1440 ∧ (rest = [] → Closed cs) := by
  unfold offset? at h
  split at h
  · next tail =>
    simp only [Option.some.injEq, Prod.mk.injEq] at h
    obtain ⟨rfl, rfl⟩ := h
    exact ⟨by decide, fun empty => ⟨'Z', by rw [empty]; rfl, .inr (.inl rfl)⟩⟩
  · next tail =>
    simp only [Option.some.injEq, Prod.mk.injEq] at h
    obtain ⟨rfl, rfl⟩ := h
    exact ⟨by decide, fun empty => ⟨'z', by rw [empty]; rfl, .inr (.inr rfl)⟩⟩
  · next sign tail _ _ =>
    dsimp only at h
    -- Both signs go on alike; any other character is refused.
    split_ifs at h
    case neg => exact nomatch h
    all_goals
      simp only [Option.bind_eq_bind, Option.bind_some, Option.bind_eq_some_iff, Prod.exists,
        Option.ite_none_right_eq_some, Bool.and_eq_true, decide_eq_true_eq, Option.some.injEq,
        Prod.mk.injEq] at h
      obtain ⟨hours, _, readHours, _, colon, minutes, _, readMinutes, ⟨low, high⟩, rfl, rfl⟩ := h
      refine ⟨by split_ifs <;> omega, fun empty => ?_⟩
      obtain ⟨-, ds, -, hourChars⟩ := digits?_eq_some (by decide) readHours
      obtain ⟨-, es, numeral, minuteChars⟩ := digits?_eq_some (by decide) readMinutes
      rw [empty, List.append_nil] at minuteChars
      rw [hourChars, mark?_eq_some colon, minuteChars]
      exact (closed_append_numeral [':'] numeral).of_suffix (List.suffix_append (sign :: ds) _)
  · exact nomatch h

theorem separator?_suffix (h : separator? cs = some rest) : rest <:+ cs := by
  unfold separator? at h
  split at h
  · obtain ⟨-, h⟩ := Option.ite_none_right_eq_some.mp h
    obtain rfl := Option.some_inj.mp h
    exact List.suffix_cons _ _
  · exact nomatch h

end DateText

/-! ### Stamps -/

/-- What the clock of a stamp shows, as an instant of a clock without an offset. -/
def Stamp.shown (s : Stamp) : Instant :=
  { s.instant with seconds := s.instant.seconds + s.offset * 60 }

/-- A stamp whose clock shows `c`: its year has four digits and no sign, and its offset is
less than a day. -/
structure Stamp.ShownBy (s : Stamp) (c : ClockReading) : Prop where
  shown : s.shown = c.instant
  year_nonneg : 0 ≤ c.date.year
  year_le : c.date.year ≤ 9999
  offset : s.offset.natAbs < 1440

namespace DateText

variable {cs rest : List Char}

/-- A stamp is what its clock shows, put back by its offset. -/
theorem stamp_of_shown (s : Stamp) :
    (⟨{ s.shown with seconds := s.shown.seconds - s.offset * 60 }, s.offset⟩ : Stamp) = s := by
  have back : s.instant.seconds + s.offset * 60 - s.offset * 60 = s.instant.seconds := by omega
  rw [Stamp.shown]
  simp only [back]

/-- A year of four digits stands in its text without a sign. -/
theorem yearText_of_four {year : Int} (nonneg : 0 ≤ year) (le : year ≤ 9999) :
    Instant.yearText year = padded 4 year.natAbs ∧ year.natAbs < 10 ^ 4 ∧
      (year.natAbs : Int) = year := by
  refine ⟨if_pos (by simp [nonneg, le]), by omega, by omega⟩

/-- A stamp is read from what its clock shows, with a fraction and a zone behind it. -/
theorem stamp?_clock {c : ClockReading} (nonneg : 0 ≤ c.date.year) (le : c.date.year ≤ 9999)
    {digits zone : List Char} {offset : Int}
    (fraction : fraction? (digits ++ zone) = some (c.nanos, zone))
    (read : offset? zone = some (offset, [])) :
    stamp? (c.instant.civilText ++ 'T' :: c.instant.clockText ++ digits ++ zone) =
      some ⟨{ c.instant with seconds := c.instant.seconds - offset * 60 }, offset⟩ := by
  obtain ⟨yearChars, year, same⟩ := yearText_of_four nonneg le
  obtain ⟨month, day⟩ := c.date.two_digits
  obtain ⟨hour, minute, sec⟩ := c.two_digits
  have real : Date.of? c.date.year c.date.month c.date.day = some c.date :=
    Date.of?_eq_some_iff.mpr ⟨rfl, rfl, rfl⟩
  rw [c.civilText_instant, c.clockText_instant, Instant.dateText, yearChars]
  simp only [List.append_assoc, List.cons_append]
  calc stamp? _
    _ = _ :=
      (bind_of_eq_some (digits?_padded (by decide) year _)).trans <|
      (bind_of_eq_some (mark?_cons _ _)).trans <|
      (bind_of_eq_some (digits?_padded (by decide) month _)).trans <|
      (bind_of_eq_some (mark?_cons _ _)).trans <|
      (bind_of_eq_some (digits?_padded (by decide) day _)).trans <|
      (bind_of_eq_some rfl).trans <|
      (bind_of_eq_some (digits?_padded (by decide) hour _)).trans <|
      (bind_of_eq_some (mark?_cons _ _)).trans <|
      (bind_of_eq_some (digits?_padded (by decide) minute _)).trans <|
      (bind_of_eq_some (mark?_cons _ _)).trans <|
      (bind_of_eq_some (digits?_padded (by decide) sec _)).trans <|
      (bind_of_eq_some fraction).trans <|
      (bind_of_eq_some read).trans <|
      bind_of_eq_some (same ▸ real)
    _ = _ := by
      rw [if_pos (by simp [c.hour_le, c.minute_le, c.sec_le])]
      rfl

/-- **A stamp is read from its own text.** -/
theorem stamp?_text {s : Stamp} {c : ClockReading} (h : s.ShownBy c) :
    stamp? s.text = some s := by
  have text : s.text = c.instant.civilText ++ 'T' :: c.instant.clockText ++
      (⟨0, c.nanos⟩ : Instant).fractionText ++ Stamp.offsetText s.offset := by
    rw [← c.fractionText_instant, ← h.shown]
    rfl
  have fraction : fraction? ((⟨0, c.nanos⟩ : Instant).fractionText ++ Stamp.offsetText s.offset) =
      some (c.nanos, Stamp.offsetText s.offset) :=
    fraction?_fractionText c.nanos_lt (by split_ifs <;> simp) _
  have back := stamp_of_shown s
  rw [h.shown] at back
  rw [text, stamp?_clock h.year_nonneg h.year_le fraction (offset?_offsetText h.offset), back]

/-- **A stamp that is read is shown by some clock.** -/
theorem stamp?_eq_some {s : Stamp} (h : stamp? cs = some s) :
    Dated cs ∧ ∃ c, s.ShownBy c := by
  obtain ⟨⟨year, _⟩, readYear, h⟩ := Option.bind_eq_some_iff.mp h
  obtain ⟨tail, dash, h⟩ := Option.bind_eq_some_iff.mp h
  obtain ⟨⟨month, _⟩, readMonth, h⟩ := Option.bind_eq_some_iff.mp h
  obtain ⟨_, dash', h⟩ := Option.bind_eq_some_iff.mp h
  obtain ⟨⟨day, _⟩, readDay, h⟩ := Option.bind_eq_some_iff.mp h
  obtain ⟨_, gap, h⟩ := Option.bind_eq_some_iff.mp h
  obtain ⟨⟨hour, _⟩, readHour, h⟩ := Option.bind_eq_some_iff.mp h
  obtain ⟨_, colon, h⟩ := Option.bind_eq_some_iff.mp h
  obtain ⟨⟨minute, _⟩, readMinute, h⟩ := Option.bind_eq_some_iff.mp h
  obtain ⟨_, colon', h⟩ := Option.bind_eq_some_iff.mp h
  obtain ⟨⟨sec, _⟩, readSec, h⟩ := Option.bind_eq_some_iff.mp h
  obtain ⟨⟨nanos, _⟩, fraction, h⟩ := Option.bind_eq_some_iff.mp h
  obtain ⟨⟨offset, rest⟩, readOffset, h⟩ := Option.bind_eq_some_iff.mp h
  obtain ⟨date, real, h⟩ := Option.bind_eq_some_iff.mp h
  obtain ⟨bounds, h⟩ := Option.ite_none_right_eq_some.mp h
  simp only [Bool.and_eq_true, decide_eq_true_eq, List.isEmpty_iff] at bounds
  obtain ⟨⟨⟨hour_le, minute_le⟩, sec_le⟩, empty⟩ := bounds
  obtain rfl := Option.some_inj.mp h
  obtain ⟨small, ys, numeral, chars⟩ := digits?_eq_some (by decide) readYear
  obtain ⟨sameYear, -, -⟩ := Date.of?_eq_some_iff.mp real
  obtain ⟨lessThanDay, closed⟩ := offset?_eq_some readOffset
  rw [mark?_eq_some dash] at chars
  have two : 0 < 2 := by decide
  have behind := (fraction?_suffix fraction).trans <| (digits?_suffix two readSec).trans <|
    (mark?_suffix colon').trans <| (digits?_suffix two readMinute).trans <|
    (mark?_suffix colon).trans <| (digits?_suffix two readHour).trans <|
    (separator?_suffix gap).trans <| (digits?_suffix two readDay).trans <|
    (mark?_suffix dash').trans (digits?_suffix two readMonth)
  refine ⟨⟨⟨ys, tail, ⟨[], ys, by simp, numeral, rfl⟩, chars⟩, ?_⟩,
    ⟨date, hour, minute, sec, nanos, hour_le, minute_le, sec_le, fraction?_lt fraction⟩,
    ?_, ?_, ?_, lessThanDay⟩
  · refine ((closed empty).of_suffix behind).of_suffix ?_
    rw [chars]
    exact (List.suffix_cons '-' tail).trans (List.suffix_append ys _)
  · have back (n : Int) : n - offset * 60 + offset * 60 = n := Int.sub_add_cancel _ _
    rw [Stamp.shown]
    simp only [back]
    rfl
  · rw [sameYear]
    exact Int.natCast_nonneg year
  · rw [sameYear]
    omega

/-! ### What is no stamp -/

/-- A year with a sign starts no stamp. -/
theorem stamp?_of_sign {year : Int} (signed : ¬ (0 ≤ year ∧ year ≤ 9999)) (rest : List Char) :
    stamp? (Instant.yearText year ++ rest) = none := by
  have sign : isDigit (if year < 0 then '-' else '+') = false := by split_ifs <;> decide
  rw [Instant.yearText, if_neg (by simpa using signed), List.cons_append, stamp?,
    digits?_cons_of_not sign]
  rfl

/-- A date alone is no stamp. -/
theorem stamp?_dateText (d : Date) : stamp? (Instant.dateText d.year d.month d.day) = none := by
  by_cases four : 0 ≤ d.year ∧ d.year ≤ 9999
  · obtain ⟨yearChars, year, -⟩ := yearText_of_four four.1 four.2
    obtain ⟨month, day⟩ := d.two_digits
    rw [Instant.dateText, yearChars]
    simp only [List.append_assoc, List.cons_append]
    exact (bind_of_eq_some (digits?_padded (by decide) year _)).trans <|
      (bind_of_eq_some (mark?_cons _ _)).trans <|
      (bind_of_eq_some (digits?_padded (by decide) month _)).trans <|
      (bind_of_eq_some (mark?_cons _ _)).trans <|
      bind_of_eq_some (digits?_padded_last (by decide) day)
  · rw [Instant.dateText, List.append_assoc, stamp?_of_sign four]

/-- A date-time without an offset is no stamp. -/
theorem stamp?_localText (c : ClockReading) :
    stamp? (c.instant.civilText ++ ' ' :: c.instant.clockText) = none := by
  rw [c.civilText_instant, c.clockText_instant]
  by_cases four : 0 ≤ c.date.year ∧ c.date.year ≤ 9999
  · obtain ⟨yearChars, year, -⟩ := yearText_of_four four.1 four.2
    obtain ⟨month, day⟩ := c.date.two_digits
    obtain ⟨hour, minute, sec⟩ := c.two_digits
    rw [Instant.dateText, yearChars]
    simp only [List.append_assoc, List.cons_append]
    exact (bind_of_eq_some (digits?_padded (by decide) year _)).trans <|
      (bind_of_eq_some (mark?_cons _ _)).trans <|
      (bind_of_eq_some (digits?_padded (by decide) month _)).trans <|
      (bind_of_eq_some (mark?_cons _ _)).trans <|
      (bind_of_eq_some (digits?_padded (by decide) day _)).trans <|
      (bind_of_eq_some rfl).trans <|
      (bind_of_eq_some (digits?_padded (by decide) hour _)).trans <|
      (bind_of_eq_some (mark?_cons _ _)).trans <|
      (bind_of_eq_some (digits?_padded (by decide) minute _)).trans <|
      (bind_of_eq_some (mark?_cons _ _)).trans <|
      bind_of_eq_some (digits?_padded_last (by decide) sec)
  · rw [Instant.dateText, List.append_assoc, List.append_assoc, stamp?_of_sign four]

end DateText

end BookmarkViews
