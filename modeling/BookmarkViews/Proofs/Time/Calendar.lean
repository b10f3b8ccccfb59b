import BookmarkViews.Time.Calendar
import Mathlib

/-!
The calendar counts days without gaps.

* `yearOf_eq`: a day lies in the year between whose first days it lies;
* `Civil.ofDay_dayNumber`: year, month and day are found again from the number of a date;
* `Date.two_digits`: month and day have two digits.
-/

namespace BookmarkViews

namespace Calendar

/-- The days of a year. -/
def yearLength (year : Int) : Nat :=
  (monthLengths year).sum

theorem daysBeforeYear_eq (year : Int) :
    daysBeforeYear year =
      365 * (year - 1) + (year - 1) / 4 - (year - 1) / 100 + (year - 1) / 400 :=
  rfl

/-- Years follow each other without a gap. -/
theorem daysBeforeYear_succ (year : Int) :
    daysBeforeYear (year + 1) = daysBeforeYear year + yearLength year := by
  have leap : (yearLength year : Int) = 365 + if isLeapYear year then 1 else 0 := by
    unfold yearLength monthLengths
    split_ifs <;> rfl
  have divisible : isLeapYear year = true ↔ year % 4 = 0 ∧ (year % 100 ≠ 0 ∨ year % 400 = 0) := by
    simp [isLeapYear]
  rw [leap]
  simp only [daysBeforeYear_eq, divisible]
  split_ifs <;> omega

/-- **A day lies in the year between whose first day and the next year's it lies.** The
guess by the mean length of a year is at most one year early. -/
theorem yearOf_eq {year n : Int} (low : daysBeforeYear year ≤ n)
    (high : n < daysBeforeYear (year + 1)) : yearOf n = year := by
  have before : year - 1 ≤ n * 400 / 146097 + 1 := by
    rw [daysBeforeYear_eq] at low
    omega
  have after : n * 400 / 146097 + 1 ≤ year := by
    rw [daysBeforeYear_eq] at high
    omega
  unfold yearOf
  dsimp only
  rcases Int.lt_or_eq_of_le after with early | same
  · have guess : n * 400 / 146097 + 1 = year - 1 := by omega
    have earlier : daysBeforeYear (year - 1) ≤ daysBeforeYear year := by
      rw [daysBeforeYear_eq, daysBeforeYear_eq]
      omega
    rw [guess, Int.sub_add_cancel, if_neg (by omega), if_pos low]
  · rw [same, if_neg (by omega), if_neg (by omega)]

/-- A day of a month is found behind the months before it. -/
theorem monthAndDay_take {lengths : List Nat} {index n : Nat} (inside : n < lengths.getD index 0)
    (month : Nat) :
    monthAndDay lengths month ((lengths.take index).sum + n) = (month + index, n + 1) := by
  induction lengths generalizing index month with
  | nil => simp at inside
  | cons length lengths ih =>
    cases index with
    | zero =>
      rw [List.take_zero, List.sum_nil, Nat.zero_add, monthAndDay]
      exact if_pos inside
    | succ index =>
      have rest :
          length + (lengths.take index).sum + n - length = (lengths.take index).sum + n := by
        omega
      rw [List.take_succ_cons, List.sum_cons, monthAndDay, if_neg (by omega), rest, ih inside,
        Nat.add_assoc, Nat.add_comm 1]

/-- The months up to one of them are no longer than the year. -/
theorem sum_take_add_le (lengths : List Nat) (index : Nat) :
    (lengths.take index).sum + lengths.getD index 0 ≤ lengths.sum := by
  induction lengths generalizing index with
  | nil => simp
  | cons length lengths ih =>
    cases index with
    | zero => simp
    | succ index =>
      have rest := ih index
      rw [List.take_succ_cons, List.sum_cons, List.sum_cons, List.getD_cons_succ]
      omega

theorem monthLength_le (year : Int) (month : Nat) : monthLength year month ≤ 31 := by
  have each : ∀ length ∈ monthLengths year, length ≤ 31 := by
    unfold monthLengths
    split_ifs <;> decide
  rw [monthLength, List.getD_eq_getElem?_getD]
  cases found : (monthLengths year)[month - 1]? with
  | none => exact Nat.zero_le _
  | some length => exact each length (List.mem_of_getElem? found)

theorem daysBeforeMonth_eq_sum (year : Int) (month : Nat) :
    daysBeforeMonth year month = ((monthLengths year).take (month - 1)).sum := by
  rw [daysBeforeMonth, List.sum_eq_foldl]

end Calendar

open Calendar

/-- **Year, month and day are found again from the number of a day**, in every year. -/
theorem Civil.ofDay_dayNumber_of_le {year : Int} {month day : Nat} (first : 1 ≤ month)
    (low : 1 ≤ day) (high : day ≤ monthLength year month) :
    Civil.ofDay (dayNumber year month day) = ⟨year, month, day⟩ := by
  have inside : day - 1 < monthLength year month := by omega
  have fits := sum_take_add_le (monthLengths year) (month - 1)
  have next := daysBeforeYear_succ year
  rw [monthLength] at inside
  rw [yearLength] at next
  have sinceStart : dayNumber year month day + epoch =
      daysBeforeYear year + (((monthLengths year).take (month - 1)).sum + (day - 1) : Nat) := by
    rw [dayNumber, daysBeforeMonth_eq_sum]
    omega
  have inYear : yearOf (dayNumber year month day + epoch) = year :=
    yearOf_eq (by omega) (by omega)
  have inMonth := monthAndDay_take inside 1
  rw [ofDay]
  dsimp only
  rw [inYear, sinceStart, add_sub_cancel_left, Int.toNat_natCast, inMonth]
  dsimp only
  rw [Nat.add_sub_cancel' first, Nat.sub_add_cancel low]

/-- **Year, month and day are found again from the number of a date.** -/
theorem Civil.ofDay_dayNumber {year : Int} {month day : Nat}
    (valid : isDate year month day = true) :
    Civil.ofDay (dayNumber year month day) = ⟨year, month, day⟩ := by
  simp only [isDate, Bool.and_eq_true, decide_eq_true_eq] at valid
  obtain ⟨⟨⟨⟨_, first⟩, _⟩, low⟩, high⟩ := valid
  exact Civil.ofDay_dayNumber_of_le first low high

theorem Date.two_digits (d : Date) : d.month < 10 ^ 2 ∧ d.day < 10 ^ 2 := by
  have bounds := d.valid
  have length := monthLength_le d.year d.month
  simp only [isDate, Bool.and_eq_true, decide_eq_true_eq] at bounds
  omega

end BookmarkViews
