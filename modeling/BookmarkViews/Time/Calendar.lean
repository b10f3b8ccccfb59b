/-!
The Gregorian calendar, extended to all years of a fixed range.

A date counts its days from the first of January 1970 (`Date.dayNumber`), and
`Civil.ofDay` finds year, month and day from the count. A `Date` holds the proof
that it exists.
-/

namespace BookmarkViews

namespace Calendar

/-- The first year with dates. -/
def firstYear : Int := -262143

/-- The last year with dates. -/
def lastYear : Int := 262142

def isLeapYear (year : Int) : Bool :=
  year % 4 == 0 && (year % 100 != 0 || year % 400 == 0)

/-- The lengths of the twelve months. -/
def monthLengths (year : Int) : List Nat :=
  [31, if isLeapYear year then 29 else 28, 31, 30, 31, 30, 31, 31, 30, 31, 30, 31]

/-- The length of a month, which is numbered from 1. -/
def monthLength (year : Int) (month : Nat) : Nat :=
  (monthLengths year).getD (month - 1) 0

/-- Whether a date exists. -/
def isDate (year : Int) (month day : Nat) : Bool :=
  firstYear ≤ year && year ≤ lastYear && 1 ≤ month && month ≤ 12 &&
    1 ≤ day && day ≤ monthLength year month

/-- The days from the start of year 1 to the start of a year. -/
def daysBeforeYear (year : Int) : Int :=
  let y := year - 1
  365 * y + y / 4 - y / 100 + y / 400

/-- The days of a year before one of its months. -/
def daysBeforeMonth (year : Int) (month : Nat) : Nat :=
  ((monthLengths year).take (month - 1)).foldl (· + ·) 0

/-- The first of January 1970, counted from the start of year 1. -/
def epoch : Int := 719162

/-- The number of a day, the first of January 1970 being 0. -/
def dayNumber (year : Int) (month day : Nat) : Int :=
  daysBeforeYear year + daysBeforeMonth year month + day - 1 - epoch

/-- The year in which the day that is `n` days after the start of year 1 falls. -/
def yearOf (n : Int) : Int :=
  let guess := n * 400 / 146097 + 1
  if n < daysBeforeYear guess then guess - 1
  else if daysBeforeYear (guess + 1) ≤ n then guess + 1
  else guess

/-- The month and the day of the month of the day with `n` days before it among
the months of these lengths, the first of which has number `month`. -/
def monthAndDay : (lengths : List Nat) → (month n : Nat) → Nat × Nat
  | [], month, n => (month, n + 1)
  | length :: lengths, month, n =>
    if n < length then (month, n + 1) else monthAndDay lengths (month + 1) (n - length)

end Calendar

/-- Year, month and day as read off a count of days. -/
structure Civil where
  year : Int
  month : Nat
  day : Nat
deriving DecidableEq, Repr

/-- The year, month and day of a day number. -/
def Civil.ofDay (n : Int) : Civil :=
  let fromStart := n + Calendar.epoch
  let year := Calendar.yearOf fromStart
  let (month, day) := Calendar.monthAndDay (Calendar.monthLengths year) 1
    (fromStart - Calendar.daysBeforeYear year).toNat
  ⟨year, month, day⟩

/-- A date that exists. -/
structure Date where
  year : Int
  month : Nat
  day : Nat
  valid : Calendar.isDate year month day = true
deriving DecidableEq, Repr

namespace Date

/-- The date with these numbers, when it exists. -/
def of? (year : Int) (month day : Nat) : Option Date :=
  if h : Calendar.isDate year month day then some ⟨year, month, day, h⟩ else none

/-- The number of a date, the first of January 1970 being 0. -/
def dayNumber (d : Date) : Int :=
  Calendar.dayNumber d.year d.month d.day

theorem of?_eq_some_iff {year : Int} {month day : Nat} {d : Date} :
    of? year month day = some d ↔ d.year = year ∧ d.month = month ∧ d.day = day := by
  obtain ⟨y, m, k, h⟩ := d
  unfold of?
  constructor
  · intro e
    split at e <;> simp_all
  · rintro ⟨rfl, rfl, rfl⟩
    simp [h]

end Date

end BookmarkViews
