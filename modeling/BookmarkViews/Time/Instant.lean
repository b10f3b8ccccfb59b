import BookmarkViews.Number.Decimal
import BookmarkViews.Time.Calendar

/-!
Instants: seconds since the start of 1970 and nanoseconds within the second.

A leap second has no number of its own; it is the second before it with a billion
or more nanoseconds. So instants are ordered by their seconds and then by their
nanoseconds, leap seconds included.
-/

namespace BookmarkViews

/-- A point in time. -/
structure Instant where
  seconds : Int
  nanos : Nat
deriving DecidableEq, Repr, Inhabited

namespace Instant

/-- The seconds of a day. -/
def daySeconds : Int := 86400

/-- The nanoseconds of a second. -/
def second : Nat := 1000000000

/-- The start of the first date. -/
def earliestSeconds : Int := -8334601228800

/-- The last second of the last date. -/
def latestSeconds : Int := 8210266876799

/-- The start of the first date. -/
def earliest : Instant := ⟨earliestSeconds, 0⟩

/-- Whether the second lies on one of the dates. -/
def inRange (seconds : Int) : Bool :=
  earliestSeconds ≤ seconds && seconds ≤ latestSeconds

/-- The instant with these numbers. The last second of a minute may be followed
by a leap second. -/
def of? (seconds : Int) (nanos : Nat) : Option Instant :=
  if inRange seconds && (nanos < second || (nanos < 2 * second && seconds % 60 == 59)) then
    some ⟨seconds, nanos⟩
  else none

/-- The order of instants. -/
def compare (a b : Instant) : Ordering :=
  (Ord.compare a.seconds b.seconds).then (Ord.compare a.nanos b.nanos)

/-- Whether `a` is not after `b`. -/
def atMost (a b : Instant) : Bool :=
  (compare a b).isLE

/-- Whether `a` is before `b`. -/
def isBefore (a b : Instant) : Bool :=
  compare a b == .lt

/-- The number of the day on which an instant falls. -/
def day (t : Instant) : Int :=
  t.seconds / daySeconds

/-- The seconds of the day that have passed. -/
def secondOfDay (t : Instant) : Int :=
  t.seconds % daySeconds

/-- The start of a day. -/
def startOfDay (day : Int) : Instant :=
  ⟨day * daySeconds, 0⟩

/-- The start of a day, or the earliest instant when the day is before the first
date. -/
def startOfDayOrEarliest (day : Int) : Instant :=
  if day * daySeconds < earliestSeconds then earliest else startOfDay day

/-! ### Text -/

/-- A year in four digits; a year that needs a sign has one. -/
def yearText (year : Int) : List Char :=
  if 0 ≤ year && year ≤ 9999 then Decimal.padded 4 year.natAbs
  else (if year < 0 then '-' else '+') :: Decimal.padded 4 year.natAbs

/-- A date as year, month and day. -/
def dateText (year : Int) (month day : Nat) : List Char :=
  yearText year ++ '-' :: Decimal.padded 2 month ++ '-' :: Decimal.padded 2 day

/-- The date of an instant. -/
def civilText (t : Instant) : List Char :=
  let c := Civil.ofDay t.day
  dateText c.year c.month c.day

/-- The time of day of an instant; a leap second is second 60. -/
def clockText (t : Instant) : List Char :=
  let s := t.secondOfDay.toNat
  Decimal.padded 2 (s / 3600) ++ ':' :: Decimal.padded 2 (s / 60 % 60) ++ ':' ::
    Decimal.padded 2 (s % 60 + if second ≤ t.nanos then 1 else 0)

/-- The fraction of the second in three, six or nine digits, or nothing. -/
def fractionText (t : Instant) : List Char :=
  let n := t.nanos % second
  if n = 0 then []
  else if n % 1000000 = 0 then '.' :: Decimal.padded 3 (n / 1000000)
  else if n % 1000 = 0 then '.' :: Decimal.padded 6 (n / 1000)
  else '.' :: Decimal.padded 9 n

end Instant

end BookmarkViews
