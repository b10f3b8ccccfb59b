import BookmarkViews.Fault
import BookmarkViews.Text.Blank
import BookmarkViews.Time.Instant

/-!
Spans of time such as `3 days` or `1 month`, and the instant that lies a span
before another.

Hours, days and weeks have fixed lengths. Months and years go back through the
calendar and end on the last day of the month where the day does not exist. What
would fall before the earliest instant is the earliest instant.
-/

namespace BookmarkViews

inductive TimeUnit where
  | hours
  | days
  | weeks
  | months
  | years
deriving DecidableEq, Repr

namespace TimeUnit

def all : List TimeUnit := [.hours, .days, .weeks, .months, .years]

/-- The name of one unit. -/
def singular : TimeUnit → String
  | .hours => "hour"
  | .days => "day"
  | .weeks => "week"
  | .months => "month"
  | .years => "year"

/-- The name of several units. -/
def plural (u : TimeUnit) : String :=
  u.singular ++ "s"

/-- The unit of either name, in any case. -/
def ofName? (word : String) : Option TimeUnit :=
  let word := Text.asciiLowered word
  all.find? fun u => word == u.singular || word == u.plural

end TimeUnit

/-- A number of units of time. -/
structure Span where
  amount : Nat
  unit : TimeUnit
deriving DecidableEq, Repr

namespace Span

/-- Read an amount and a unit. -/
def read? (s : String) : Except Malformed Span :=
  match Text.words s.toList with
  | [amount, unit] =>
    match Decimal.readNat32? amount with
    | none => .error ⟨s, .spanAmount (String.ofList amount)⟩
    | some n =>
      match TimeUnit.ofName? (String.ofList unit) with
      | none => .error ⟨s, .spanUnit (String.ofList unit)⟩
      | some u => .ok ⟨n, u⟩
  | _ => .error ⟨s, .spanShape⟩

/-- The text of a span, which `read?` reads back. -/
def text (s : Span) : String :=
  if s.amount = 1 then s!"1 {s.unit.singular}" else s!"{s.amount} {s.unit.plural}"

/-! ### Going back in time -/

/-- The instant some seconds back. A leap second left behind becomes the start of
the second after it. -/
def secondsBefore (count : Nat) (t : Instant) : Instant :=
  if count = 0 then t
  else
    let t := if Instant.second ≤ t.nanos then
        (⟨t.seconds + 1, t.nanos - Instant.second⟩ : Instant)
      else t
    let seconds := t.seconds - count
    if seconds < Instant.earliestSeconds then Instant.earliest else ⟨seconds, t.nanos⟩

/-- The instant some months back, at the same time of day. -/
def monthsBefore (count : Nat) (t : Instant) : Instant :=
  if count = 0 then t
  else
    let c := Civil.ofDay t.day
    let index := c.year * 12 + (c.month - 1 : Nat) - count
    let year := index / 12
    let month := (index % 12).toNat + 1
    if year < Calendar.firstYear then Instant.earliest
    else
      let day := min c.day (Calendar.monthLength year month)
      ⟨Calendar.dayNumber year month day * Instant.daySeconds + t.secondOfDay, t.nanos⟩

/-- The seconds of a unit of fixed length. -/
def unitSeconds : TimeUnit → Option Nat
  | .hours => some 3600
  | .days => some 86400
  | .weeks => some 604800
  | .months | .years => none

/-- The instant that lies the span before `t`. -/
def before (s : Span) (t : Instant) : Instant :=
  match unitSeconds s.unit with
  | some n => secondsBefore (s.amount * n) t
  | none => monthsBefore (s.amount * if s.unit = .years then 12 else 1) t

end Span

end BookmarkViews
