import BookmarkViews.Time.DateText
import BookmarkViews.Value.Basic

/-!
Values read as instants: a text is a date, a number counts seconds since the
start of 1970.
-/

namespace BookmarkViews

/-- A billion as a double. -/
def Binary64.billion : Binary64 := Binary64.ofInt 1000000000

/-- The instant that is `x` seconds after the start of 1970. The fraction is
scaled to nanoseconds in double precision. -/
def Instant.ofFloat? (x : Binary64) : Option Instant :=
  if x.isFinite then
    let whole := x.floor
    let fraction := x.sub (Binary64.ofInt whole)
    Instant.of? whole (fraction.mul Binary64.billion).truncate.toNat
  else none

/-- The instant that a value denotes. -/
def Value.instant? : Value → Option Instant
  | .text s => readInstant? s
  | .number n =>
    match n.int64? with
    | some i => Instant.of? i 0
    | none => Instant.ofFloat? n.toFloat
  | _ => none

end BookmarkViews
