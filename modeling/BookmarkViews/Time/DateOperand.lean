import BookmarkViews.Time.DateText
import BookmarkViews.Time.Span

/-!
The dates that conditions name: the present, a day next to it, a span ago, or a
date written out.

`read?` and `text` belong together; `resolve` gives the instant meant at a
present time.
-/

namespace BookmarkViews

inductive DateOperand where
  | now
  | today
  | yesterday
  | ago (span : Span)
  | date (d : Date)
  | clock (t : Instant)
  | stamp (s : Stamp)
deriving DecidableEq, Repr

namespace DateOperand

/-- Read a date written out. -/
def absolute? (cs : List Char) : Option DateOperand :=
  ((DateText.stamp? cs).map .stamp).or <|
    ((DateText.either? cs).map .clock).or <|
      (DateText.date? cs).map .date

/-- Read a date; words count in any case. -/
def read? (s : String) : Except Malformed DateOperand :=
  let cs := Text.trim s.toList
  let lower := Text.asciiLower cs
  if lower = "now".toList then .ok .now
  else if lower = "today".toList then .ok .today
  else if lower = "yesterday".toList then .ok .yesterday
  else match Text.before? " ago".toList lower with
    | some span => (Span.read? (String.ofList span)).map .ago
    | none =>
      match absolute? cs with
      | some d => .ok d
      | none => .error ⟨s, .notADate⟩

/-- The text of a date. -/
def text : DateOperand → String
  | .now => "now"
  | .today => "today"
  | .yesterday => "yesterday"
  | .ago span => s!"{span.text} ago"
  | .date d => String.ofList (Instant.dateText d.year d.month d.day)
  | .clock t => String.ofList (t.civilText ++ ' ' :: t.clockText)
  | .stamp s => String.ofList s.text

/-- The instant meant when the present is `now`. -/
def resolve (now : Instant) : DateOperand → Instant
  | .now => now
  | .today => Instant.startOfDay now.day
  | .yesterday => Instant.startOfDayOrEarliest (now.day - 1)
  | .ago span => span.before now
  | .date d => Instant.startOfDay d.dayNumber
  | .clock t => t
  | .stamp s => s.instant

end DateOperand

end BookmarkViews
