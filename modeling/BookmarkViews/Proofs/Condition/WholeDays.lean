import BookmarkViews.Condition.Holds
import BookmarkViews.Pattern.Standard
import BookmarkViews.Proofs.Time.DayCount

/-!
A date alone as a literal means its whole day.

* `Condition.holds_day_iff`: such a literal holds of the values whose instant has that date, and
  these are the values since the date and before the next one.
-/

namespace BookmarkViews

/-- An instant has a date exactly when it falls on the day of the date. -/
theorem Instant.ofDay_eq_civil_iff {t : Instant} {d : Date} :
    Civil.ofDay t.day = d.civil ↔ t.day = d.dayNumber := by
  constructor
  · intro same
    rw [← Civil.dayNumber_ofDay t.day, same, Date.dayNumber_civil]
  · intro same
    rw [same]
    exact Civil.ofDay_dayNumber d.valid

namespace Condition

variable {v : Value}

section

variable [PatternEngine]

/-- A test of a date holds of a value that is no list when it holds of its instant. -/
theorem holds_temporal_iff (single : v.list? = none) {now : Instant} {type : Option FieldType}
    {test : Temporal} :
    (temporal test).holds now type v = true ↔
      ∃ t, v.instant? = some t ∧ test.holds now t = true := by
  have whole : (temporal test).holds now type v = v.instant?.any fun t => test.holds now t := by
    cases v with
    | list items => exact nomatch single
    | _ => rfl
  rw [whole, Option.any_eq_true]

/-- A literal date alone holds of the values whose instant falls on its day. -/
theorem holds_literal_day_iff {s : String} {d : Date} (day : readDay? s = some d)
    {now : Instant} :
    (literal (.text s)).holds now (some .date) v = true ↔
      ∃ t, v.instant? = some t ∧ t.day = d.dayNumber := by
  change Scalar.equalsOf (some .date) v (.text s) = true ↔ _
  rw [Scalar.equalsOf]
  cases v.instant? with
  | none => simp
  | some t => simp [Instant.isWritten?, day]

/-- **A date alone is its whole day.** As a literal it holds of the values since the date and
before the next one, which are those whose instant has the date. -/
theorem holds_day_iff {s : String} {d e : Date} (day : readDay? s = some d)
    (next : d.next? = some e) (single : v.list? = none) (now : Instant) :
    ((literal (.text s)).holds now (some .date) v = true ↔
        (temporal (.since (.date d))).holds now (some .date) v = true ∧
          (temporal (.before (.date e))).holds now (some .date) v = true) ∧
      ((literal (.text s)).holds now (some .date) v = true ↔
        ∃ t, v.instant? = some t ∧ Civil.ofDay t.day = d.civil) := by
  have later := Date.dayNumber_of_next? next
  have since (t : Instant) : (Temporal.since (.date d)).holds now t = true ↔ d.dayNumber ≤ t.day :=
    Instant.startOfDay_atMost_iff
  have before (t : Instant) : (Temporal.before (.date e)).holds now t = true ↔ t.day < e.dayNumber :=
    Instant.isBefore_startOfDay_iff
  rw [holds_literal_day_iff day, holds_temporal_iff single, holds_temporal_iff single]
  refine ⟨⟨?_, ?_⟩, ?_⟩
  · rintro ⟨t, read, same⟩
    exact ⟨⟨t, read, (since t).mpr same.ge⟩, ⟨t, read, (before t).mpr (by omega)⟩⟩
  · rintro ⟨⟨t, read, low⟩, ⟨u, read', high⟩⟩
    obtain rfl := Option.some_inj.mp (read.symm.trans read')
    rw [since] at low
    rw [before] at high
    exact ⟨t, read, by omega⟩
  · exact exists_congr fun t => and_congr_right fun _ => Instant.ofDay_eq_civil_iff.symm

end

open StandardPatterns

/-- The last day of a year, on a clock that shows the next year already, in the fraction of a
leap second. -/
theorem holds_day_iff_leap_second :
    let v := Value.text "2017-01-01T05:29:60.25+05:30"
    (literal (.text " 2016-12-31")).holds ⟨0, 0⟩ (some .date) v = true ∧
      (temporal (.since (.date ⟨2016, 12, 31, by decide⟩))).holds ⟨0, 0⟩ (some .date) v = true ∧
      (temporal (.before (.date ⟨2017, 1, 1, by decide⟩))).holds ⟨0, 0⟩ (some .date) v = true := by
  have literal : (literal (.text " 2016-12-31")).holds ⟨0, 0⟩ (some .date)
      (.text "2017-01-01T05:29:60.25+05:30") = true := by decide +kernel
  have day : readDay? " 2016-12-31" = some ⟨2016, 12, 31, by decide⟩ := by decide +kernel
  have next : Date.next? ⟨2016, 12, 31, by decide⟩ = some ⟨2017, 1, 1, by decide⟩ := by
    decide +kernel
  exact ⟨literal, (holds_day_iff day next rfl ⟨0, 0⟩).1.mp literal⟩

end Condition

end BookmarkViews
