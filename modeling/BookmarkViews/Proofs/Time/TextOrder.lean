import BookmarkViews.Proofs.Time.DateOperands
import BookmarkViews.Proofs.Time.DayCount
import BookmarkViews.Text.Order

/-!
The order of date texts and the order of instants.

Texts are compared character by character, and texts of dates with all their digits thereby
number by number (`compareLex_padded_append`): dates as their days (`compareLex_dateText`),
clocks as their instants (`compareLex_clock`). So dates that are written in one form are in the
order of their instants (`DateForm.order_eq`).
-/

namespace BookmarkViews

open Decimal
open Text (charOrder)

/-! ### Comparing texts piece by piece -/

/-- Pieces of one length are compared before what is behind them. -/
theorem compareLex_append {as bs : List Char} (same : as.length = bs.length) (cs ds : List Char) :
    List.compareLex charOrder (as ++ cs) (bs ++ ds) =
      (List.compareLex charOrder as bs).then (List.compareLex charOrder cs ds) := by
  induction as generalizing bs with
  | nil =>
    rw [List.length_eq_zero_iff.mp same.symm]
    rfl
  | cons a as ih =>
    cases bs with
    | nil => exact nomatch same
    | cons b bs =>
      have rest := ih (Nat.succ.inj same)
      rw [List.cons_append, List.cons_append, List.compareLex_cons_cons, List.compareLex_cons_cons,
        rest, Ordering.then_assoc]

/-- What starts with one character is compared behind it. -/
theorem compareLex_cons (c : Char) (cs ds : List Char) :
    List.compareLex charOrder (c :: cs) (c :: ds) = List.compareLex charOrder cs ds := by
  have self : charOrder c c = .eq := Std.ReflCmp.compare_self
  rw [List.compareLex_cons_cons, self, Ordering.eq_then]

/-- The first digit that is smaller makes the smaller number, whatever follows. -/
theorem foldl_digits_lt {c d : Char} {ds es : List Char} (digit : isDigit c = true)
    (digits : ∀ c ∈ ds, isDigit c = true) (digits' : ∀ c ∈ es, isDigit c = true)
    (same : ds.length = es.length) (lt : c.toNat < d.toNat) (n : Nat) :
    (c :: ds).foldl (fun n c => 10 * n + (c.toNat - '0'.toNat)) n <
      (d :: es).foldl (fun n c => 10 * n + (c.toNat - '0'.toNat)) n := by
  have least : '0'.toNat ≤ c.toNat := of_decide_eq_true (Bool.and_eq_true_iff.mp digit).1
  have upTo := (foldl_digits_bounds digits (10 * n + (c.toNat - '0'.toNat))).2
  have onward := (foldl_digits_bounds digits' (10 * n + (d.toNat - '0'.toNat))).1
  rw [same] at upTo
  exact (upTo.trans_le (Nat.mul_le_mul_right _ (by omega))).trans_le onward

/-- Runs of digits of one length are compared as the numbers that they continue. -/
theorem compareLex_foldl_digits {ds es : List Char} (all : ∀ c ∈ ds, isDigit c = true)
    (all' : ∀ c ∈ es, isDigit c = true) (same : ds.length = es.length) (n : Nat) :
    List.compareLex charOrder ds es =
      compare (ds.foldl (fun n c => 10 * n + (c.toNat - '0'.toNat)) n)
        (es.foldl (fun n c => 10 * n + (c.toNat - '0'.toNat)) n) := by
  induction ds generalizing es n with
  | nil =>
    rw [List.length_eq_zero_iff.mp same.symm]
    exact (compare_eq_iff_eq.mpr rfl).symm
  | cons c ds ih =>
    cases es with
    | nil => exact nomatch same
    | cons d es =>
      have rest := Nat.succ.inj same
      obtain ⟨digit, digits⟩ := List.forall_mem_cons.mp all
      obtain ⟨digit', digits'⟩ := List.forall_mem_cons.mp all'
      rw [List.compareLex_cons_cons, charOrder]
      rcases Nat.lt_trichotomy c.toNat d.toNat with lt | eq | gt
      · have less := foldl_digits_lt digit digits digits' rest lt n
        rw [compare_lt_iff_lt.mpr lt, compare_lt_iff_lt.mpr less, Ordering.lt_then]
      · obtain rfl := Char.toNat_inj.mp eq
        rw [compare_eq_iff_eq.mpr rfl, Ordering.eq_then]
        exact ih digits digits' rest _
      · have more := foldl_digits_lt digit' digits' digits rest.symm gt n
        rw [compare_gt_iff_gt.mpr gt, compare_gt_iff_gt.mpr more, Ordering.gt_then]

theorem compareLex_padded {width m n : Nat} (pos : 0 < width) (fits : m < 10 ^ width)
    (fits' : n < 10 ^ width) :
    List.compareLex charOrder (padded width m) (padded width n) = compare m n := by
  have same : (padded width m).length = (padded width n).length := by
    rw [length_padded pos fits, length_padded pos fits']
  rw [compareLex_foldl_digits (fun _ => isDigit_of_mem_padded) (fun _ => isDigit_of_mem_padded)
    same 0, ← ofDigits, ← ofDigits, ofDigits_padded, ofDigits_padded]

/-- Numbers of one width are compared before what is behind them. -/
theorem compareLex_padded_append {width m n : Nat} (pos : 0 < width) (fits : m < 10 ^ width)
    (fits' : n < 10 ^ width) (cs ds : List Char) :
    List.compareLex charOrder (padded width m ++ cs) (padded width n ++ ds) =
      (compare m n).then (List.compareLex charOrder cs ds) := by
  have same : (padded width m).length = (padded width n).length := by
    rw [length_padded pos fits, length_padded pos fits']
  rw [compareLex_append same, compareLex_padded pos fits fits']

/-! ### Dates and clocks -/

/-- Later dates fall on later days. -/
theorem Civil.Proper.dayNumber_lt {c e : Civil} (h : c.Proper) (h' : e.Proper)
    (lt : c.year < e.year ∨
      c.year = e.year ∧ (c.month < e.month ∨ c.month = e.month ∧ c.day < e.day)) :
    c.dayNumber < e.dayNumber := by
  have := h.month_pos
  have := h.month_le
  have := h'.month_pos
  have := h'.month_le
  have cases : c.monthIndex < e.monthIndex ∨ c.monthIndex = e.monthIndex ∧ c.day < e.day := by
    rw [monthIndex, monthIndex]
    omega
  rw [h.dayNumber_eq, h'.dayNumber_eq]
  rcases cases with earlier | ⟨same, earlier⟩
  · have ended := Calendar.startOfMonth_add_length_le earlier
    rw [h.lengthOfMonth_eq] at ended
    have := h.day_le
    have := h'.day_pos
    omega
  · rw [same]
    omega

/-- Dates are compared by year, month and day. -/
theorem Date.compare_dayNumber (d e : Date) :
    compare d.dayNumber e.dayNumber =
      (compare d.year e.year).then ((compare d.month e.month).then (compare d.day e.day)) := by
  have lt {d e : Date} := d.proper_civil.dayNumber_lt e.proper_civil
  cases order : (compare d.year e.year).then
      ((compare d.month e.month).then (compare d.day e.day)) with
  | lt =>
    simp only [Ordering.then_eq_lt, compare_lt_iff_lt, compare_eq_iff_eq] at order
    exact compare_lt_iff_lt.mpr (lt order)
  | eq =>
    simp only [Ordering.then_eq_eq, compare_eq_iff_eq] at order
    obtain ⟨year, month, day⟩ := order
    rw [dayNumber, dayNumber, year, month, day]
    exact compare_eq_iff_eq.mpr rfl
  | gt =>
    simp only [Ordering.then_eq_gt, compare_gt_iff_gt, compare_eq_iff_eq] at order
    have later : e.year < d.year ∨
        e.year = d.year ∧ (e.month < d.month ∨ e.month = d.month ∧ e.day < d.day) := by
      omega
    exact compare_gt_iff_gt.mpr (lt later)

/-- A clock that shows less shows an earlier instant, also at a leap second. -/
theorem ClockReading.compare_instant_eq_lt {c e : ClockReading} (whole : c.nanos = 0)
    (whole' : e.nanos = 0)
    (lt : c.date.dayNumber < e.date.dayNumber ∨ c.date.dayNumber = e.date.dayNumber ∧
      (c.hour < e.hour ∨ c.hour = e.hour ∧
        (c.minute < e.minute ∨ c.minute = e.minute ∧ c.sec < e.sec))) :
    c.instant.compare e.instant = .lt := by
  have := c.secondOfDay_lt
  have := c.minute_le
  have := c.sec_le
  have := e.minute_le
  have := e.sec_le
  rw [Instant.compare_eq_lt_iff, c.seconds_instant, e.seconds_instant, c.nanos_instant,
    e.nanos_instant, whole, whole', Instant.daySeconds, Instant.second]
  unfold secondOfDay at *
  split_ifs at * <;> omega

/-- Clocks of whole seconds are compared by date, hour, minute and second. -/
theorem ClockReading.compare_instant {c e : ClockReading} (whole : c.nanos = 0)
    (whole' : e.nanos = 0) :
    c.instant.compare e.instant = (compare c.date.dayNumber e.date.dayNumber).then
      ((compare c.hour e.hour).then ((compare c.minute e.minute).then (compare c.sec e.sec))) := by
  cases order : (compare c.date.dayNumber e.date.dayNumber).then
      ((compare c.hour e.hour).then ((compare c.minute e.minute).then (compare c.sec e.sec))) with
  | lt =>
    simp only [Ordering.then_eq_lt, compare_lt_iff_lt, compare_eq_iff_eq] at order
    exact compare_instant_eq_lt whole whole' order
  | eq =>
    simp only [Ordering.then_eq_eq, compare_eq_iff_eq] at order
    obtain ⟨day, hour, minute, sec⟩ := order
    rw [Instant.compare, c.seconds_instant, e.seconds_instant, c.nanos_instant, e.nanos_instant,
      whole, whole', secondOfDay, secondOfDay, day, hour, minute, sec]
    simp
  | gt =>
    simp only [Ordering.then_eq_gt, compare_gt_iff_gt, compare_eq_iff_eq] at order
    have later : e.date.dayNumber < c.date.dayNumber ∨ e.date.dayNumber = c.date.dayNumber ∧
        (e.hour < c.hour ∨ e.hour = c.hour ∧
          (e.minute < c.minute ∨ e.minute = c.minute ∧ e.sec < c.sec)) := by
      omega
    rw [@Std.OrientedCmp.eq_swap _ Instant.compare _ c.instant,
      compare_instant_eq_lt whole' whole later]
    rfl

/-! ### Texts of dates and clocks -/

theorem compare_natAbs {m n : Int} (nonneg : 0 ≤ m) (nonneg' : 0 ≤ n) :
    compare m.natAbs n.natAbs = compare m n := by
  rcases lt_trichotomy m n with lt | rfl | gt
  · rw [compare_lt_iff_lt.mpr lt, compare_lt_iff_lt]
    omega
  · simp
  · rw [compare_gt_iff_gt.mpr gt, compare_gt_iff_gt]
    omega

/-- The text of a date is compared as its day. -/
theorem compareLex_dateText {d e : Date} (four : 0 ≤ d.year ∧ d.year ≤ 9999)
    (four' : 0 ≤ e.year ∧ e.year ≤ 9999) (cs ds : List Char) :
    List.compareLex charOrder (Instant.dateText d.year d.month d.day ++ cs)
        (Instant.dateText e.year e.month e.day ++ ds) =
      (compare d.dayNumber e.dayNumber).then (List.compareLex charOrder cs ds) := by
  obtain ⟨chars, year, -⟩ := DateText.yearText_of_four four.1 four.2
  obtain ⟨chars', year', -⟩ := DateText.yearText_of_four four'.1 four'.2
  obtain ⟨month, day⟩ := d.two_digits
  obtain ⟨month', day'⟩ := e.two_digits
  rw [Instant.dateText, Instant.dateText, chars, chars', Date.compare_dayNumber]
  simp only [List.append_assoc, List.cons_append, Ordering.then_assoc]
  rw [compareLex_padded_append (by decide) year year', compareLex_cons,
    compareLex_padded_append (by decide) month month', compareLex_cons,
    compareLex_padded_append (by decide) day day', compare_natAbs four.1 four'.1]

/-- **What clocks show is compared as their instants**, when the same stands behind it. -/
theorem compareLex_clock {c e : ClockReading} (whole : c.nanos = 0) (whole' : e.nanos = 0)
    (four : 0 ≤ c.date.year ∧ c.date.year ≤ 9999) (four' : 0 ≤ e.date.year ∧ e.date.year ≤ 9999)
    (mark : Char) (zone : List Char) :
    List.compareLex charOrder (c.instant.civilText ++ mark :: c.instant.clockText ++ zone)
        (e.instant.civilText ++ mark :: e.instant.clockText ++ zone) =
      c.instant.compare e.instant := by
  obtain ⟨hour, minute, sec⟩ := c.two_digits
  obtain ⟨hour', minute', sec'⟩ := e.two_digits
  have self : List.compareLex charOrder zone zone = .eq := Std.ReflCmp.compare_self
  rw [c.civilText_instant, c.clockText_instant, e.civilText_instant, e.clockText_instant,
    ClockReading.compare_instant whole whole']
  simp only [List.append_assoc, List.cons_append]
  rw [compareLex_dateText four four', compareLex_cons,
    compareLex_padded_append (by decide) hour hour', compareLex_cons,
    compareLex_padded_append (by decide) minute minute', compareLex_cons,
    compareLex_padded_append (by decide) sec sec', self, Ordering.then_eq]

/-! ### Dates in one form -/

/-- The forms in which a date can be written with all its digits: alone, with a time of day, and
as a time stamp of one zone. -/
inductive DateForm where
  | date
  | clock
  | stamp (zone : List Char)

/-- Texts of dates that are all written in one form, in whole seconds of years with four
digits. -/
inductive DateForm.Writes : DateForm → String → Prop where
  | date (d : Date) (four : 0 ≤ d.year ∧ d.year ≤ 9999) :
    Writes .date (String.ofList (Instant.dateText d.year d.month d.day))
  | clock (c : ClockReading) (four : 0 ≤ c.date.year ∧ c.date.year ≤ 9999) (whole : c.nanos = 0) :
    Writes .clock (String.ofList (c.instant.civilText ++ ' ' :: c.instant.clockText))
  | stamp (c : ClockReading) (four : 0 ≤ c.date.year ∧ c.date.year ≤ 9999) (whole : c.nanos = 0)
    {zone : List Char} {offset : Int} (read : DateText.offset? zone = some (offset, [])) :
    Writes (.stamp zone)
      (String.ofList (c.instant.civilText ++ 'T' :: c.instant.clockText ++ zone))

/-- What starts with a date starts with no blank. -/
theorem front_dateText {d : Date} (four : 0 ≤ d.year ∧ d.year ≤ 9999) (rest : List Char) :
    ∀ c ∈ (Instant.dateText d.year d.month d.day ++ rest).head?, Text.isBlank c = false := by
  obtain ⟨chars, -⟩ := DateText.yearText_of_four four.1 four.2
  rw [Instant.dateText, chars, List.append_assoc, List.append_assoc]
  obtain ⟨digit, first, isDigit⟩ := (numeral_padded 4 d.year.natAbs).head?
    ('-' :: padded 2 d.month ++ ('-' :: padded 2 d.day ++ rest))
  intro c mem
  obtain rfl := Option.some_inj.mp (first.symm.trans mem)
  exact isBlank_of_isNumberChar (isNumberChar_of_isDigit isDigit)

theorem readInstant?_dateText {d : Date} (four : 0 ≤ d.year ∧ d.year ≤ 9999) :
    readInstant? (String.ofList (Instant.dateText d.year d.month d.day)) =
      some (Instant.startOfDay d.dayNumber) := by
  have front := front_dateText four []
  rw [List.append_nil] at front
  have dated := DateText.dated_of_leadingDate? front
    (DateText.date?_eq_some (DateText.date?_dateText d)) (.inr rfl)
  rw [readInstant?, String.toList_ofList, dated.tight.trim_eq, DateText.stamp?_dateText,
    DateText.either?_dateText, DateText.date?_dateText]
  rfl

theorem readInstant?_clockText {c : ClockReading} (four : 0 ≤ c.date.year ∧ c.date.year ≤ 9999)
    (whole : c.nanos = 0) :
    readInstant? (String.ofList (c.instant.civilText ++ ' ' :: c.instant.clockText)) =
      some c.instant := by
  have front := front_dateText four (' ' :: c.instant.clockText)
  rw [← c.civilText_instant] at front
  have dated := (DateText.local?_eq_some front (DateText.local?_text whole)).1
  rw [readInstant?, String.toList_ofList, dated.tight.trim_eq, DateText.stamp?_localText,
    DateText.either?, DateText.local?_text whole]
  rfl

/-- What is read as a zone starts with no fraction. -/
theorem fraction?_of_offset? {zone rest : List Char} {offset : Int}
    (read : DateText.offset? zone = some (offset, rest)) :
    DateText.fraction? zone = some (0, zone) := by
  unfold DateText.fraction?
  split
  · exact nomatch read
  · rfl

theorem readInstant?_stampText {c : ClockReading} (four : 0 ≤ c.date.year ∧ c.date.year ≤ 9999)
    (whole : c.nanos = 0) {zone : List Char} {offset : Int}
    (read : DateText.offset? zone = some (offset, [])) :
    readInstant? (String.ofList (c.instant.civilText ++ 'T' :: c.instant.clockText ++ zone)) =
      some { c.instant with seconds := c.instant.seconds - offset * 60 } := by
  have fraction : DateText.fraction? ([] ++ zone) = some (c.nanos, zone) := by
    rw [whole, List.nil_append, fraction?_of_offset? read]
  have stamp := DateText.stamp?_clock four.1 four.2 fraction read
  rw [List.append_nil] at stamp
  have dated := (DateText.stamp?_eq_some stamp).1
  rw [readInstant?, String.toList_ofList, dated.tight.trim_eq, stamp]
  rfl

/-- Dates in one form are read. -/
theorem DateForm.Writes.exists_instant {form : DateForm} {s : String} (h : form.Writes s) :
    ∃ x, readInstant? s = some x := by
  cases h with
  | date d four => exact ⟨_, readInstant?_dateText four⟩
  | clock c four whole => exact ⟨_, readInstant?_clockText four whole⟩
  | stamp c four whole read => exact ⟨_, readInstant?_stampText four whole read⟩

theorem compare_map {f : Int → Int} (mono : StrictMono f) (m n : Int) :
    compare (f m) (f n) = compare m n := by
  rw [← cmp_eq_compare, ← cmp_eq_compare, mono.cmp_map_eq]

/-- Days start in the order of their numbers. -/
theorem Instant.compare_startOfDay (m n : Int) :
    (startOfDay m).compare (startOfDay n) = Ord.compare m n := by
  have mono : StrictMono (· * daySeconds) := fun m n lt => by
    rw [daySeconds]
    dsimp only
    omega
  have nanos : Ord.compare (0 : Nat) 0 = .eq := rfl
  rw [compare, startOfDay, startOfDay, compare_map mono, nanos, Ordering.then_eq]

/-- Clocks of one zone are in order as clocks without an offset. -/
theorem Instant.compare_shifted (x y : Instant) (shift : Int) :
    ({ x with seconds := x.seconds - shift } : Instant).compare
      { y with seconds := y.seconds - shift } = x.compare y := by
  have mono : StrictMono (· - shift) := fun m n lt => by
    dsimp only
    omega
  rw [compare, compare, compare_map mono]

theorem order_ofList (cs ds : List Char) :
    Text.order (String.ofList cs) (String.ofList ds) = List.compareLex charOrder cs ds := by
  rw [Text.order, String.toList_ofList, String.toList_ofList]

/-- **Dates in one form are in the order of their instants.** -/
theorem DateForm.order_eq {form : DateForm} {s t : String} {x y : Instant} (h : form.Writes s)
    (h' : form.Writes t) (read : readInstant? s = some x) (read' : readInstant? t = some y) :
    Text.order s t = x.compare y := by
  cases h with
  | date d four =>
    cases h' with
    | date e four' =>
      rw [readInstant?_dateText four, Option.some_inj] at read
      rw [readInstant?_dateText four', Option.some_inj] at read'
      have texts := compareLex_dateText four four' [] []
      rw [List.append_nil, List.append_nil] at texts
      rw [← read, ← read', order_ofList, texts, Instant.compare_startOfDay]
      exact Ordering.then_eq
  | clock c four whole =>
    cases h' with
    | clock e four' whole' =>
      rw [readInstant?_clockText four whole, Option.some_inj] at read
      rw [readInstant?_clockText four' whole', Option.some_inj] at read'
      have texts := compareLex_clock whole whole' four four' ' ' []
      rw [List.append_nil, List.append_nil] at texts
      rw [← read, ← read', order_ofList, texts]
  | stamp c four whole zoned =>
    cases h' with
    | stamp e four' whole' zoned' =>
      obtain rfl := (Prod.mk.inj (Option.some_inj.mp (zoned.symm.trans zoned'))).1
      rw [readInstant?_stampText four whole zoned, Option.some_inj] at read
      rw [readInstant?_stampText four' whole' zoned, Option.some_inj] at read'
      rw [← read, ← read', order_ofList, compareLex_clock whole whole' four four',
        Instant.compare_shifted]

end BookmarkViews
