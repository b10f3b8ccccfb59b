import BookmarkViews.Text.Blank
import BookmarkViews.Time.Instant

/-!
Reading dates.

Three forms are read: a full time stamp with an offset (`Stamp.read?`), a date and
a time of day (`readLocal?`) and a date alone (`readDate?`). A stamp has all its
digits; the other two forms are lenient, with short numbers and blanks before
them. `readInstant?` tries the three in this order.
-/

namespace BookmarkViews

/-- An instant and the offset, in minutes, of the clock that showed it. -/
structure Stamp where
  instant : Instant
  offset : Int
deriving DecidableEq, Repr

namespace DateText

/-! ### Numbers in a text -/

/-- Read exactly `count` digits. -/
def digits? (count : Nat) (cs : List Char) : Option (Nat × List Char) :=
  let ds := cs.take count
  if ds.length = count && ds.all Decimal.isDigit then
    some (Decimal.ofDigits ds, cs.drop count)
  else none

/-- Read the digits in front, at most `most` of them and at least one. -/
def number? (most : Nat) (cs : List Char) : Option (Nat × List Char) :=
  let ds := (cs.take most).takeWhile Decimal.isDigit
  if ds.isEmpty then none else some (Decimal.ofDigits ds, cs.drop ds.length)

/-- Read one fixed character. -/
def mark? (c : Char) (cs : List Char) : Option (List Char) :=
  Text.after? [c] cs

/-- The instant of a local clock; second 60 is a leap second. -/
def clockInstant (date : Date) (hour minute sec : Nat) (nanos : Nat) : Instant :=
  let leap := sec = 60
  ⟨date.dayNumber * Instant.daySeconds + hour * 3600 + minute * 60 + (if leap then 59 else sec : Nat),
    if leap then Instant.second + nanos else nanos⟩

/-! ### Time stamps -/

/-- Read the fraction of a second as nanoseconds; digits beyond the ninth do not
count. -/
def fraction? : List Char → Option (Nat × List Char)
  | '.' :: cs =>
    let ds := cs.takeWhile Decimal.isDigit
    if ds.isEmpty then none
    else
      let kept := ds.take 9
      some (Decimal.ofDigits kept * Nat.pow 10 (9 - kept.length), cs.drop ds.length)
  | cs => some (0, cs)

/-- Read an offset of at most a day, in minutes. -/
def offset? : List Char → Option (Int × List Char)
  | 'Z' :: cs | 'z' :: cs => some (0, cs)
  | sign :: cs => do
    let negative ←
      if sign = '+' then some false
      else if sign = '-' || sign = '\u2212' then some true
      else none
    let (hours, cs) ← digits? 2 cs
    let cs ← mark? ':' cs
    let (minutes, cs) ← digits? 2 cs
    if hours ≤ 23 && minutes ≤ 59 then
      let n : Int := hours * 60 + minutes
      some (if negative then -n else n, cs)
    else none
  | [] => none

/-- Read the mark between date and time of a stamp. -/
def separator? : List Char → Option (List Char)
  | c :: cs => if c = 'T' || c = 't' || c = ' ' then some cs else none
  | [] => none

/-- Read a full time stamp. -/
def stamp? (cs : List Char) : Option Stamp := do
  let (year, cs) ← digits? 4 cs
  let cs ← mark? '-' cs
  let (month, cs) ← digits? 2 cs
  let cs ← mark? '-' cs
  let (day, cs) ← digits? 2 cs
  let cs ← separator? cs
  let (hour, cs) ← digits? 2 cs
  let cs ← mark? ':' cs
  let (minute, cs) ← digits? 2 cs
  let cs ← mark? ':' cs
  let (sec, cs) ← digits? 2 cs
  let (nanos, cs) ← fraction? cs
  let (offset, cs) ← offset? cs
  let date ← Date.of? year month day
  if hour ≤ 23 && minute ≤ 59 && sec ≤ 60 && cs.isEmpty then
    let clock := clockInstant date hour minute sec nanos
    some ⟨{ clock with seconds := clock.seconds - offset * 60 }, offset⟩
  else none

/-! ### Lenient forms -/

/-- Read a year: at most four digits, or any number of them after a sign. -/
def year? (cs : List Char) : Option (Int × List Char) :=
  match Text.trimLeft cs with
  | '-' :: cs => (number? cs.length cs).map fun (n, cs) => (-(n : Int), cs)
  | '+' :: cs => (number? cs.length cs).map fun (n, cs) => ((n : Int), cs)
  | cs => (number? 4 cs).map fun (n, cs) => ((n : Int), cs)

/-- Read one or two digits after blanks. -/
def short? (cs : List Char) : Option (Nat × List Char) :=
  number? 2 (Text.trimLeft cs)

/-- Read a date and leave the rest. -/
def leadingDate? (cs : List Char) : Option (Date × List Char) := do
  let (year, cs) ← year? cs
  let cs ← mark? '-' cs
  let (month, cs) ← short? cs
  let cs ← mark? '-' cs
  let (day, cs) ← short? cs
  let date ← Date.of? year month day
  some (date, cs)

/-- Read a date alone. -/
def date? (cs : List Char) : Option Date := do
  let (date, cs) ← leadingDate? cs
  if cs.isEmpty then some date else none

/-- Read what may stand between date and time: a `T`, or any number of blanks. -/
def gap? (letter : Bool) (cs : List Char) : Option (List Char) :=
  if letter then mark? 'T' cs else some (Text.trimLeft cs)

/-- Read a date and a time of day. -/
def local? (letter : Bool) (cs : List Char) : Option Instant := do
  let (date, cs) ← leadingDate? cs
  let cs ← gap? letter cs
  let (hour, cs) ← short? cs
  let cs ← mark? ':' cs
  let (minute, cs) ← short? cs
  let cs ← mark? ':' cs
  let (sec, cs) ← short? cs
  if hour ≤ 23 && minute ≤ 59 && sec ≤ 60 && cs.isEmpty then
    some (clockInstant date hour minute sec 0)
  else none

/-- Read a date and a time of day with either mark between them. -/
def either? (cs : List Char) : Option Instant :=
  (local? false cs).or (local? true cs)

end DateText

/-- Read a text as a date alone; blanks around it do not count. -/
def readDay? (s : String) : Option Date :=
  DateText.date? (Text.trim s.toList)

/-- Read a stored date. A date alone is its first instant. -/
def readInstant? (s : String) : Option Instant :=
  let cs := Text.trim s.toList
  ((DateText.stamp? cs).map Stamp.instant).or <|
    (DateText.either? cs).or <|
      (DateText.date? cs).map fun d => Instant.startOfDay d.dayNumber

/-- An offset as sign, hours and minutes. -/
def Stamp.offsetText (offset : Int) : List Char :=
  (if offset < 0 then '-' else '+') :: Decimal.padded 2 (offset.natAbs / 60) ++
    ':' :: Decimal.padded 2 (offset.natAbs % 60)

/-- A time stamp as its own clock showed it. -/
def Stamp.text (s : Stamp) : List Char :=
  let shown : Instant := { s.instant with seconds := s.instant.seconds + s.offset * 60 }
  shown.civilText ++ 'T' :: shown.clockText ++ shown.fractionText ++ Stamp.offsetText s.offset

end BookmarkViews
