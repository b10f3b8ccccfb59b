import BookmarkViews.Number.Binary64

/-!
Decimal text of numbers: the shortest text of a double, and the reading of
integers and doubles.

`shortest` picks, among the decimals that read back as the given double, one with
the fewest digits and of those the nearest. `FloatStyle` says how the digits are
laid out; reading accepts every layout.
-/

namespace BookmarkViews

namespace Decimal

/-- The value of a decimal digit. -/
def digit? (c : Char) : Option Nat :=
  if '0' ≤ c && c ≤ '9' then some (c.toNat - '0'.toNat) else none

/-- Whether `c` is one of `0` to `9`. -/
def isDigit (c : Char) : Bool :=
  '0' ≤ c && c ≤ '9'

/-- The number that decimal digits denote. -/
def ofDigits (cs : List Char) : Nat :=
  cs.foldl (fun n c => 10 * n + (c.toNat - '0'.toNat)) 0

/-- A number in decimal digits. -/
def ofNat (n : Nat) : List Char :=
  Nat.toDigits 10 n

/-- `n` in at least `width` digits. -/
def padded (width n : Nat) : List Char :=
  let ds := ofNat n
  List.replicate (width - ds.length) '0' ++ ds

/-- An integer in decimal digits, with a sign when it is negative. -/
def ofInt (n : Int) : List Char :=
  if n < 0 then '-' :: ofNat n.natAbs else ofNat n.natAbs

/-! ### Integers -/

/-- The least integer of 64 bits. -/
def least64 : Int := -9223372036854775808

/-- The greatest integer of 64 bits. -/
def greatest64 : Int := 9223372036854775807

/-- Whether `n` is an integer of 64 bits. -/
def fits64 (n : Int) : Bool :=
  least64 ≤ n && n ≤ greatest64

/-- Read a nonempty run of digits. -/
def readNat? (cs : List Char) : Option Nat :=
  if !cs.isEmpty && cs.all isDigit then some (ofDigits cs) else none

/-- Read an integer with an optional sign, of any size. -/
def readInt? : List Char → Option Int
  | '-' :: cs => (readNat? cs).map fun n => -(n : Int)
  | '+' :: cs => (readNat? cs).map fun n => (n : Int)
  | cs => (readNat? cs).map fun n => (n : Int)

/-- Read an integer of 64 bits. -/
def readInt64? (cs : List Char) : Option Int :=
  (readInt? cs).filter fits64

/-- Read a natural number of 32 bits; a plus sign may precede it. -/
def readNat32? : List Char → Option Nat
  | '+' :: cs => (readNat? cs).filter (· < 4294967296)
  | cs => (readNat? cs).filter (· < 4294967296)

/-! ### Doubles -/

/-- The double nearest to `digits * 10 ^ exponent`. Exponents far beyond the range
of doubles are decided without computing the power. -/
def nearest (negative : Bool) (digits : Nat) (exponent : Int) : Binary64 :=
  let size := (ofNat digits).length + exponent
  if digits = 0 || size < -330 then ⟨negative, 0⟩
  else if 310 < size then ⟨negative, Binary64.infinity⟩
  else if 0 ≤ exponent then Binary64.ofRatio negative (digits * Nat.pow 10 exponent.toNat) 1
  else Binary64.ofRatio negative digits (Nat.pow 10 (-exponent).toNat)

/-- Digits, fraction digits and exponent of an unsigned decimal number. At least
one digit stands before the exponent. -/
def readParts? (cs : List Char) : Option (List Char × List Char × Int) :=
  let (whole, rest) := cs.span isDigit
  let (fraction, rest) := match rest with
    | '.' :: rest => rest.span isDigit
    | _ => ([], rest)
  if whole.isEmpty && fraction.isEmpty then none
  else match rest with
    | [] => some (whole, fraction, 0)
    | c :: rest =>
      if c = 'e' || c = 'E' then (readInt? rest).map fun e => (whole, fraction, e) else none

/-- Read an unsigned double: a decimal number, or the name of an infinity or of
what is not a number, in any case. -/
def readMagnitude? (negative : Bool) (cs : List Char) : Option Binary64 :=
  let name := String.ofList (cs.map Char.toLower)
  if name = "inf" || name = "infinity" then some ⟨negative, Binary64.infinity⟩
  else if name = "nan" then some { Binary64.notANumber with negative }
  else (readParts? cs).map fun (whole, fraction, e) =>
    nearest negative (ofDigits (whole ++ fraction)) (e - fraction.length)

/-- Read a double with an optional sign. -/
def readFloat? : List Char → Option Binary64
  | '-' :: cs => readMagnitude? true cs
  | '+' :: cs => readMagnitude? false cs
  | cs => readMagnitude? false cs

/-- Read a double, accepting finite ones only. -/
def readFinite? (cs : List Char) : Option Binary64 :=
  (readFloat? cs).filter Binary64.isFinite

/-! ### The shortest text -/

/-- The decimal nearest to `value` among `value / step * step` and the next
multiple of `step`, when one of them lies between `low` and `high`. The bounds
count half units and belong to the interval when `closed`. -/
def candidate? (value low high : Nat) (closed : Bool) (step : Nat) : Option Nat :=
  let inside (d : Nat) : Bool :=
    let twice := 2 * d * step
    if closed then low ≤ twice && twice ≤ high else low < twice && twice < high
  let d := value / step
  match inside d, inside (d + 1) with
  | true, true => if 2 * (value % step) ≤ step then some d else some (d + 1)
  | true, false => some d
  | false, true => some (d + 1)
  | false, false => none

/-- Try the grids of `count`, `count + 1`, … digits, at most `tries` of them. The
answer is the digits and the number of places that the step drops. -/
def firstGrid (value low high : Nat) (closed : Bool) (size : Nat) :
    (count tries : Nat) → Nat × Nat
  | _, 0 => (value, 0)
  | count, tries + 1 =>
    match candidate? value low high closed (Nat.pow 10 (size - count)) with
    | some d => (d, size - count)
    | none => firstGrid value low high closed size (count + 1) tries

/-- The digits of a positive finite magnitude, without zeros at the end, and the
decimal exponent of the first digit. A unit is `5 ^ 1074 / 10 ^ 1074`, so all
values are natural numbers once scaled. -/
def shortest (magnitude : Nat) : List Char × Int :=
  let scale := Nat.pow 5 1074
  let value := Binary64.units magnitude * scale
  let low := (Binary64.units (magnitude - 1) + Binary64.units magnitude) * scale
  let high := (Binary64.units magnitude + Binary64.units (magnitude + 1)) * scale
  let size := (ofNat value).length
  let (d, dropped) := firstGrid value low high (magnitude % 2 == 0) size 1 17
  let ds := ofNat d
  let kept := (ds.reverse.dropWhile (· == '0')).reverse
  (kept, (ds.length + dropped : Int) - 1 - 1074)

/-- How a double is laid out. Exponents of the first digit from `plainFrom` up to,
not including, `plainBelow` are written without an exponent. -/
structure FloatStyle where
  plainFrom : Int
  plainBelow : Int
  /-- Whether an exponent that is not negative has a sign. -/
  plusSign : Bool := false
  infinity : String := "inf"
  notANumber : String := "NaN"

/-- Digits whose first has decimal exponent `e`, without an exponent. A number
without a fraction ends in `.0`. -/
def plainLayout (ds : List Char) (e : Int) : List Char :=
  if e < 0 then '0' :: '.' :: List.replicate (-e - 1).toNat '0' ++ ds
  else
    let whole := e.toNat + 1
    if ds.length ≤ whole then ds ++ List.replicate (whole - ds.length) '0' ++ ['.', '0']
    else ds.take whole ++ '.' :: ds.drop whole

/-- Digits with one before the point and an exponent. -/
def exponentLayout (plusSign : Bool) (ds : List Char) (e : Int) : List Char :=
  let mantissa := match ds with
    | [] => []
    | [d] => [d]
    | d :: ds => d :: '.' :: ds
  let sign := if plusSign && 0 ≤ e then ['+'] else []
  mantissa ++ 'e' :: sign ++ ofInt e

/-- The text of a double in a style. -/
def FloatStyle.render (style : FloatStyle) (x : Binary64) : List Char :=
  let sign := if x.negative then ['-'] else []
  if x.isNaN then style.notANumber.toList
  else if !x.isFinite then sign ++ style.infinity.toList
  else if x.magnitude = 0 then sign ++ ['0', '.', '0']
  else
    let (ds, e) := shortest x.magnitude
    if style.plainFrom ≤ e && e < style.plainBelow then sign ++ plainLayout ds e
    else sign ++ exponentLayout style.plusSign ds e

/-- The style of conditions: no exponent from one ten-thousandth to below ten to
the sixteenth. -/
def operandStyle : FloatStyle := { plainFrom := -4, plainBelow := 16 }

/-- The style of JSON: no exponent from one hundred-thousandth to below ten to
the sixteenth, and a sign before every exponent. -/
def jsonStyle : FloatStyle := { plainFrom := -5, plainBelow := 16, plusSign := true }

/-- The style of YAML: the plain numbers are those of JSON. -/
def yamlStyle : FloatStyle :=
  { plainFrom := -5, plainBelow := 16, infinity := ".inf", notANumber := ".nan" }

/-- The style of messages: never an exponent. -/
def messageStyle : FloatStyle := { plainFrom := -400, plainBelow := 400 }

/-! ### Laws -/

theorem fits64_iff {n : Int} : fits64 n = true ↔ least64 ≤ n ∧ n ≤ greatest64 := by
  simp [fits64]

theorem readInt64?_eq_some_iff {cs : List Char} {n : Int} :
    readInt64? cs = some n ↔ readInt? cs = some n ∧ fits64 n = true := by
  simp [readInt64?, Option.filter_eq_some_iff]

end Decimal

end BookmarkViews
