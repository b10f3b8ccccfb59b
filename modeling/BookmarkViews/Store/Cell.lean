import BookmarkViews.Field
import BookmarkViews.Value.Json

/-!
Cells of a relational table, and how values become cells.

A cell is null, an integer, a double or a text. Every column has an affinity,
which turns a cell into the preferred kind of the column where nothing is lost by
it: numbers into texts in a text column, whole doubles and texts that write numbers
into integers in an integer column, integers into doubles in a real column.
-/

namespace BookmarkViews

/-- The content of one cell. -/
inductive Cell where
  | null
  | integer (n : Int)
  | real (x : Binary64)
  | text (s : String)
deriving DecidableEq, Repr

/-- The preferred kind of a column. -/
inductive Affinity where
  | integer
  | real
  | text
deriving DecidableEq, Repr

namespace Cell

/-! ### Text of doubles -/

/-- The first fifteen digits of a positive finite magnitude, a half rounded up, and
the decimal exponent of the first. -/
def fifteenDigits (magnitude : Nat) : List Char × Int :=
  let value := Binary64.units magnitude * Nat.pow 5 1074
  let size := (Decimal.ofNat value).length
  let rounded := (value + 5 * Nat.pow 10 (size - 16)) / Nat.pow 10 (size - 15)
  let ds := Decimal.ofNat rounded
  let kept := ((ds.take 15).reverse.dropWhile (· == '0')).reverse
  (kept, (size + ds.length : Int) - 16 - 1074)

/-- A double as text: fifteen digits, with an exponent where more would be needed
or the number is small. -/
def realText (x : Binary64) : List Char :=
  let sign := if x.negative then ['-'] else []
  if x.magnitude = 0 then "0.0".toList
  else if !x.isFinite then sign ++ "Inf".toList
  else
    let (ds, e) := fifteenDigits x.magnitude
    if -4 ≤ e && e ≤ 14 then sign ++ Decimal.plainLayout ds e
    else
      let mantissa := match ds with
        | d :: rest => d :: '.' :: (if rest.isEmpty then ['0'] else rest)
        | [] => []
      sign ++ mantissa ++ 'e' :: (if e < 0 then '-' else '+') :: Decimal.padded 2 e.natAbs

/-! ### Numbers in texts -/

/-- The blanks that may stand around a number. -/
def isNumberBlank (c : Char) : Bool :=
  c == ' ' || (9 ≤ c.toNat && c.toNat ≤ 13)

/-- A text without the blanks around a number. -/
def numberPart (cs : List Char) : List Char :=
  ((cs.dropWhile isNumberBlank).reverse.dropWhile isNumberBlank).reverse

/-- Whether a text has the form of a decimal number. -/
def isNumberForm (cs : List Char) : Bool :=
  cs.all (fun c => Decimal.isDigit c || c == '+' || c == '-' || c == '.' || c == 'e' || c == 'E') &&
    (Decimal.readFloat? cs).isSome

/-- A finite double that is an integer of 64 bits and none of the outermost, as
that integer. -/
def wholeReal? (x : Binary64) : Option Int :=
  if x.isFinite && x.isWhole then
    let n := x.floor
    if Decimal.least64 < n && n < Decimal.greatest64 then some n else none
  else none

/-- A double as an integer where nothing is lost. -/
def preferInteger (x : Binary64) : Cell :=
  match wholeReal? x with
  | some n => .integer n
  | none => .real x

/-- The number that a text writes, as an integer where possible. -/
def ofNumberText? (s : String) : Option Cell :=
  let cs := numberPart s.toList
  if isNumberForm cs then
    match Decimal.readInt64? cs with
    | some n => some (.integer n)
    | none => (Decimal.readFloat? cs).map preferInteger
  else none

end Cell

/-- A cell as a column of an affinity keeps it. -/
def Affinity.keep : Affinity → Cell → Cell
  | _, .null => .null
  | .text, .integer n => .text (String.ofList (Decimal.ofInt n))
  | .text, .real x => .text (String.ofList (Cell.realText x))
  | .text, .text s => .text s
  | .integer, .integer n => .integer n
  | .integer, .real x => Cell.preferInteger x
  | .integer, .text s => (Cell.ofNumberText? s).getD (.text s)
  | .real, .integer n => .real (Binary64.ofInt n)
  | .real, .real x => .real x
  | .real, .text s =>
    match Cell.ofNumberText? s with
    | some (.integer n) => .real (Binary64.ofInt n)
    | some c => c
    | none => .text s

namespace Cell

/-! ### Values and cells -/

/-- The cell of a value. -/
def ofValue : Value → Cell
  | .null => .null
  | .bool b => .integer (if b then 1 else 0)
  | .number n =>
    match n.int64? with
    | some i => .integer i
    | none => .real n.toFloat
  | .text s => .text s
  | v => .text v.compact

/-- The cell of a text in a column of numbers: the number that the text writes, if
it is finite. -/
def ofNumeric (s : String) : Cell :=
  let cs := Text.trim s.toList
  match Decimal.readInt64? cs with
  | some n => .integer n
  | none =>
    match Decimal.readFinite? cs with
    | some x => .real x
    | none => .text s

/-- The cell of a text in a column of flags. -/
def ofFlag (s : String) : Cell :=
  match Text.asciiLowered (Text.trimmed s) with
  | "true" => .integer 1
  | "false" => .integer 0
  | _ => .text s

/-- The cell of a value for a column of a type. Texts that write numbers or truth
values become numbers where the type asks for them. -/
def prepare (type : Option FieldType) (v : Value) : Cell :=
  match v, type with
  | .text s, some .int | .text s, some .float => ofNumeric s
  | .text s, some .bool => ofFlag s
  | v, _ => ofValue v

/-- The value of a cell; an empty cell has none. -/
def toValue? : Cell → Option Value
  | .null => none
  | .integer n => some (.ofInt n)
  | .real x => some (.ofFloat x)
  | .text s => some (.text s)

end Cell

end BookmarkViews
