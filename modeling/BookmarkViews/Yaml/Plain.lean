import BookmarkViews.Document.Node

/-!
What unquoted YAML text denotes.

Such a text is null, a boolean, an integer, a double or itself, and the first of
these that fits decides (`Plain.node?`). Integers are decimal, or have a base that
is marked by `0x`, `0o` or `0b`; decimal digits after a leading zero are text.
-/

namespace BookmarkViews.Yaml.Plain

def isNull (cs : List Char) : Bool :=
  ["", "~", "null", "Null", "NULL"].contains (String.ofList cs)

def bool? (cs : List Char) : Option Bool :=
  let s := String.ofList cs
  if ["true", "True", "TRUE"].contains s then some true
  else if ["false", "False", "FALSE"].contains s then some false
  else none

/-- A text without the sign in front. -/
def unsigned : List Char → List Char
  | '-' :: cs | '+' :: cs => cs
  | cs => cs

/-- Whether a text has several digits and the first of them is zero. -/
def isPadded (cs : List Char) : Bool :=
  match unsigned cs with
  | '0' :: c :: cs => (c :: cs).all Decimal.isDigit
  | _ => false

/-! ### Integers -/

/-- The value of a digit below a base of at most 16. -/
def digit? (base : Nat) (c : Char) : Option Nat :=
  let value := if Decimal.isDigit c then c.toNat - '0'.toNat
    else if 'a' ≤ c && c ≤ 'f' then c.toNat - 'a'.toNat + 10
    else if 'A' ≤ c && c ≤ 'F' then c.toNat - 'A'.toNat + 10
    else base
  if value < base then some value else none

/-- The number that a nonempty run of digits denotes. -/
def digits? (base : Nat) (cs : List Char) : Option Nat :=
  if cs.isEmpty then none
  else cs.foldlM (fun n c => (digit? base c).map (base * n + ·)) 0

/-- The number that digits, with or without the mark of a base, denote. -/
def magnitude? : List Char → Option Nat
  | '0' :: 'x' :: cs => digits? 16 cs
  | '0' :: 'o' :: cs => digits? 8 cs
  | '0' :: 'b' :: cs => digits? 2 cs
  | cs => if isPadded cs then none else digits? 10 cs

/-- The integer that a text denotes, if it has at most 128 bits. -/
def integer? : List Char → Option Int
  | '-' :: cs => ((magnitude? cs).filter (· ≤ Nat.pow 2 127)).map fun n => -(n : Int)
  | '+' :: cs => ((magnitude? cs).filter (· < Nat.pow 2 128)).map fun n => (n : Int)
  | cs => ((magnitude? cs).filter (· < Nat.pow 2 128)).map fun n => (n : Int)

/-- Whether a document value can hold the integer: it has 64 bits, with or without
a sign. -/
def isHeld (n : Int) : Bool :=
  Decimal.least64 ≤ n && n < 18446744073709551616

/-! ### Doubles -/

/-- The double that a text denotes. Infinities and what is not a number have names
of their own; a decimal number must be finite. -/
def float? (cs : List Char) : Option Binary64 :=
  let s := String.ofList cs
  if [".inf", ".Inf", ".INF", "+.inf", "+.Inf", "+.INF"].contains s then
    some ⟨false, Binary64.infinity⟩
  else if ["-.inf", "-.Inf", "-.INF"].contains s then some ⟨true, Binary64.infinity⟩
  else if [".nan", ".NaN", ".NAN"].contains s then some Binary64.notANumber
  else if isPadded cs then none
  else Decimal.readFinite? cs

/-! ### Values -/

/-- The document value that an unquoted text denotes. An integer that no document
value can hold is refused. -/
def node? (cs : List Char) : Option Node :=
  if isNull cs then some .null
  else match bool? cs, integer? cs, float? cs with
    | some b, _, _ => some (.bool b)
    | none, some n, _ => if isHeld n then some (.number (.int n)) else none
    | none, none, some x => some (.number (.float x))
    | none, none, none => some (.text (String.ofList cs))

end BookmarkViews.Yaml.Plain
