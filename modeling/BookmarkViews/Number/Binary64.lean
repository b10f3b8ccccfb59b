/-!
Double-precision numbers.

A number is a sign and a magnitude. The magnitude counts the nonnegative doubles
in increasing order: `0` is zero, `1` the least positive number, `infinity` what
follows the greatest finite one, and everything above it is not a number. So
comparing two numbers is comparing two integers (`compare?`), and a finite
number is `exact x` times `2 ^ (-1074)`.

Arithmetic is exact arithmetic followed by `roundUnits`, which rounds to the
nearest number, ties to the even magnitude.
-/

namespace BookmarkViews

/-- A double-precision number. -/
structure Binary64 where
  negative : Bool
  magnitude : Nat
deriving DecidableEq, Repr, Inhabited

namespace Binary64

/-- The magnitude after every finite one. -/
def infinity : Nat := 0x7FF0000000000000

/-- Positive zero. -/
def zero : Binary64 := ⟨false, 0⟩

/-- The result of an operation without a result. -/
def notANumber : Binary64 := ⟨false, 0x7FF8000000000000⟩

def isFinite (x : Binary64) : Bool :=
  x.magnitude < infinity

def isNaN (x : Binary64) : Bool :=
  infinity < x.magnitude

/-- The number with the other sign. -/
def neg (x : Binary64) : Binary64 :=
  ⟨!x.negative, x.magnitude⟩

/-! ### Exact values -/

/-- How many times `2 ^ (-1074)` a finite magnitude is. -/
def units (magnitude : Nat) : Nat :=
  let step := magnitude / Nat.pow 2 52
  if step = 0 then magnitude
  else (Nat.pow 2 52 + magnitude % Nat.pow 2 52) * Nat.pow 2 (step - 1)

/-- The value of a finite number in units of `2 ^ (-1074)`. -/
def exact (x : Binary64) : Int :=
  if x.negative then -(units x.magnitude : Int) else units x.magnitude

/-- One in units of `2 ^ (-1074)`. -/
def one : Nat := Nat.pow 2 1074

/-- `num / den` rounded to the nearest natural number, a tie to the even one. -/
def halfEven (num den : Nat) : Nat :=
  let q := num / den
  let r := num % den
  if 2 * r < den then q
  else if den < 2 * r then q + 1
  else if q % 2 = 0 then q else q + 1

/-- The magnitude nearest to `num / den` units. -/
def roundUnits (num den : Nat) : Nat :=
  let shift := (num / den).log2 - 52
  min infinity (shift * Nat.pow 2 52 + halfEven num (den * Nat.pow 2 shift))

/-- The number nearest to `num / den`, with the given sign. -/
def ofRatio (negative : Bool) (num den : Nat) : Binary64 :=
  ⟨negative, roundUnits (num * one) den⟩

/-- The number nearest to an integer. -/
def ofInt (n : Int) : Binary64 :=
  ofRatio (n < 0) n.natAbs 1

/-! ### Order -/

/-- A key that orders the numbers by value; the two zeros share one. -/
def key (x : Binary64) : Int :=
  if x.negative then -(x.magnitude : Int) else x.magnitude

/-- Compare by value; what is not a number compares with nothing. -/
def compare? (x y : Binary64) : Option Ordering :=
  if x.isNaN || y.isNaN then none else some (compare x.key y.key)

/-- Whether both have the same value. -/
def sameValue (x y : Binary64) : Bool :=
  x.compare? y == some .eq

/-- A key that orders all numbers: the negative zero comes before the positive
one, and what is not a number lies outside the infinities. -/
def totalKey (x : Binary64) : Int :=
  if x.negative then -(x.magnitude : Int) - 1 else x.magnitude

/-- The order of all numbers by `totalKey`. -/
def totalCompare (x y : Binary64) : Ordering :=
  compare x.totalKey y.totalKey

/-- Compare an integer with a number by exact value. -/
def compareInt? (n : Int) (x : Binary64) : Option Ordering :=
  if x.isNaN then none
  else if x.isFinite then some (compare (n * one) x.exact)
  else some (if x.negative then .gt else .lt)

/-! ### Arithmetic -/

/-- The number nearest to `num / den` units, a zero with the given sign. -/
def ofUnits (zeroSign : Bool) (num : Int) (den : Nat) : Binary64 :=
  ⟨if num = 0 then zeroSign else num < 0, roundUnits num.natAbs den⟩

def add (x y : Binary64) : Binary64 :=
  if x.isNaN || y.isNaN then notANumber
  else if x.isFinite && y.isFinite then
    ofUnits (x.negative && y.negative) (x.exact + y.exact) 1
  else if x.isFinite then y
  else if y.isFinite then x
  else if x.negative = y.negative then x else notANumber

def sub (x y : Binary64) : Binary64 :=
  add x y.neg

/-- The product of finite numbers. -/
def mul (x y : Binary64) : Binary64 :=
  ⟨x.negative != y.negative, roundUnits (units x.magnitude * units y.magnitude) one⟩

/-- The quotient of finite numbers; the divisor is not zero. -/
def div (x y : Binary64) : Binary64 :=
  ⟨x.negative != y.negative, roundUnits (units x.magnitude * one) (units y.magnitude)⟩

/-- The greatest integer not above a finite number. -/
def floor (x : Binary64) : Int :=
  x.exact / (one : Int)

/-- A finite number without its fraction. -/
def truncate (x : Binary64) : Int :=
  Int.tdiv x.exact one

/-- Whether a finite number is an integer. -/
def isWhole (x : Binary64) : Bool :=
  x.exact % (one : Int) == 0

/-! ### Laws of the order -/

theorem totalKey_injective {x y : Binary64} (h : x.totalKey = y.totalKey) : x = y := by
  obtain ⟨xs, xm⟩ := x
  obtain ⟨ys, ym⟩ := y
  simp only [totalKey] at h
  cases xs <;> cases ys <;> simp at h <;> simp <;> omega

@[simp] theorem neg_neg (x : Binary64) : x.neg.neg = x := by
  simp [neg]

end Binary64

end BookmarkViews
