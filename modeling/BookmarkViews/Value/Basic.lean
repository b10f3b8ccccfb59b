import BookmarkViews.Keyed
import BookmarkViews.Number.Decimal

/-!
The values that records hold, and the records themselves.

A value is what JSON can say. Integers and doubles are kept apart: `3` and `3.0`
are different values with different texts, and an integer may lie outside the
64-bit range that conditions compare exactly (`Number.int64?`).

A row lists its fields in order, each name once; `Keyed` has its operations.
-/

namespace BookmarkViews

/-- A number, remembering whether it was written as an integer. -/
inductive Number where
  | int (n : Int)
  | float (x : Binary64)
deriving DecidableEq, Repr, Inhabited

namespace Number

/-- The integer, when it is one of 64 bits. -/
def int64? : Number → Option Int
  | .int n => if Decimal.fits64 n then some n else none
  | .float _ => none

/-- The nearest double. -/
def toFloat : Number → Binary64
  | .int n => Binary64.ofInt n
  | .float x => x

/-- The text of a number, its doubles in a style. -/
def render (style : Decimal.FloatStyle) : Number → String
  | .int n => String.ofList (Decimal.ofInt n)
  | .float x => String.ofList (style.render x)

/-- The text of a number in JSON. -/
def text (n : Number) : String :=
  n.render Decimal.jsonStyle

/-- The text of a number in YAML. -/
def yamlText (n : Number) : String :=
  n.render Decimal.yamlStyle

end Number

/-- The value of one field. -/
inductive Value where
  | null
  | bool (b : Bool)
  | number (n : Number)
  | text (s : String)
  | list (items : List Value)
  | object (fields : List (String × Value))
deriving Repr, Inhabited

/-- The fields of a record, in order. -/
abbrev Row := List (String × Value)

/-! ### Equality of values -/

mutual

/-- Equality of values, decided. -/
def Value.decEq : (a b : Value) → Decidable (a = b)
  | .null, .null => isTrue rfl
  | .bool a, .bool b => if h : a = b then isTrue (by rw [h]) else isFalse (by simp [h])
  | .number a, .number b => if h : a = b then isTrue (by rw [h]) else isFalse (by simp [h])
  | .text a, .text b => if h : a = b then isTrue (by rw [h]) else isFalse (by simp [h])
  | .list a, .list b =>
    match Value.decEqList a b with
    | isTrue h => isTrue (by rw [h])
    | isFalse h => isFalse (by simp [h])
  | .object a, .object b =>
    match Value.decEqFields a b with
    | isTrue h => isTrue (by rw [h])
    | isFalse h => isFalse (by simp [h])
  | .null, .bool _ | .null, .number _ | .null, .text _ | .null, .list _ | .null, .object _
  | .bool _, .null | .bool _, .number _ | .bool _, .text _ | .bool _, .list _ | .bool _, .object _
  | .number _, .null | .number _, .bool _ | .number _, .text _ | .number _, .list _
  | .number _, .object _ | .text _, .null | .text _, .bool _ | .text _, .number _
  | .text _, .list _ | .text _, .object _ | .list _, .null | .list _, .bool _
  | .list _, .number _ | .list _, .text _ | .list _, .object _ | .object _, .null
  | .object _, .bool _ | .object _, .number _ | .object _, .text _ | .object _, .list _ =>
    isFalse (by simp)

/-- Equality of lists of values, decided. -/
def Value.decEqList : (a b : List Value) → Decidable (a = b)
  | [], [] => isTrue rfl
  | [], _ :: _ | _ :: _, [] => isFalse (by simp)
  | a :: as, b :: bs =>
    match Value.decEq a b, Value.decEqList as bs with
    | isTrue h, isTrue hs => isTrue (by rw [h, hs])
    | isFalse h, _ => isFalse (by simp [h])
    | _, isFalse h => isFalse (by simp [h])

/-- Equality of lists of fields, decided. -/
def Value.decEqFields : (a b : List (String × Value)) → Decidable (a = b)
  | [], [] => isTrue rfl
  | [], _ :: _ | _ :: _, [] => isFalse (by simp)
  | (k, a) :: as, (l, b) :: bs =>
    if hk : k = l then
      match Value.decEq a b, Value.decEqFields as bs with
      | isTrue h, isTrue hs => isTrue (by rw [hk, h, hs])
      | isFalse h, _ => isFalse (by simp [h])
      | _, isFalse h => isFalse (by simp [h])
    else isFalse (by simp [hk])

end

instance : DecidableEq Value := Value.decEq

/-! ### Kinds of value -/

namespace Value

def isNull : Value → Bool
  | .null => true
  | _ => false

def text? : Value → Option String
  | .text s => some s
  | _ => none

def list? : Value → Option (List Value)
  | .list items => some items
  | _ => none

def object? : Value → Option Row
  | .object fields => some fields
  | _ => none

/-- The integer, when the value is one of 64 bits. -/
def int64? : Value → Option Int
  | .number n => n.int64?
  | _ => none

/-- An integer as a value. -/
def ofInt (n : Int) : Value :=
  .number (.int n)

/-- A finite double as a value; what is not finite has no value. -/
def ofFloat (x : Binary64) : Value :=
  if x.isFinite then .number (.float x) else .null

/-- A text or nothing. -/
def ofText? : Option String → Value
  | some s => .text s
  | none => .null

/-- Whether there is something to see: not null, and not an empty text, list or
object. -/
def isPresent : Value → Bool
  | .null => false
  | .text s => !s.isEmpty
  | .list items => !items.isEmpty
  | .object fields => !fields.isEmpty
  | .bool _ | .number _ => true

end Value

end BookmarkViews
