import BookmarkViews.Time.DateOperand
import BookmarkViews.Value.Basic

/-!
Conditions on the value of one field.

A condition is a tree. Its leaves compare with a scalar, test a date, a set of
texts or one text, or ask whether the value is there; its inner nodes join
conditions on the same value.
-/

namespace BookmarkViews

/-! ### Operands -/

/-- A value to compare with. -/
inductive Scalar where
  | null
  | bool (b : Bool)
  | int (n : Int)
  | float (x : Binary64)
  | text (s : String)
deriving DecidableEq, Repr, Inhabited

namespace Scalar

/-- The record value of a scalar; a double that is not finite has none. -/
def toValue : Scalar → Value
  | .null => .null
  | .bool b => .bool b
  | .int n => .ofInt n
  | .float x => .ofFloat x
  | .text s => .text s

/-- The scalar of a number: an integer when it has 64 bits, else a double. -/
def ofNumber (n : Number) : Scalar :=
  match n.int64? with
  | some i => .int i
  | none => .float n.toFloat

/-- The scalar of a record value; lists and objects have none. -/
def ofValue? : Value → Option Scalar
  | .null => some .null
  | .bool b => some (.bool b)
  | .number n => some (ofNumber n)
  | .text s => some (.text s)
  | .list _ | .object _ => none

/-- The double nearest to a numeric scalar. -/
def toFloat? : Scalar → Option Binary64
  | .int n => some (Binary64.ofInt n)
  | .float x => some x
  | _ => none

end Scalar

/-! ### Operators -/

inductive Comparison where
  | lt
  | le
  | gt
  | ge
  | ne
  | eq
deriving DecidableEq, Repr

namespace Comparison

/-- All comparisons, one that starts with another's symbol before it. -/
def all : List Comparison := [.ge, .le, .ne, .eq, .gt, .lt]

def symbol : Comparison → String
  | .lt => "<"
  | .le => "<="
  | .gt => ">"
  | .ge => ">="
  | .ne => "!="
  | .eq => "=="

/-- Whether the comparison holds of two things in this order. -/
def holds : Comparison → Ordering → Bool
  | .lt, o => o == .lt
  | .le, o => o != .gt
  | .gt, o => o == .gt
  | .ge, o => o != .lt
  | .ne, o => o != .eq
  | .eq, o => o == .eq

end Comparison

/-- How many of the listed patterns have to be met. -/
inductive Quantifier where
  | any
  | all
  | none
deriving DecidableEq, Repr

def Quantifier.name : Quantifier → String
  | .any => "any"
  | .all => "all"
  | .none => "none"

/-- A test of one text. -/
inductive TextTest where
  | contains (s : String)
  | startsWith (s : String)
  | search (pattern : String)
  | under (path : String)
deriving DecidableEq

namespace TextTest

def name : TextTest → String
  | .contains _ => "contains"
  | .startsWith _ => "starts_with"
  | .search _ => "matches"
  | .under _ => "under"

def operand : TextTest → String
  | .contains s | .startsWith s | .search s | .under s => s

end TextTest

/-- A test of one instant. -/
inductive Temporal where
  | within (span : Span)
  | before (date : DateOperand)
  | after (date : DateOperand)
  | since (date : DateOperand)
deriving DecidableEq, Repr

namespace Temporal

/-- The text of a temporal test. -/
def text : Temporal → String
  | .within span => s!"within {span.text}"
  | .before date => s!"before {date.text}"
  | .after date => s!"after {date.text}"
  | .since date => s!"since {date.text}"

/-- Whether an instant passes the test when the present is `now`. -/
def holds (now t : Instant) : Temporal → Bool
  | .within span => (span.before now).atMost t && t.atMost now
  | .before date => t.isBefore (date.resolve now)
  | .after date => (date.resolve now).isBefore t
  | .since date => (date.resolve now).atMost t

end Temporal

inductive Connective where
  | and
  | or
  | not
deriving DecidableEq, Repr

/-! ### Conditions -/

/-- A condition on the value of one field. `not` denies that all its parts
hold. -/
inductive Condition where
  | literal (value : Scalar)
  | compare (op : Comparison) (value : Scalar)
  | temporal (t : Temporal)
  | members (q : Quantifier) (patterns : List String)
  | text (t : TextTest)
  | present
  | absent
  | has (names : List String)
  | compound (c : Connective) (parts : List Condition)

namespace Condition

mutual

/-- Equality of conditions, decided. -/
def decEq : (a b : Condition) → Decidable (a = b)
  | .literal a, .literal b => if h : a = b then isTrue (by rw [h]) else isFalse (by simp [h])
  | .compare o a, .compare p b =>
    if h : o = p ∧ a = b then isTrue (by rw [h.1, h.2]) else isFalse (by simpa using h)
  | .temporal a, .temporal b => if h : a = b then isTrue (by rw [h]) else isFalse (by simp [h])
  | .members q a, .members r b =>
    if h : q = r ∧ a = b then isTrue (by rw [h.1, h.2]) else isFalse (by simpa using h)
  | .text a, .text b => if h : a = b then isTrue (by rw [h]) else isFalse (by simp [h])
  | .present, .present => isTrue rfl
  | .absent, .absent => isTrue rfl
  | .has a, .has b => if h : a = b then isTrue (by rw [h]) else isFalse (by simp [h])
  | .compound c a, .compound d b =>
    if hc : c = d then
      match decEqList a b with
      | isTrue h => isTrue (by rw [hc, h])
      | isFalse h => isFalse (by simp [h])
    else isFalse (by simp [hc])
  | .literal _, .compare _ _ | .literal _, .temporal _ | .literal _, .members _ _
  | .literal _, .text _ | .literal _, .present | .literal _, .absent | .literal _, .has _
  | .literal _, .compound _ _
  | .compare _ _, .literal _ | .compare _ _, .temporal _ | .compare _ _, .members _ _
  | .compare _ _, .text _ | .compare _ _, .present | .compare _ _, .absent
  | .compare _ _, .has _ | .compare _ _, .compound _ _
  | .temporal _, .literal _ | .temporal _, .compare _ _ | .temporal _, .members _ _
  | .temporal _, .text _ | .temporal _, .present | .temporal _, .absent | .temporal _, .has _
  | .temporal _, .compound _ _
  | .members _ _, .literal _ | .members _ _, .compare _ _ | .members _ _, .temporal _
  | .members _ _, .text _ | .members _ _, .present | .members _ _, .absent
  | .members _ _, .has _ | .members _ _, .compound _ _
  | .text _, .literal _ | .text _, .compare _ _ | .text _, .temporal _ | .text _, .members _ _
  | .text _, .present | .text _, .absent | .text _, .has _ | .text _, .compound _ _
  | .present, .literal _ | .present, .compare _ _ | .present, .temporal _
  | .present, .members _ _ | .present, .text _ | .present, .absent | .present, .has _
  | .present, .compound _ _
  | .absent, .literal _ | .absent, .compare _ _ | .absent, .temporal _ | .absent, .members _ _
  | .absent, .text _ | .absent, .present | .absent, .has _ | .absent, .compound _ _
  | .has _, .literal _ | .has _, .compare _ _ | .has _, .temporal _ | .has _, .members _ _
  | .has _, .text _ | .has _, .present | .has _, .absent | .has _, .compound _ _
  | .compound _ _, .literal _ | .compound _ _, .compare _ _ | .compound _ _, .temporal _
  | .compound _ _, .members _ _ | .compound _ _, .text _ | .compound _ _, .present
  | .compound _ _, .absent | .compound _ _, .has _ => isFalse (by simp)

/-- Equality of lists of conditions, decided. -/
def decEqList : (a b : List Condition) → Decidable (a = b)
  | [], [] => isTrue rfl
  | [], _ :: _ | _ :: _, [] => isFalse (by simp)
  | a :: as, b :: bs =>
    match decEq a b, decEqList as bs with
    | isTrue h, isTrue hs => isTrue (by rw [h, hs])
    | isFalse h, _ => isFalse (by simp [h])
    | _, isFalse h => isFalse (by simp [h])

end

instance : DecidableEq Condition := decEq

instance : Inhabited Condition := ⟨.present⟩

/-- The denial of a condition. -/
def negation (c : Condition) : Condition :=
  .compound .not [c]

/-- Whether a condition joins others. -/
def isCompound : Condition → Bool
  | .compound _ _ => true
  | _ => false

end Condition

end BookmarkViews
