import BookmarkViews.Store.Basic
import BookmarkViews.Store.Tables

/-!
Tests that a relational store makes on the cells of a record.

`CellTest.ofClause?` finds the test with the meaning of a clause. It declines where
the store would compare in another way than conditions do: nested fields, dates,
objects, operands of another type, and texts that write numbers. Columns do not
keep texts out of a column of numbers, so each test first asks for the right kind
of cell.
-/

namespace BookmarkViews

/-- A pattern of texts: one text, or all that start in some way. -/
inductive TextPattern where
  | exactly (s : String)
  | startingWith (lead : List Char)
deriving DecidableEq, Repr

namespace TextPattern

/-- The pattern that a text writes; it covers what lies under a path when it ends
in a slash and a star. -/
def ofText (pattern : String) : TextPattern :=
  match Text.before? ['*'] pattern.toList with
  | some lead => if lead.getLast? = some '/' then .startingWith lead else .exactly pattern
  | none => .exactly pattern

/-- Whether a text meets a pattern. -/
def covers (s : String) : TextPattern → Bool
  | .exactly t => s == t
  | .startingWith lead => lead.isPrefixOf s.toList

end TextPattern

/-- A number to compare cells with. -/
inductive NumberOperand where
  | integer (n : Int)
  | real (x : Binary64)
deriving DecidableEq, Repr

/-- A test of one column. -/
inductive CellTest where
  | isNull
  | isNotNull
  | number (op : Comparison) (operand : NumberOperand)
  | flag (op : Comparison) (operand : Bool)
  | text (op : Comparison) (operand : String)
  | filled
  | notFilled
  | anyText (patterns : List TextPattern)
  | anyTag (patterns : List TextPattern)
deriving DecidableEq, Repr

namespace CellTest

/-- The comparison of a typed operand, when it has the type of the column. -/
def compare? (type : FieldType) (op : Comparison) (s : Scalar) : Option CellTest :=
  match type, s with
  | .text, .text t => some (.text op t)
  | .int, .int n | .float, .int n => some (.number op (.integer n))
  | .int, .float x | .float, .float x => some (.number op (.real x))
  | .bool, .bool b => some (.flag op b)
  | _, _ => none

/-- Whether a scalar is a text that writes a number, finite or not. -/
def writesNumber : Scalar → Bool
  | .text s => (Decimal.readFloat? (Text.trim s.toList)).isSome
  | _ => false

/-- Patterns, if there are any. -/
def patterns? (patterns : List String) : Option (List TextPattern) :=
  if patterns.isEmpty then none else some (patterns.map TextPattern.ofText)

/-- The test of a column of a type with the meaning of a clause. -/
def ofOp? (type : FieldType) : ClauseOp → Option CellTest
  | .anyOf patterns =>
    match type with
    | .list => (patterns? patterns).map .anyTag
    | .text => (patterns? patterns).map .anyText
    | _ => none
  | op =>
    if type = .list then none
    else match op with
      | .compare .eq .null | .equals .null => some .isNull
      | .compare .ne .null => some .isNotNull
      | .compare op s => compare? type op s
      | .equals s => if writesNumber s then none else compare? type .eq s
      | .present => some .filled
      | .absent => some .notFilled
      | .anyOf _ => none

/-- The test with the meaning of a clause, and the column it is made on. -/
def ofClause? (entity : Entity) (c : StoreClause) : Option (String × CellTest) :=
  if c.field.isNested then none
  else do
    let type ← Column.type? entity c.field.head
    let test ← ofOp? type c.op
    return (c.field.head, test)

/-! ### Meaning -/

/-- Compare a cell with a number by exact value; a text compares with none. -/
def compareNumber? (cell : Cell) (operand : NumberOperand) : Option Ordering :=
  match cell, operand with
  | .integer i, .integer j => some (compare i j)
  | .integer i, .real y => Binary64.compareInt? i y
  | .real x, .integer j => (Binary64.compareInt? j x).map Ordering.swap
  | .real x, .real y => x.compare? y
  | _, _ => none

/-- Whether a cell holds something: it is not null and not an empty text. -/
def isFilled : Cell → Bool
  | .null => false
  | .text s => !s.isEmpty
  | .integer _ | .real _ => true

/-- Whether a test holds of a cell, in a record with these tags. -/
def holds (tags : List String) (cell : Cell) : CellTest → Bool
  | .isNull => cell = .null
  | .isNotNull => cell != .null
  | .number op operand => (compareNumber? cell operand).any op.holds
  | .flag op operand =>
    match cell with
    | .integer n => op.holds (compare (n != 0) operand)
    | _ => false
  | .text op operand =>
    match cell with
    | .text s => op.holds (Text.order s operand)
    | _ => false
  | .filled => isFilled cell
  | .notFilled => !isFilled cell
  | .anyText patterns =>
    match cell with
    | .text s => patterns.any (TextPattern.covers s)
    | _ => false
  | .anyTag patterns => tags.any fun tag => patterns.any (TextPattern.covers tag)

end CellTest

end BookmarkViews
