import BookmarkViews.Condition.Basic
import BookmarkViews.Condition.Quoting
import BookmarkViews.Pattern.Basic
import BookmarkViews.Text.EditDistance
import BookmarkViews.Text.LowerCase

/-!
Reading conditions from one line of text.

The text is, in this order of preference, a keyword with its operand, a comparison
sign with a scalar, a bracketed list, a quoted text, or a text that stands for
itself. A first word that only looks like a keyword is refused when an operand of
the keyword follows, so a slip of the pen does not silently become a text.
-/

namespace BookmarkViews

/-- The words that start a condition. -/
inductive Keyword where
  | within
  | before
  | after
  | since
  | any
  | all
  | none
  | contains
  | startsWith
  | search
  | under
  | present
  | absent
  | has
deriving DecidableEq, Repr

namespace Keyword

def list : List Keyword :=
  [.within, .before, .after, .since, .any, .all, .none, .contains, .startsWith, .search, .under,
    .present, .absent, .has]

def name : Keyword → String
  | .within => "within"
  | .before => "before"
  | .after => "after"
  | .since => "since"
  | .any => "any"
  | .all => "all"
  | .none => "none"
  | .contains => "contains"
  | .startsWith => "starts_with"
  | .search => "matches"
  | .under => "under"
  | .present => "exists"
  | .absent => "missing"
  | .has => "has"

/-- The keyword of a word, in any case. -/
def ofWord? (word : List Char) : Option Keyword :=
  let lower := Text.lower word
  list.find? fun k => k.name.toList == lower

/-- Whether a keyword takes a span or a date. -/
def isTemporal : Keyword → Bool
  | .within | .before | .after | .since => true
  | _ => false

/-- Whether `rest` has the form of the keyword's operand. -/
def fits (rest : List Char) : Keyword → Bool
  | .within => (Span.read? (String.ofList rest)).isOk
  | .before | .after | .since => (DateOperand.read? (String.ofList rest)).isOk
  | .any | .all | .none | .has => rest.head? == some '[' && rest.getLast? == some ']'
  | .contains | .startsWith | .search | .under =>
    2 ≤ rest.length && rest.head? == some '"' && rest.getLast? == some '"'
  | .present | .absent => rest.isEmpty

/-- Whether a word, in lower case, is nearly the keyword: it differs in
underscores and dashes, or by one letter from a name of five letters or more. -/
def resembles (lower : List Char) (k : Keyword) : Bool :=
  let name := k.name.toList
  lower.filter (fun c => c != '_' && c != '-') == name.filter (· != '_') ||
    (5 ≤ name.length && Text.editDistance lower name == 1)

/-- The keyword that `head` is taken for when `rest` follows it. -/
def lookalike? (head rest : List Char) : Option Keyword :=
  if head.isEmpty then Option.none
  else
    let lower := Text.lower head
    list.find? fun k => k.resembles lower && k.fits rest

end Keyword

namespace Scalar

/-- Whether every character may stand in a decimal number and some digit does. -/
def looksNumeric (cs : List Char) : Bool :=
  cs.any Decimal.isDigit &&
    cs.all fun c => Decimal.isDigit c || c == '+' || c == '-' || c == '.' || c == 'e' || c == 'E'

/-- The scalar that a text without quotes stands for. -/
def ofBare (cs : List Char) : Scalar :=
  match String.ofList (Text.asciiLower cs) with
  | "true" => .bool true
  | "false" => .bool false
  | "null" => .null
  | _ =>
    match Decimal.readInt64? cs with
    | some n => .int n
    | none =>
      match (if looksNumeric cs then Decimal.readFinite? cs else none) with
      | some x => .float x
      | none => .text (String.ofList cs)

/-- Read a scalar; a text in quotes is always a text. -/
def read? (cs : List Char) : Except Fault Scalar :=
  let cs := Text.trim cs
  if cs.head? = some '"' then (Quoting.unquote? cs).map fun s => .text (String.ofList s)
  else .ok (ofBare cs)

end Scalar

namespace Condition

variable [PatternEngine]

/-- The first word and what follows it, without blanks. -/
def splitHead (cs : List Char) : List Char × List Char :=
  let (head, rest) := Text.breakAt Text.isBlank cs
  (head, Text.trim rest)

/-- A text operand, with or without quotes. -/
def operand? (rest : List Char) : Except Fault (List Char) :=
  if rest.head? = some '"' then Quoting.unquote? rest else .ok rest

/-- A date operand. -/
def dateOperand? (rest : List Char) : Except Fault DateOperand := do
  let cs ← operand? rest
  (DateOperand.read? (String.ofList cs)).mapError Malformed.fault

/-- A text operand that is not empty. -/
def textOperand? (rest : List Char) : Except Fault String := do
  let cs ← operand? rest
  if cs.isEmpty then .error .missingText else .ok (String.ofList cs)

/-- The condition of a keyword with nothing after it. -/
def lone? (rest : List Char) (c : Condition) : Except Fault Condition :=
  if rest.isEmpty then .ok c else .error .takesNoOperand

/-- The condition of a keyword and its operand. -/
def ofKeyword? (rest : List Char) : Keyword → Except Fault Condition
  | .within =>
    match Span.read? (String.ofList rest) with
    | .ok span => .ok (.temporal (.within span))
    | .error m => .error m.fault
  | .before => (dateOperand? rest).map fun d => .temporal (.before d)
  | .after => (dateOperand? rest).map fun d => .temporal (.after d)
  | .since => (dateOperand? rest).map fun d => .temporal (.since d)
  | .any => (Quoting.list? rest).map (.members .any)
  | .all => (Quoting.list? rest).map (.members .all)
  | .none => (Quoting.list? rest).map (.members .none)
  | .contains => (textOperand? rest).map fun s => .text (.contains s)
  | .startsWith => (textOperand? rest).map fun s => .text (.startsWith s)
  | .under => (textOperand? rest).map fun s => .text (.under s)
  | .search => do
    let s ← textOperand? rest
    if PatternEngine.compiles s then .ok (.text (.search s)) else .error .invalidRegex
  | .present => lone? rest .present
  | .absent => lone? rest .absent
  | .has => do
    let names ← Quoting.list? rest
    if names.isEmpty then .error .hasNoField else .ok (.has names)

/-- The comparison whose sign stands first, and what follows the sign. -/
def splitComparison? (cs : List Char) : Option (Comparison × List Char) :=
  Comparison.all.findSome? fun op => (Text.after? op.symbol.toList cs).map fun rest => (op, rest)

/-- Read a text without blanks at its ends. -/
def readTrimmed? (cs : List Char) : Except Fault Condition :=
  let (head, rest) := splitHead cs
  match Keyword.ofWord? head with
  | some k => ofKeyword? rest k
  | none =>
    match splitComparison? cs with
    | some (op, operand) =>
      let operand := Text.trim operand
      if operand.isEmpty then .error (.missingOperand op.symbol)
      else (Scalar.read? operand).map (.compare op)
    | none =>
      if cs.head? = some '[' || cs.getLast? = some ']' then
        (Quoting.list? cs).map (.members .any)
      else if cs.head? = some '"' then
        (Quoting.unquote? cs).map fun s => .literal (.text (String.ofList s))
      else match Keyword.lookalike? head rest with
        | some k => .error (.lookalike (String.ofList head) k.name)
        | none => .ok (.literal (.text (String.ofList cs)))

/-- Read a condition. -/
def read? (s : String) : Except Malformed Condition :=
  let cs := Text.trim s.toList
  (readTrimmed? cs).mapError fun fault => ⟨String.ofList cs, fault⟩

end Condition

end BookmarkViews
