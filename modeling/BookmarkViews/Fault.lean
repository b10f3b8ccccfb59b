import BookmarkViews.Text.Quoted

/-!
Why a small piece of text or of a document cannot be read.

Field paths, spans, dates, conditions and templates are all written in one line of
text, and all fail the same way: with the fragment at fault and a cause. The causes are
data; `Fault.text` words them and `Malformed.message` adds the fragment.
-/

namespace BookmarkViews

/-- The cause of a failure. -/
inductive Fault where
  | emptyPath
  | emptySegment
  | spanShape
  | spanAmount (word : String)
  | spanUnit (word : String)
  | notADate
  | missingOperand (symbol : String)
  | missingText
  | takesNoOperand
  | hasNoField
  | invalidRegex
  | lookalike (head keyword : String)
  | notQuoted
  | afterQuote
  | unbalancedQuote
  | notAList
  | unbalancedBrackets
  | quoteInItem
  | emptyItem
  | itemNotScalar
  | emptyMapping
  | keyNotText
  | listExpected (operator : String)
  | unknownOperator (key : String)
  | invalidOperand (key : String)
  | unclosedSlot (position : Nat)
  | notAParameter (key : String)
  | unknownParameter (name : String)
deriving DecidableEq, Repr

/-- The wording of a cause. -/
def Fault.text : Fault → String
  | .emptyPath => "empty field reference"
  | .emptySegment => "empty segment in field reference"
  | .spanShape => "expected '<integer> <unit>'"
  | .spanAmount word => s!"invalid amount '{word}'"
  | .spanUnit word => s!"unknown unit '{word}' (hours, days, weeks, months, years)"
  | .notADate =>
    "expected a date (YYYY-MM-DD, RFC 3339, 'YYYY-MM-DD HH:MM:SS') or a relative phrase"
  | .missingOperand symbol => s!"missing operand after '{symbol}'"
  | .missingText => "missing text operand"
  | .takesNoOperand => "takes no operand"
  | .hasNoField => "'has' needs at least one field"
  | .invalidRegex => "invalid regex"
  | .lookalike head keyword => s!"'{head}' looks like the keyword '{keyword}'"
  | .notQuoted => "expected a quoted string"
  | .afterQuote => "unexpected text after closing quote"
  | .unbalancedQuote => "unbalanced quote"
  | .notAList => "expected a bracketed list"
  | .unbalancedBrackets => "unbalanced brackets"
  | .quoteInItem => "unexpected quote inside list item"
  | .emptyItem => "empty list item"
  | .itemNotScalar => "list items must be scalars"
  | .emptyMapping => "empty condition mapping"
  | .keyNotText => "operator keys must be strings"
  | .listExpected operator => s!"'{operator}' expects a list"
  | .unknownOperator key => s!"unknown operator '{key}'"
  | .invalidOperand key => s!"invalid operand for '{key}'"
  | .unclosedSlot position => s!"unclosed template at position {position}"
  | .notAParameter key => s!"unknown template variable: {key}"
  | .unknownParameter name => s!"unknown param: {name}"

/-- A fragment that cannot be read, and why. -/
structure Malformed where
  fragment : String
  fault : Fault
deriving DecidableEq, Repr

/-- The error text: the fragment in quotes, then the cause. -/
def Malformed.message (m : Malformed) : String :=
  s!"invalid expression {Text.quoted m.fragment}: {m.fault.text}"

/-- The same cause, found in a larger fragment. -/
def Malformed.within (m : Malformed) (fragment : String) : Malformed :=
  { m with fragment }

end BookmarkViews
