import BookmarkViews.Condition.Grammar

/-!
The text of conditions, in the grammar that `Condition.read?` reads.

A literal text is quoted exactly where it would not be read back as itself. Joined
conditions have a text too, although the grammar has none for them.
-/

namespace BookmarkViews

variable [PatternEngine]

/-- The text of a scalar, without quotes. -/
def Scalar.chars : Scalar → List Char
  | .null => "null".toList
  | .bool b => (if b then "true" else "false").toList
  | .int n => Decimal.ofInt n
  | .float x => Decimal.operandStyle.render x
  | .text s => s.toList

/-- The text of a scalar as an operand, where texts are quoted. -/
def Scalar.operandText : Scalar → List Char
  | .text s => Quoting.quote s.toList
  | s => s.chars

namespace Condition

/-- Whether a text is read as the literal of itself. -/
def readsAsItself (cs : List Char) : Bool :=
  match readTrimmed? (Text.trim cs) with
  | .ok (.literal (.text s)) => s.toList == cs
  | _ => false

/-- A literal text. -/
def literalText (cs : List Char) : List Char :=
  if cs.head? != some '"' && readsAsItself cs then cs else Quoting.quote cs

mutual

/-- The text of a condition. -/
def chars : Condition → List Char
  | .literal (.text s) => literalText s.toList
  | .literal value => value.chars
  | .compare op value => op.symbol.toList ++ ' ' :: value.operandText
  | .temporal t => t.text.toList
  | .members q patterns => q.name.toList ++ ' ' :: Quoting.list patterns
  | .text t => t.name.toList ++ ' ' :: Quoting.quote t.operand.toList
  | .present => Keyword.present.name.toList
  | .absent => Keyword.absent.name.toList
  | .has names => Keyword.has.name.toList ++ ' ' :: Quoting.list names
  | .compound .and parts => " and ".toList.intercalate (partChars parts)
  | .compound .or parts => " or ".toList.intercalate (partChars parts)
  | .compound .not [part] => "not ".toList ++ ([] : List Char).intercalate (partChars [part])
  | .compound .not parts =>
    "not (".toList ++ " and ".toList.intercalate (partChars parts) ++ [')']

/-- The texts of the parts of a joined condition; those that are joined
themselves stand in parentheses. -/
def partChars : List Condition → List (List Char)
  | [] => []
  | c :: cs => (if c.isCompound then '(' :: c.chars ++ [')'] else c.chars) :: partChars cs

end

/-- The text of a condition. -/
def toText (c : Condition) : String :=
  String.ofList c.chars

end Condition

end BookmarkViews
