import BookmarkViews.Condition.Display
import BookmarkViews.Document.Node

/-!
Conditions written as document values.

A scalar is a literal, a sequence asks for any of its items, and a mapping joins
its entries: each key is a connective, a keyword or a comparison sign, and the
value its operand. An operand that is a text stands for itself, so it is quoted
before the entry is read; spans and dates are read from it.
-/

namespace BookmarkViews

variable [PatternEngine]

namespace Condition

/-- The text of an item of a list. -/
def itemText? : Node → Except Malformed String
  | .text s => .ok s
  | .number n => .ok n.yamlText
  | .bool b => .ok (if b then "true" else "false")
  | n => .error ⟨n.compact, .itemNotScalar⟩

/-- The texts of the items of a list. -/
def itemTexts? (items : List Node) : Except Malformed (List String) :=
  items.mapM itemText?

/-- The operand of a key as it stands in the text of a condition. -/
def operandChars? (key : String) (keyword : Option Keyword) :
    Node → Except Malformed (List Char)
  | .text s =>
    .ok (if keyword.any Keyword.isTemporal then s.toList else Quoting.quote s.toList)
  | .sequence items => (itemTexts? items).map Quoting.list
  | .null => .ok "null".toList
  | .bool b => .ok (if b then "true" else "false").toList
  | .number n => .ok (Scalar.ofNumber n).chars
  | n => .error ⟨n.compact, .invalidOperand key⟩

/-- The condition of an entry that is neither a connective nor a switch. -/
def ofOperator? (key : String) (value : Node) : Except Malformed Condition :=
  let trimmed := Text.trim key.toList
  let keyword := Keyword.ofWord? (Text.lower trimmed)
  let isComparison := Comparison.all.any fun op => op.symbol.toList == trimmed
  if keyword.isNone && !isComparison then .error ⟨key, .unknownOperator key⟩
  else do
    let operand ← operandChars? key keyword value
    read? (String.ofList (trimmed ++ ' ' :: operand))

mutual

/-- The condition that a document value writes. -/
def ofNode? : Node → Except Malformed Condition
  | .null => .ok (.literal .null)
  | .bool b => .ok (.literal (.bool b))
  | .number n => .ok (.literal (Scalar.ofNumber n))
  | .text s => read? s
  | .sequence items => (itemTexts? items).map (.members .any)
  | .mapping entries => do
    if entries.isEmpty then .error ⟨"\x7b\x7d", .emptyMapping⟩
    match ← ofEntries? entries with
    | [c] => return c
    | cs => return .compound .and cs
  | .tagged _ inner => ofNode? inner

/-- The conditions of the entries of a mapping. -/
def ofEntries? : List (Node × Node) → Except Malformed (List Condition)
  | [] => .ok []
  | (key, value) :: entries => do
    let c ← match key.untagged with
      | .text key =>
        match String.ofList (Text.lower (Text.trim key.toList)) with
        | "and" =>
          match value with
          | .sequence items => (ofNodes? items).map (.compound .and)
          | value => .error ⟨value.compact, .listExpected "and"⟩
        | "or" =>
          match value with
          | .sequence items => (ofNodes? items).map (.compound .or)
          | value => .error ⟨value.compact, .listExpected "or"⟩
        | "not" => (ofNode? value).map negation
        | "exists" =>
          match value with
          | .bool b => .ok (if b then .present else .absent)
          | value => ofOperator? key value
        | "missing" =>
          match value with
          | .bool b => .ok (if b then .absent else .present)
          | value => ofOperator? key value
        | _ => ofOperator? key value
      | _ => .error ⟨key.compact, .keyNotText⟩
    let cs ← ofEntries? entries
    return c :: cs

/-- The conditions that document values write. -/
def ofNodes? : List Node → Except Malformed (List Condition)
  | [] => .ok []
  | n :: ns => do
    let c ← ofNode? n
    let cs ← ofNodes? ns
    return c :: cs

end

end Condition

end BookmarkViews
