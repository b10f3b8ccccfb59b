import BookmarkViews.Value.Basic

/-!
JSON text of values: one line without blanks (`Value.compact`), or two blanks of
indentation a level (`Value.pretty`).
-/

namespace BookmarkViews

namespace Json

/-- Two lower-case hexadecimal digits. -/
def hexPair (n : Nat) : List Char :=
  let ds := Nat.toDigits 16 n
  List.replicate (2 - ds.length) '0' ++ ds

/-- One character between the quotes. -/
def escapedChar (c : Char) : List Char :=
  if c = '"' then ['\\', '"']
  else if c = '\\' then ['\\', '\\']
  else if c = '\n' then ['\\', 'n']
  else if c = '\r' then ['\\', 'r']
  else if c = '\t' then ['\\', 't']
  else if c.toNat = 8 then ['\\', 'b']
  else if c.toNat = 12 then ['\\', 'f']
  else if c.toNat < 0x20 then ['\\', 'u', '0', '0'] ++ hexPair c.toNat
  else [c]

/-- A text in quotes. -/
def string (s : String) : List Char :=
  '"' :: s.toList.flatMap escapedChar ++ ['"']

/-- The blanks that start a line at a depth. -/
def indent (depth : Nat) : List Char :=
  '\n' :: List.replicate (2 * depth) ' '

end Json

mutual

/-- The one-line text of a value. -/
def Value.compactChars : Value → List Char
  | .null => "null".toList
  | .bool b => (if b then "true" else "false").toList
  | .number n => n.text.toList
  | .text s => Json.string s
  | .list items => '[' :: Value.compactItems items ++ [']']
  | .object fields => '\x7b' :: Value.compactFields fields ++ ['\x7d']

/-- The items of a list, with commas between them. -/
def Value.compactItems : List Value → List Char
  | [] => []
  | [v] => v.compactChars
  | v :: vs => v.compactChars ++ ',' :: Value.compactItems vs

/-- The fields of an object, with commas between them. -/
def Value.compactFields : List (String × Value) → List Char
  | [] => []
  | [(k, v)] => Json.string k ++ ':' :: v.compactChars
  | (k, v) :: fs => Json.string k ++ ':' :: v.compactChars ++ ',' :: Value.compactFields fs

end

mutual

/-- The indented text of a value at a depth. -/
def Value.prettyChars (depth : Nat) : Value → List Char
  | .list (v :: vs) => '[' :: Value.prettyItems (depth + 1) (v :: vs) ++ Json.indent depth ++ [']']
  | .object (f :: fs) =>
    '\x7b' :: Value.prettyFields (depth + 1) (f :: fs) ++ Json.indent depth ++ ['\x7d']
  | .list [] => ['[', ']']
  | .object [] => ['\x7b', '\x7d']
  | .null => "null".toList
  | .bool b => (if b then "true" else "false").toList
  | .number n => n.text.toList
  | .text s => Json.string s

/-- The items of a list, a line each. -/
def Value.prettyItems (depth : Nat) : List Value → List Char
  | [] => []
  | [v] => Json.indent depth ++ v.prettyChars depth
  | v :: vs => Json.indent depth ++ v.prettyChars depth ++ ',' :: Value.prettyItems depth vs

/-- The fields of an object, a line each. -/
def Value.prettyFields (depth : Nat) : List (String × Value) → List Char
  | [] => []
  | [(k, v)] => Json.indent depth ++ Json.string k ++ ':' :: ' ' :: v.prettyChars depth
  | (k, v) :: fs =>
    Json.indent depth ++ Json.string k ++ ':' :: ' ' :: v.prettyChars depth ++
      ',' :: Value.prettyFields depth fs

end

/-- The one-line JSON text of a value. -/
def Value.compact (v : Value) : String :=
  String.ofList v.compactChars

/-- The indented JSON text of a value. -/
def Value.pretty (v : Value) : String :=
  String.ofList (v.prettyChars 0)

end BookmarkViews
