import BookmarkViews.Text.Quoted
import BookmarkViews.Value.Json

/-!
Document values: what a view document holds.

A document value says more than a record value: the keys of a mapping may be any
values, and a value may carry a tag. `Node.toValue?` forgets the tags and fails
where a key has no text.
-/

namespace BookmarkViews

/-- A document value. -/
inductive Node where
  | null
  | bool (b : Bool)
  | number (n : Number)
  | text (s : String)
  | sequence (items : List Node)
  | mapping (entries : List (Node × Node))
  | tagged (tag : String) (inner : Node)
deriving Repr, Inhabited

/-! ### Equality -/

mutual

/-- Equality of document values, decided. -/
def Node.decEq : (a b : Node) → Decidable (a = b)
  | .null, .null => isTrue rfl
  | .bool a, .bool b => if h : a = b then isTrue (by rw [h]) else isFalse (by simp [h])
  | .number a, .number b => if h : a = b then isTrue (by rw [h]) else isFalse (by simp [h])
  | .text a, .text b => if h : a = b then isTrue (by rw [h]) else isFalse (by simp [h])
  | .sequence a, .sequence b =>
    match Node.decEqList a b with
    | isTrue h => isTrue (by rw [h])
    | isFalse h => isFalse (by simp [h])
  | .mapping a, .mapping b =>
    match Node.decEqEntries a b with
    | isTrue h => isTrue (by rw [h])
    | isFalse h => isFalse (by simp [h])
  | .tagged s a, .tagged t b =>
    if hs : s = t then
      match Node.decEq a b with
      | isTrue h => isTrue (by rw [hs, h])
      | isFalse h => isFalse (by simp [h])
    else isFalse (by simp [hs])
  | .null, .bool _ | .null, .number _ | .null, .text _ | .null, .sequence _ | .null, .mapping _
  | .null, .tagged _ _ | .bool _, .null | .bool _, .number _ | .bool _, .text _
  | .bool _, .sequence _ | .bool _, .mapping _ | .bool _, .tagged _ _ | .number _, .null
  | .number _, .bool _ | .number _, .text _ | .number _, .sequence _ | .number _, .mapping _
  | .number _, .tagged _ _ | .text _, .null | .text _, .bool _ | .text _, .number _
  | .text _, .sequence _ | .text _, .mapping _ | .text _, .tagged _ _ | .sequence _, .null
  | .sequence _, .bool _ | .sequence _, .number _ | .sequence _, .text _
  | .sequence _, .mapping _ | .sequence _, .tagged _ _ | .mapping _, .null | .mapping _, .bool _
  | .mapping _, .number _ | .mapping _, .text _ | .mapping _, .sequence _
  | .mapping _, .tagged _ _ | .tagged _ _, .null | .tagged _ _, .bool _ | .tagged _ _, .number _
  | .tagged _ _, .text _ | .tagged _ _, .sequence _ | .tagged _ _, .mapping _ =>
    isFalse (by simp)

/-- Equality of lists of document values, decided. -/
def Node.decEqList : (a b : List Node) → Decidable (a = b)
  | [], [] => isTrue rfl
  | [], _ :: _ | _ :: _, [] => isFalse (by simp)
  | a :: as, b :: bs =>
    match Node.decEq a b, Node.decEqList as bs with
    | isTrue h, isTrue hs => isTrue (by rw [h, hs])
    | isFalse h, _ => isFalse (by simp [h])
    | _, isFalse h => isFalse (by simp [h])

/-- Equality of lists of entries, decided. -/
def Node.decEqEntries : (a b : List (Node × Node)) → Decidable (a = b)
  | [], [] => isTrue rfl
  | [], _ :: _ | _ :: _, [] => isFalse (by simp)
  | (k, a) :: as, (l, b) :: bs =>
    match Node.decEq k l, Node.decEq a b, Node.decEqEntries as bs with
    | isTrue hk, isTrue h, isTrue hs => isTrue (by rw [hk, h, hs])
    | isFalse hk, _, _ => isFalse (by simp [hk])
    | _, isFalse h, _ => isFalse (by simp [h])
    | _, _, isFalse h => isFalse (by simp [h])

end

instance : DecidableEq Node := Node.decEq

namespace Node

/-! ### Parts -/

def text? : Node → Option String
  | .text s => some s
  | _ => none

/-- A value without the tags around it. -/
def untagged : Node → Node
  | .tagged _ inner => inner.untagged
  | n => n

/-- The text a tag is written with. -/
def tagText (tag : String) : String :=
  if tag.startsWith "!" then tag else "!" ++ tag

end Node

/-! ### Between document values and record values -/

/-- Why a key cannot name a field. -/
inductive KeyFault where
  | notText
  | notFinite
deriving DecidableEq, Repr

def KeyFault.message : KeyFault → String
  | .notText => "key must be a string"
  | .notFinite => "float key must be finite (got NaN or +/-inf)"

/-- The name of the field that a key stands for. -/
def Node.keyName? : Node → Except KeyFault String
  | .text s => .ok s
  | .bool b => .ok (if b then "true" else "false")
  | .number (.int n) => .ok (Number.int n).text
  | .number (.float x) => if x.isFinite then .ok (Number.float x).text else .error .notFinite
  | _ => .error .notText

/-- A number as a record value; what is not finite becomes null. -/
def Value.ofNumber : Number → Value
  | .int n => .ofInt n
  | .float x => .ofFloat x

mutual

/-- The record value of a document value; a tag becomes the only field of an
object. -/
def Node.toValue? : Node → Except KeyFault Value
  | .null => .ok .null
  | .bool b => .ok (.bool b)
  | .number n => .ok (Value.ofNumber n)
  | .text s => .ok (.text s)
  | .sequence items => (Node.toValues? items).map .list
  | .mapping entries => (Node.toFields? entries).map fun fs => .object (Keyed.ofEntries fs)
  | .tagged tag inner => inner.toValue?.map fun v => .object [(Node.tagText tag, v)]

def Node.toValues? : List Node → Except KeyFault (List Value)
  | [] => .ok []
  | n :: ns => do
    let v ← n.toValue?
    let vs ← Node.toValues? ns
    return v :: vs

def Node.toFields? : List (Node × Node) → Except KeyFault (List (String × Value))
  | [] => .ok []
  | (k, n) :: es => do
    let name ← k.keyName?
    let v ← n.toValue?
    let fs ← Node.toFields? es
    return (name, v) :: fs

end

mutual

/-- A record value as a document value. -/
def Node.ofValue : Value → Node
  | .null => .null
  | .bool b => .bool b
  | .number n => .number n
  | .text s => .text s
  | .list items => .sequence (Node.ofValues items)
  | .object fields => .mapping (Node.ofFields fields)

def Node.ofValues : List Value → List Node
  | [] => []
  | v :: vs => Node.ofValue v :: Node.ofValues vs

def Node.ofFields : List (String × Value) → List (Node × Node)
  | [] => []
  | (name, v) :: fs => (.text name, Node.ofValue v) :: Node.ofFields fs

end

/-! ### Text -/

/-- Texts with a comma and a blank between them. -/
def Text.commaSeparated : List (List Char) → List Char
  | [] => []
  | [t] => t
  | t :: ts => t ++ ',' :: ' ' :: Text.commaSeparated ts

mutual

/-- The one-line JSON text of a document value, when every key has a name. -/
def Node.jsonChars? : Node → Except KeyFault (List Char)
  | .null => .ok "null".toList
  | .bool b => .ok (if b then "true" else "false").toList
  | .number n => .ok (Value.ofNumber n).compactChars
  | .text s => .ok (Json.string s)
  | .sequence items => (Node.jsonItems? items).map fun cs => '[' :: cs ++ [']']
  | .mapping entries => (Node.jsonEntries? entries).map fun cs => '\x7b' :: cs ++ ['\x7d']
  | .tagged tag inner =>
    inner.jsonChars?.map fun cs => '\x7b' :: Json.string (Node.tagText tag) ++ ':' :: cs ++ ['\x7d']

def Node.jsonItems? : List Node → Except KeyFault (List Char)
  | [] => .ok []
  | [n] => n.jsonChars?
  | n :: ns => do
    let cs ← n.jsonChars?
    let rest ← Node.jsonItems? ns
    return cs ++ ',' :: rest

def Node.jsonEntries? : List (Node × Node) → Except KeyFault (List Char)
  | [] => .ok []
  | [(k, n)] => do
    let name ← k.keyName?
    let cs ← n.jsonChars?
    return Json.string name ++ ':' :: cs
  | (k, n) :: es => do
    let name ← k.keyName?
    let cs ← n.jsonChars?
    let rest ← Node.jsonEntries? es
    return Json.string name ++ ':' :: cs ++ ',' :: rest

end

mutual

/-- The structural text of a document value, which names every kind. -/
def Node.structureChars : Node → List Char
  | .null => "Null".toList
  | .bool b => (if b then "Bool(true)" else "Bool(false)").toList
  | .number n => "Number(".toList ++ n.yamlText.toList ++ [')']
  | .text s => "String(".toList ++ (Text.quoted s).toList ++ [')']
  | .sequence items =>
    "Sequence [".toList ++ Text.commaSeparated (Node.structureItems items) ++ [']']
  | .mapping entries =>
    "Mapping \x7b".toList ++ Text.commaSeparated (Node.structureEntries entries) ++ ['\x7d']
  | .tagged tag inner =>
    "TaggedValue \x7b tag: ".toList ++ (Node.tagText tag).toList ++ ", value: ".toList ++
      inner.structureChars ++ " \x7d".toList

def Node.structureItems : List Node → List (List Char)
  | [] => []
  | n :: ns => n.structureChars :: Node.structureItems ns

def Node.structureEntries : List (Node × Node) → List (List Char)
  | [] => []
  | (k, n) :: es =>
    let key := match k with
      | .bool b => (if b then "true" else "false").toList
      | .number m => m.text.toList
      | .text s => (Text.quoted s).toList
      | k => k.structureChars
    (key ++ ':' :: ' ' :: n.structureChars) :: Node.structureEntries es

end

/-- The structural text of a document value. -/
def Node.structure (n : Node) : String :=
  String.ofList n.structureChars

/-- The one-line text of a document value: JSON, or the structural text where a
key has no name. -/
def Node.compact (n : Node) : String :=
  match n.jsonChars? with
  | .ok cs => String.ofList cs
  | .error _ => n.structure

end BookmarkViews
