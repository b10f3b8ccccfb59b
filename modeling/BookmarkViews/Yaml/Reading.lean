import BookmarkViews.Text.Blank
import BookmarkViews.Yaml.Plain
import BookmarkViews.Yaml.Tree

/-!
Reading YAML text as document values, and as record values.

A document value keeps tags and keys of any kind, and no two keys of a mapping are
equal. A record value has neither: tags are refused, every scalar is a key with its
own text, and the last of equal keys counts.

Containers nest at most `Yaml.deepest` deep.
-/

namespace BookmarkViews.Yaml

/-- The most containers that may stand in each other. -/
def deepest : Nat := 128

/-- The tag that a document value keeps: one that starts with an exclamation
mark. -/
def ownTag? (tag : Option String) : Option String :=
  tag.filter fun t => t.startsWith "!"

/-- The name of the standard type that a tag stands for. -/
def standardType? (tag : Option String) : Option String :=
  match tag with
  | some t => (Text.after? Scan.standard.toList t.toList).map String.ofList
  | none => none

/-- The value of a scalar, given its tag. -/
def scalarNode? (tag : Option String) (isPlain : Bool) (text : List Char) : Option Node :=
  match standardType? tag with
  | some "null" => if text != [] && Plain.isNull text then some .null else none
  | some "bool" => (Plain.bool? text).map .bool
  | some "int" =>
    ((Plain.integer? text).filter Plain.isHeld).map fun n => .number (.int n)
  | some "float" => (Plain.float? text).map fun x => .number (.float x)
  | some _ => some (.text (String.ofList text))
  | none =>
    if isPlain && (tag.isNone || (ownTag? tag).isSome) then Plain.node? text
    else some (.text (String.ofList text))

/-- Keys are compared as values: zeros of either sign are equal, and so are doubles
that are not numbers. -/
def sameKey : (a b : Node) → Bool
  | .number (.float x), .number (.float y) => x.sameValue y || (x.isNaN && y.isNaN)
  | a, b => a == b

/-- Add an entry with a new key to entries, last first. -/
def addEntry? (entries : List (Node × Node)) (key value : Node) : Option (List (Node × Node)) :=
  if entries.any fun e => sameKey e.1 key then none else some ((key, value) :: entries)

/-- The value under the tag that it keeps. -/
def withTag (tag : Option String) (n : Node) : Node :=
  match ownTag? tag with
  | some t => .tagged t n
  | none => n

mutual

/-- The document value of a tree that may hold `room` containers in each other. -/
def Tree.node? (room : Nat) : Tree → Option Node
  | .scalar tag isPlain text => (scalarNode? tag isPlain text).map (withTag tag)
  | .sequence tag items =>
    if room = 0 then none
    else (Tree.nodes? (room - 1) items).map fun ns => withTag tag (.sequence ns)
  | .mapping tag entries =>
    if room = 0 then none
    else (Tree.entries? (room - 1) [] entries).map fun es => withTag tag (.mapping es)

def Tree.nodes? (room : Nat) : List Tree → Option (List Node)
  | [] => some []
  | t :: ts => do
    let n ← t.node? room
    let ns ← Tree.nodes? room ts
    return n :: ns

/-- The entries of a mapping after those already read, which stand last first. -/
def Tree.entries? (room : Nat) (done : List (Node × Node)) :
    List (Tree × Tree) → Option (List (Node × Node))
  | [] => some done.reverse
  | (k, v) :: es => do
    let key ← k.node? room
    let value ← v.node? room
    Tree.entries? room (← addEntry? done key value) es

end

/-- The text of a key of a record value. -/
def Tree.keyText? : Tree → Option String
  | .scalar _ _ text => some (String.ofList text)
  | _ => none

mutual

/-- The record value of a tree that may hold `room` containers in each other. -/
def Tree.value? (room : Nat) : Tree → Option Value
  | .scalar tag isPlain text =>
    if (ownTag? tag).isSome then none
    else match scalarNode? tag isPlain text with
      | some n => n.toValue?.toOption
      | none => none
  | .sequence tag items =>
    if room = 0 || (ownTag? tag).isSome then none
    else (Tree.values? (room - 1) items).map .list
  | .mapping tag entries =>
    if room = 0 || (ownTag? tag).isSome then none
    else (Tree.fields? (room - 1) entries).map fun fs => .object (Keyed.ofEntries fs)

def Tree.values? (room : Nat) : List Tree → Option (List Value)
  | [] => some []
  | t :: ts => do
    let v ← t.value? room
    let vs ← Tree.values? room ts
    return v :: vs

def Tree.fields? (room : Nat) : List (Tree × Tree) → Option (List (String × Value))
  | [] => some []
  | (k, v) :: es => do
    let name ← k.keyText?
    let value ← v.value? room
    let fields ← Tree.fields? room es
    return (name, value) :: fields

end

/-- Read a text as a document value. -/
def node? (text : String) : Option Node := do
  let t ← Tree.read? text.toList
  t.node? deepest

end BookmarkViews.Yaml
