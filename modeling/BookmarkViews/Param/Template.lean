import BookmarkViews.Condition.FromNode
import BookmarkViews.Param.Slot

/-!
Templates: texts with slots for parameters.

A slot is a pair of opening braces, the name of a parameter after `params.`, and a
pair of closing braces. `Template.scan?` cuts a text into the gaps around the slots
and the names inside them, and `Template.fill?` puts parameter values in
their place. The text of a value is not scanned again.

In a document value every text is a template. A text that is nothing but one slot
becomes the value itself, so a list stays a list.
-/

namespace BookmarkViews

/-- Parameter values by name. -/
abbrev Params := List (String × Value)

mutual

/-- The text of a parameter value inside a template. -/
def Value.inlineChars : Value → List Char
  | .text s => s.toList
  | .list items => '[' :: ", ".toList.intercalate (Value.inlineItems items) ++ [']']
  | v => v.compactChars

/-- The items of a list parameter, quoted where needed. -/
def Value.inlineItems : List Value → List (List Char)
  | [] => []
  | v :: vs => Quoting.listItem v.inlineChars :: Value.inlineItems vs

end

/-- The text of a parameter value. -/
def Value.inlineText (v : Value) : String :=
  String.ofList v.inlineChars

namespace Template

/-- A part of a template. -/
inductive Piece where
  | text (cs : List Char)
  | slot (name : String)
deriving DecidableEq, Repr

/-- Two lists by turns, the first one first. -/
def byTurns {α : Type} : List α → List α → List α
  | x :: xs, y :: ys => x :: y :: byTurns xs ys
  | xs, [] => xs
  | [], ys => ys

/-- The pieces of a text with these gaps and slots. -/
def piecesOf (gaps : List (List Char)) (slots : List Slot) : List Piece :=
  byTurns (gaps.map .text) (slots.map fun slot => .slot slot.name)

/-- Cut a template into pieces, slice by slice. -/
def pieces? (s : String) : Option (Except Fault (List Piece)) := do
  match ← slots? s with
  | .error fault => return .error fault
  | .ok slots => return .ok (piecesOf (← gapsFrom? s.toList 0 slots) slots)

theorem pieces?_of_fault {s : String} {fault : Fault} (h : slots? s = some (.error fault)) :
    pieces? s = some (.error fault) := by
  rw [pieces?, h]
  rfl

theorem pieces?_of_stand {s : String} {slots : List Slot} {gaps : List (List Char)}
    (stand : Stand 0 s.toList slots gaps) : pieces? s = some (.ok (piecesOf gaps slots)) := by
  have between : gapsFrom? s.toList 0 slots = some gaps :=
    gapsFrom?_of_stand stand [] rfl
  rw [pieces?, slots?_eq_ok_iff.mpr ⟨gaps, stand⟩]
  simp only [bind, Option.bind, between, pure]

/-- Every slice of a template can be taken. -/
theorem isSome_pieces? (s : String) : (pieces? s).isSome := by
  obtain ⟨fault | slots, found⟩ := exists_slots? s
  · rw [pieces?_of_fault found]
    rfl
  · obtain ⟨gaps, stand⟩ := slots?_eq_ok_iff.mp found
    rw [pieces?_of_stand stand]
    rfl

/-- Cut a template into pieces. Its slices can all be taken, so this always has an answer. -/
def scan? (s : String) : Except Fault (List Piece) :=
  (pieces? s).get (isSome_pieces? s)

/-- Whether a slot is opened somewhere. -/
def opensSlot (s : String) : Bool :=
  Text.occursIn ['\x7b', '\x7b'] s.toList

/-- The value bound to a name. -/
def bound? (params : Params) (name : String) : Except Fault Value :=
  match Keyed.get? params name with
  | some v => .ok v
  | none => .error (.unknownParameter name)

/-- The text of a piece with its parameter filled in. -/
def fillPiece? (params : Params) : Piece → Except Fault (List Char)
  | .text cs => .ok cs
  | .slot name => (bound? params name).map Value.inlineChars

/-- Fill in every slot of a template. -/
def fill? (params : Params) (s : String) : Except Fault String := do
  let pieces ← scan? s
  let texts ← pieces.mapM (fillPiece? params)
  return String.ofList texts.flatten

end Template

namespace Node

mutual

/-- Whether a text inside a document value opens a slot. -/
def hasSlots : Node → Bool
  | .text s => Template.opensSlot s
  | .sequence items => anyHasSlots items
  | .mapping entries => entryHasSlots entries
  | .tagged _ inner => inner.hasSlots
  | .null | .bool _ | .number _ => false

def anyHasSlots : List Node → Bool
  | [] => false
  | n :: ns => n.hasSlots || anyHasSlots ns

def entryHasSlots : List (Node × Node) → Bool
  | [] => false
  | (_, n) :: es => n.hasSlots || entryHasSlots es

end

/-- The names of the slots among pieces. -/
def pieceNames (pieces : List Template.Piece) : List String :=
  pieces.filterMap fun
    | .slot name => some name
    | .text _ => none

mutual

/-- The names of the slots of a document value, with repetitions. -/
def slotNames? : Node → Except Fault (List String)
  | .text s => (Template.scan? s).map pieceNames
  | .sequence items => allSlotNames? items
  | .mapping entries => entrySlotNames? entries
  | .tagged _ inner => inner.slotNames?
  | .null | .bool _ | .number _ => .ok []

def allSlotNames? : List Node → Except Fault (List String)
  | [] => .ok []
  | n :: ns => do
    let names ← n.slotNames?
    let rest ← allSlotNames? ns
    return names ++ rest

def entrySlotNames? : List (Node × Node) → Except Fault (List String)
  | [] => .ok []
  | (_, n) :: es => do
    let names ← n.slotNames?
    let rest ← entrySlotNames? es
    return names ++ rest

end

/-- The names of the parameters that a document value mentions, each once. -/
def parameters? (n : Node) : Except Fault (List String) :=
  n.slotNames?.map fun names => names.eraseDups

/-- Fill in a text: a lone slot becomes the value itself. -/
def fillText? (params : Params) (s : String) : Except Fault Node := do
  match ← Template.scan? s with
  | [.text [], .slot name, .text []] => return Node.ofValue (← Template.bound? params name)
  | _ => return .text (← Template.fill? params s)

mutual

/-- Fill in every text of a document value. Tags are dropped. -/
def fill? (params : Params) : Node → Except Fault Node
  | .text s => fillText? params s
  | .sequence items => (fillAll? params items).map .sequence
  | .mapping entries => (fillEntries? params entries).map .mapping
  | .tagged _ inner => fill? params inner
  | .null => .ok .null
  | .bool b => .ok (.bool b)
  | .number n => .ok (.number n)

def fillAll? (params : Params) : List Node → Except Fault (List Node)
  | [] => .ok []
  | n :: ns => do
    let m ← fill? params n
    let ms ← fillAll? params ns
    return m :: ms

def fillEntries? (params : Params) : List (Node × Node) → Except Fault (List (Node × Node))
  | [] => .ok []
  | (k, n) :: es => do
    let m ← fill? params n
    let rest ← fillEntries? params es
    return (k, m) :: rest

end

end Node

/-! ### Conditions that may be templates -/

/-- A condition as written: read already, or to be read once its parameters have
values. -/
inductive Draft where
  | ready (c : Condition)
  | template (n : Node)
deriving DecidableEq

namespace Draft

variable [PatternEngine]

/-- The condition that a text writes; a text with slots waits for them. -/
def ofText? (s : String) : Except Malformed Draft :=
  if Template.opensSlot s then .ok (.template (.text s)) else (Condition.read? s).map .ready

/-- The condition that a document value writes. -/
def ofNode? (n : Node) : Except Malformed Draft :=
  if n.hasSlots then .ok (.template n) else (Condition.ofNode? n).map .ready

/-- The text of a condition as written. -/
def text : Draft → String
  | .ready c => c.toText
  | .template (.text s) => s
  | .template n => n.compact

/-- The condition with its parameters filled in. -/
def resolve? (params : Params) : Draft → Except Malformed Condition
  | .ready c => .ok c
  | .template n =>
    match n.fill? params with
    | .ok n => Condition.ofNode? n
    | .error fault => .error ⟨(Draft.template n).text, fault⟩

end Draft

end BookmarkViews
