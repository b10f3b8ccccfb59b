import BookmarkViews.Yaml.Token

/-!
The tree of a YAML text: scalars, sequences and mappings, with their tags.

A text holds one document. A missing scalar counts as an unquoted empty one, and an
alias as the tree that its anchor names.
-/

namespace BookmarkViews.Yaml

inductive Tree where
  | scalar (tag : Option String) (isPlain : Bool) (text : List Char)
  | sequence (tag : Option String) (items : List Tree)
  | mapping (tag : Option String) (entries : List (Tree × Tree))
deriving Repr, Inhabited

/-- What stands where nothing is written. -/
def Tree.missing : Tree :=
  .scalar none true []

/-- The tokens still to read, and the trees that have been given a name. -/
structure Source where
  tokens : List Token
  anchors : List (String × Tree) := []

abbrev Reader := StateT Source Option

namespace Reader

def peek? : Reader (Option Token) :=
  return (← get).tokens.head?

/-- Skip a token. -/
def skip : Reader Unit :=
  modify fun s => { s with tokens := s.tokens.tail }

/-- Skip a token if it comes next, and tell whether it does. -/
def accept (t : Token) : Reader Bool := do
  if (← peek?) == some t then
    skip
    return true
  else return false

/-- Whether one of some tokens comes next. -/
def atAny (ts : List Token) : Reader Bool := do
  return match ← peek? with
    | some t => ts.contains t
    | none => false

def anchor? : Reader (Option String) := do
  match ← peek? with
  | some (.anchor name) => skip; return some name
  | _ => return none

def tag? : Reader (Option String) := do
  match ← peek? with
  | some (.tag text) => skip; return some text
  | _ => return none

/-- Read an anchor and a tag, either of which may be missing and come last. -/
def properties : Reader (Option String × Option String) := do
  match ← anchor? with
  | some name => return (some name, ← tag?)
  | none =>
    match ← tag? with
    | some text => return (← anchor?, some text)
    | none => return (none, none)

/-- Give a tree a name. -/
def remember (name : Option String) (t : Tree) : Reader Unit := do
  match name with
  | some name => modify fun s => { s with anchors := (name, t) :: s.anchors }
  | none => return

def known? (name : String) : Reader Tree := do
  match (← get).anchors.lookup name with
  | some t => return t
  | none => failure

mutual

/-- Read a tree. Blocks are read where `block` holds, and a sequence without
indentation of its own where `loose` does. -/
def tree (block loose : Bool) : (fuel : Nat) → Reader Tree
  | 0 => failure
  | fuel + 1 => do
    match ← peek? with
    | some (.alias name) =>
      skip
      known? name
    | _ =>
      let (name, tag) ← properties
      let t ← content block loose tag (name.isSome || tag.isSome) fuel
      remember name t
      return t

/-- Read a tree after its properties. -/
def content (block loose : Bool) (tag : Option String) (mayBeMissing : Bool) :
    (fuel : Nat) → Reader Tree
  | 0 => failure
  | fuel + 1 => do
    match ← peek? with
    | some (.scalar isPlain text) =>
      skip
      return .scalar tag isPlain text
    | some .openSequence =>
      skip
      return .sequence tag (← flowItems true fuel)
    | some .openMapping =>
      skip
      return .mapping tag (← flowEntries true fuel)
    | t =>
      if loose && t == some .entry then return .sequence tag (← looseItems fuel)
      else if block && t == some .blockSequence then
        skip
        return .sequence tag (← blockItems fuel)
      else if block && t == some .blockMapping then
        skip
        return .mapping tag (← blockEntries fuel)
      else if mayBeMissing then return .scalar tag true []
      else failure

/-- Read a tree unless one of some tokens comes next. -/
def treeUnless (block loose : Bool) (ends : List Token) : (fuel : Nat) → Reader Tree
  | 0 => failure
  | fuel + 1 => do
    if ← atAny ends then return .missing else tree block loose fuel

/-- The items of an indented sequence. -/
def blockItems : (fuel : Nat) → Reader (List Tree)
  | 0 => failure
  | fuel + 1 => do
    if ← accept .entry then
      let item ← treeUnless true false [.entry, .blockEnd] fuel
      return item :: (← blockItems fuel)
    else if ← accept .blockEnd then return []
    else failure

/-- The items of a sequence at the indentation of the mapping it stands in. -/
def looseItems : (fuel : Nat) → Reader (List Tree)
  | 0 => failure
  | fuel + 1 => do
    if ← accept .entry then
      let item ← treeUnless true false [.entry, .key, .value, .blockEnd] fuel
      return item :: (← looseItems fuel)
    else return []

/-- The entries of an indented mapping. -/
def blockEntries : (fuel : Nat) → Reader (List (Tree × Tree))
  | 0 => failure
  | fuel + 1 => do
    if ← accept .key then
      let key ← treeUnless true true [.key, .value, .blockEnd] fuel
      let value ← if ← accept .value then treeUnless true true [.key, .value, .blockEnd] fuel
        else pure .missing
      return (key, value) :: (← blockEntries fuel)
    else if ← accept .blockEnd then return []
    else failure

/-- The items of a sequence in brackets. An item may be an entry of a mapping. -/
def flowItems (first : Bool) : (fuel : Nat) → Reader (List Tree)
  | 0 => failure
  | fuel + 1 => do
    if ← accept .closeSequence then return []
    else
      if !first then guard (← accept .comma)
      if ← accept .closeSequence then return []
      else if ← accept .key then
        let key ←
          if ← atAny [.value, .comma, .closeSequence] then
            skip
            pure Tree.missing
          else tree false false fuel
        let value ← if ← accept .value then treeUnless false false [.comma, .closeSequence] fuel
          else pure .missing
        return .mapping none [(key, value)] :: (← flowItems false fuel)
      else
        let item ← tree false false fuel
        return item :: (← flowItems false fuel)

/-- The entries of a mapping in braces. -/
def flowEntries (first : Bool) : (fuel : Nat) → Reader (List (Tree × Tree))
  | 0 => failure
  | fuel + 1 => do
    if ← accept .closeMapping then return []
    else
      if !first then guard (← accept .comma)
      if ← accept .closeMapping then return []
      else if ← accept .key then
        let key ← treeUnless false false [.value, .comma, .closeMapping] fuel
        let value ← if ← accept .value then treeUnless false false [.comma, .closeMapping] fuel
          else pure .missing
        return (key, value) :: (← flowEntries false fuel)
      else
        let key ← tree false false fuel
        return (key, .missing) :: (← flowEntries false fuel)

end

/-- Read the only document. -/
def document (fuel : Nat) : Reader Tree := do
  if (← peek?) == none then return .missing
  else
    let t ←
      if ← accept .documentStart then
        if (← peek?) == none then pure Tree.missing
        else treeUnless true false [.documentStart, .documentEnd] fuel
      else tree true false fuel
    modify fun s => { s with tokens := s.tokens.dropWhile (· == .documentEnd) }
    if (← peek?) == none then return t else failure

end Reader

/-- The tree of a text. -/
def Tree.read? (cs : List Char) : Option Tree := do
  let tokens ← tokens? cs
  let (t, _) ← (Reader.document (4 * tokens.length + 4)).run { tokens }
  return t

end BookmarkViews.Yaml
