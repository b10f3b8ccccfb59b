import BookmarkViews.Yaml.Scalar

/-!
The tokens of YAML text.

Indentation becomes tokens: a line that is indented further than the collection it
stands in starts a block, and one indented less ends blocks. A key has no mark of
its own, so a scalar or a collection that may turn out to be one is remembered
(`KeyMark`), and the colon after it puts the `key` token in front.

`tokens?` reads a whole text; it fails where no token can start.
-/

namespace BookmarkViews.Yaml

inductive Token where
  | documentStart
  | documentEnd
  | blockSequence
  | blockMapping
  | blockEnd
  | openSequence
  | closeSequence
  | openMapping
  | closeMapping
  | entry
  | comma
  | key
  | value
  | anchor (name : String)
  | alias (name : String)
  | tag (text : String)
  | scalar (isPlain : Bool) (text : List Char)
deriving DecidableEq, Repr

/-- Where a key may have started. -/
structure KeyMark where
  line : Nat
  column : Nat
  offset : Nat
  /-- The number of tokens before it. -/
  position : Nat
  /-- Whether the block it stands in has room for nothing else. -/
  required : Bool

/-- What has been read of a text, and what is open. -/
structure Scan where
  rest : List Place
  tokens : Array Token := #[]
  /-- The indentation of the innermost block; -1 outside of all blocks. -/
  indent : Int := -1
  /-- The indentations of the blocks around it, innermost first. -/
  outer : List Int := []
  /-- The key that may be open between each pair of brackets, innermost first; the
  last one is outside of all brackets. -/
  keys : List (Option KeyMark) := [none]
  /-- Whether a key may start here. -/
  keyAllowed : Bool := true

namespace Scan

/-- Whether the next character stands between brackets. -/
def inFlow (s : Scan) : Bool :=
  1 < s.keys.length

/-- The column of the next character; -1 at the end of the text. -/
def column (s : Scan) : Int :=
  match s.rest with
  | [] => -1
  | p :: _ => p.column

def push (s : Scan) (t : Token) : Scan :=
  { s with tokens := s.tokens.push t }

/-- Move on by so many characters. -/
def skip (s : Scan) (n : Nat) : Scan :=
  { s with rest := s.rest.drop n }

/-! ### Blanks -/

/-- Skip blanks, comments and line breaks. A line break outside of brackets allows
a key; a tab is a blank only where no key may start. The answer tells whether a key
is allowed. -/
def skipBlanks (inFlow keyAllowed inComment : Bool) : List Place → Bool × List Place
  | [] => (keyAllowed, [])
  | p :: ps =>
    if isBreak p.char then skipBlanks inFlow (keyAllowed || !inFlow) false ps
    else if inComment || p.char = ' ' || (p.char = '\t' && (inFlow || !keyAllowed)) then
      skipBlanks inFlow keyAllowed inComment ps
    else if p.char = '#' then skipBlanks inFlow keyAllowed true ps
    else (keyAllowed, p :: ps)

def toToken (s : Scan) : Scan :=
  let (keyAllowed, rest) := skipBlanks s.inFlow s.keyAllowed false s.rest
  { s with keyAllowed, rest }

/-! ### Keys -/

/-- The most characters of a key that has no mark. -/
def longestKey : Nat := 1024

/-- Forget a key that cannot be one: it would span lines or be too long. A
required key cannot be forgotten. -/
def refresh? (p : Place) : Option KeyMark → Option (Option KeyMark)
  | none => some none
  | some k =>
    if k.line < p.line || k.offset + longestKey < p.offset then
      if k.required then none else some none
    else some (some k)

/-- Forget all keys that cannot be keys any more. -/
def refreshKeys? (s : Scan) : Option Scan :=
  match s.rest with
  | [] => some s
  | p :: _ => (s.keys.mapM (refresh? p)).map fun keys => { s with keys }

/-- Forget the innermost key; a required one cannot be forgotten. -/
def dropKey? (s : Scan) : Option Scan :=
  match s.keys with
  | some k :: keys => if k.required then none else some { s with keys := none :: keys }
  | _ => some s

/-- Remember that a key may start here. -/
def markKey? (s : Scan) : Option Scan :=
  match s.rest with
  | p :: _ =>
    if s.keyAllowed then do
      let s ← s.dropKey?
      let required := !s.inFlow && s.indent == p.column
      some { s with
        keys := some ⟨p.line, p.column, p.offset, s.tokens.size, required⟩ :: s.keys.tail }
    else some s
  | [] => some s

/-! ### Blocks -/

/-- Start a block at a column that is indented further than the blocks around it;
its token goes in front of the token at `position`. -/
def openBlock (s : Scan) (column : Int) (t : Token) (position : Nat) : Scan :=
  if !s.inFlow && s.indent < column then
    { s with
      tokens := s.tokens.insertIdxIfInBounds position t
      indent := column
      outer := s.indent :: s.outer }
  else s

/-- The blocks that end at a column: their number, and the blocks that stay. -/
def closed (column : Int) : (indent : Int) → (outer : List Int) → Nat × Int × List Int
  | indent, [] => (0, indent, [])
  | indent, next :: outer =>
    if column < indent then
      let (n, kept) := closed column next outer
      (n + 1, kept)
    else (0, indent, next :: outer)

/-- End the blocks that are indented further than a column. -/
def closeBlocks (s : Scan) (column : Int) : Scan :=
  if s.inFlow then s
  else
    let (n, indent, outer) := closed column s.indent s.outer
    { s with tokens := s.tokens ++ Array.replicate n Token.blockEnd, indent, outer }

/-! ### Marks -/

/-- The start or the end of a document. -/
def documentMark? (s : Scan) (t : Token) : Option Scan := do
  let s ← (s.closeBlocks (-1)).dropKey?
  return { (s.push t).skip 3 with keyAllowed := false }

/-- An opening bracket. -/
def openFlow? (s : Scan) (t : Token) : Option Scan := do
  let s ← s.markKey?
  return { (s.push t).skip 1 with keys := none :: s.keys, keyAllowed := true }

/-- A closing bracket. -/
def closeFlow? (s : Scan) (t : Token) : Option Scan := do
  let s ← s.dropKey?
  let keys := match s.keys with
    | _ :: outer :: keys => outer :: keys
    | keys => keys
  return { (s.push t).skip 1 with keys, keyAllowed := false }

def comma? (s : Scan) : Option Scan := do
  let s ← s.dropKey?
  return { (s.push .comma).skip 1 with keyAllowed := true }

/-- The dash of a sequence. -/
def entry? (s : Scan) : Option Scan := do
  guard (s.inFlow || s.keyAllowed)
  let s ← (s.openBlock s.column .blockSequence s.tokens.size).dropKey?
  return { (s.push .entry).skip 1 with keyAllowed := true }

/-- The question mark of a key. -/
def key? (s : Scan) : Option Scan := do
  guard (s.inFlow || s.keyAllowed)
  let s ← (s.openBlock s.column .blockMapping s.tokens.size).dropKey?
  return { (s.push .key).skip 1 with keyAllowed := !s.inFlow }

/-- The colon of a value. -/
def value? (s : Scan) : Option Scan :=
  match s.keys with
  | some k :: keys =>
    let s := { s with tokens := s.tokens.insertIdxIfInBounds k.position .key }
    let s := s.openBlock k.column .blockMapping k.position
    some { (s.push .value).skip 1 with keys := none :: keys, keyAllowed := false }
  | _ => do
    guard (s.inFlow || s.keyAllowed)
    let s := s.openBlock s.column .blockMapping s.tokens.size
    return { (s.push .value).skip 1 with keyAllowed := !s.inFlow }

/-! ### Anchors and tags -/

def isNameChar (c : Char) : Bool :=
  c.isAlphanum || c = '_' || c = '-'

/-- The characters from here on that satisfy `f`, and the places after them. -/
def run (f : Char → Bool) (ps : List Place) : String × List Place :=
  let (taken, rest) := ps.span fun p => f p.char
  (String.ofList (taken.map Place.char), rest)

/-- An anchor or an alias. -/
def name? (s : Scan) (t : String → Token) : Option Scan := do
  let s ← s.markKey?
  let (name, rest) := run isNameChar (s.rest.drop 1)
  let ends := atGap rest ||
    (rest.head?.any fun p => ['?', ':', ',', ']', '\x7d', '%', '@', '\x60'].contains p.char)
  guard (!name.isEmpty && ends)
  return { s.push (t name) with rest, keyAllowed := false }

/-- The characters of a tag; between angle brackets there are some more. -/
def isTagChar (bracketed : Bool) (c : Char) : Bool :=
  isNameChar c || ";/?:@&=+$.!~*'()".contains c || (bracketed && ",[]".contains c)

/-- What the tags of the standard types start with. -/
def standard : String := "tag:yaml.org,2002:"

/-- The tag after an exclamation mark. -/
def tagText? (ps : List Place) : Option (String × List Place) :=
  if isNext '<' ps then do
    let (text, rest) := run (isTagChar true) (ps.drop 1)
    guard (!text.isEmpty && isNext '>' rest)
    return (text, rest.drop 1)
  else if isNext '!' ps then do
    let (text, rest) := run (isTagChar false) (ps.drop 1)
    guard !text.isEmpty
    return (standard ++ text, rest)
  else do
    let (text, rest) := run (isTagChar false) ps
    guard !text.contains '!'
    return ("!" ++ text, rest)

def tag? (s : Scan) : Option Scan := do
  let s ← s.markKey?
  let (text, rest) ← tagText? (s.rest.drop 1)
  guard (atGap rest || (s.inFlow && isNext ',' rest))
  return { s.push (.tag text) with rest, keyAllowed := false }

/-! ### Scalars -/

/-- A quoted scalar. -/
def quoted? (s : Scan) (read : List Place → Option (List Char × List Place)) : Option Scan := do
  let s ← s.markKey?
  let (text, rest) ← read (s.rest.drop 1)
  return { s.push (.scalar false text) with rest, keyAllowed := false }

/-- A scalar in a block. -/
def block? (s : Scan) (literal : Bool) : Option Scan := do
  let s ← s.dropKey?
  let (text, rest) ← blockScalar? literal s.indent (s.rest.drop 1)
  return { s.push (.scalar false text) with rest, keyAllowed := true }

/-- An unquoted scalar. -/
def plain? (s : Scan) : Option Scan := do
  let s ← s.markKey?
  let found ← Yaml.plain? s.inFlow (s.indent + 1).toNat [] {} s.rest
  return { s.push (.scalar true found.text) with rest := found.rest, keyAllowed := found.crossed }

/-- Whether an unquoted scalar may start with `c`, followed by `ps`. -/
def startsPlain (inFlow : Bool) (c : Char) (ps : List Place) : Bool :=
  if c = '-' then !(ps.head?.any fun p => isBlank p.char)
  else if c = '?' || c = ':' then !inFlow && !atGap ps
  else !isBlank c && !(",[]\x7b\x7d#&*!|>'\"%@\x60".contains c)

/-! ### All tokens -/

/-- Read the token that starts with `c`, followed by `ps`. -/
def token? (s : Scan) (c : Char) (ps : List Place) : Option Scan :=
  if isMark '-' s.rest then s.documentMark? .documentStart
  else if isMark '.' s.rest then s.documentMark? .documentEnd
  else if c = '[' then s.openFlow? .openSequence
  else if c = '\x7b' then s.openFlow? .openMapping
  else if c = ']' then s.closeFlow? .closeSequence
  else if c = '\x7d' then s.closeFlow? .closeMapping
  else if c = ',' then s.comma?
  else if c = '-' && atGap ps then s.entry?
  else if c = '?' && (s.inFlow || atGap ps) then s.key?
  else if c = ':' && (s.inFlow || atGap ps) then s.value?
  else if c = '*' then s.name? .alias
  else if c = '&' then s.name? .anchor
  else if c = '!' then s.tag?
  else if c = '|' && !s.inFlow then s.block? true
  else if c = '>' && !s.inFlow then s.block? false
  else if c = '\'' then s.quoted? (single? [] {})
  else if c = '"' then s.quoted? (double? .text [] {})
  else if startsPlain s.inFlow c ps then s.plain?
  else none

/-- Read tokens until the end of the text. Every token takes at least one
character, so `fuel` beyond their number is enough. -/
def finish? : (fuel : Nat) → Scan → Option Scan
  | 0, _ => none
  | fuel + 1, s => do
    let s ← s.toToken.refreshKeys?
    let s := s.closeBlocks s.column
    match s.rest with
    | [] => (s.closeBlocks (-1)).dropKey?
    | p :: ps => finish? fuel (← s.token? p.char ps)

end Scan

/-- The tokens of a text. -/
def tokens? (cs : List Char) : Option (List Token) := do
  guard (cs.all isAllowed)
  let ps := places cs
  let s ← Scan.finish? (ps.length + 1) { rest := ps }
  return s.tokens.toList

end BookmarkViews.Yaml
