import BookmarkViews.Pattern.Regex
import BookmarkViews.Number.Decimal

/-!
Reading regular expressions.

The reader goes through the text once. A `Level` holds what has been read of an
open group; closing the group hands its expression to the level outside. Look
around and back references have no place in `Regex`, and their spellings are
refused.
-/

namespace BookmarkViews.Pattern

/-- The settings that `(?i)`, `(?m)` and `(?s)` change. -/
structure Flags where
  ignoreCase : Bool := false
  multiLine : Bool := false
  dotAll : Bool := false
deriving Repr

/-- The set of one range of characters. -/
def Flags.range (flags : Flags) (low high : Char) : CharSet :=
  if flags.ignoreCase then .anyCase low high else .range low high

/-! ### Escapes -/

/-- What a backslash and the characters after it stand for. -/
inductive Escape where
  | char (c : Char)
  | set (s : CharSet)
  | anchor (a : Anchor)

/-- The value of hexadecimal digits. -/
def hexValue? (cs : List Char) : Option Nat :=
  cs.foldlM (fun n c =>
    if Decimal.isDigit c then some (16 * n + (c.toNat - '0'.toNat))
    else if 'a' ≤ c && c ≤ 'f' then some (16 * n + (c.toNat - 'a'.toNat + 10))
    else if 'A' ≤ c && c ≤ 'F' then some (16 * n + (c.toNat - 'A'.toNat + 10))
    else none) 0

/-- The character with a code point. -/
def charOf? (n : Nat) : Option Char :=
  if n.isValidChar then some (Char.ofNat n) else none

/-- Read the code point of an escape: in braces, or exactly `count` digits. -/
def codePoint? (count : Nat) : List Char → Option (Char × List Char)
  | '\x7b' :: cs =>
    match Text.breakAt (· == '\x7d') cs with
    | (ds, _ :: rest) => do
      if ds.isEmpty then none
      let c ← charOf? (← hexValue? ds)
      some (c, rest)
    | _ => none
  | cs => do
    if cs.length < count then none
    let c ← charOf? (← hexValue? (cs.take count))
    some (c, cs.drop count)

/-- Whether a backslash before `c` means `c` itself. -/
def isEscapable (c : Char) : Bool :=
  c.toNat < 0x80 && !c.isAlphanum && c != '<' && c != '>'

/-- Read what follows a backslash. -/
def escape? : List Char → Option (Escape × List Char)
  | [] => none
  | c :: cs =>
    match c with
    | 'd' => some (.set .digit, cs)
    | 'D' => some (.set (.compl .digit), cs)
    | 's' => some (.set .blank, cs)
    | 'S' => some (.set (.compl .blank), cs)
    | 'w' => some (.set .word, cs)
    | 'W' => some (.set (.compl .word), cs)
    | 'b' => some (.anchor .wordBoundary, cs)
    | 'B' => some (.anchor .notWordBoundary, cs)
    | 'A' => some (.anchor .textStart, cs)
    | 'z' => some (.anchor .textEnd, cs)
    | 'a' => some (.char '\x07', cs)
    | 'f' => some (.char '\x0c', cs)
    | 't' => some (.char '\t', cs)
    | 'n' => some (.char '\n', cs)
    | 'r' => some (.char '\r', cs)
    | 'v' => some (.char '\x0b', cs)
    | 'x' => (codePoint? 2 cs).map fun (c, cs) => (.char c, cs)
    | 'u' => (codePoint? 4 cs).map fun (c, cs) => (.char c, cs)
    | 'U' => (codePoint? 8 cs).map fun (c, cs) => (.char c, cs)
    | c => if isEscapable c then some (.char c, cs) else none

/-! ### Bracketed classes -/

/-- The classes named between colons. -/
def namedClass? (flags : Flags) : String → Option CharSet
  | "alnum" => some (.union (flags.range '0' '9') (.union (flags.range 'A' 'Z') (flags.range 'a' 'z')))
  | "alpha" => some (.union (flags.range 'A' 'Z') (flags.range 'a' 'z'))
  | "ascii" => some (flags.range '\x00' '\x7f')
  | "blank" => some (.union (.range '\t' '\t') (.range ' ' ' '))
  | "cntrl" => some (.union (.range '\x00' '\x1f') (.range '\x7f' '\x7f'))
  | "digit" => some (.range '0' '9')
  | "graph" => some (flags.range '!' '~')
  | "lower" => some (flags.range 'a' 'z')
  | "print" => some (flags.range ' ' '~')
  | "punct" =>
    some (.union (.range '!' '/') (.union (.range ':' '@') (.union (.range '[' '\x60')
      (.range '\x7b' '~'))))
  | "space" => some (.union (.range '\t' '\r') (.range ' ' ' '))
  | "upper" => some (flags.range 'A' 'Z')
  | "word" =>
    some (.union (flags.range '0' '9') (.union (flags.range 'A' 'Z')
      (.union (flags.range 'a' 'z') (.range '_' '_'))))
  | "xdigit" => some (.union (.range '0' '9') (.union (flags.range 'A' 'F') (flags.range 'a' 'f')))
  | _ => none

/-- Read a named class whose opening bracket has been read. -/
def named? (flags : Flags) : List Char → Option (CharSet × List Char)
  | ':' :: cs => do
    let (negated, cs) := match cs with
      | '^' :: cs => (true, cs)
      | cs => (false, cs)
    match Text.breakAt (· == ':') cs with
    | (name, ':' :: ']' :: rest) =>
      let s ← namedClass? flags (String.ofList name)
      some (if negated then .compl s else s, rest)
    | _ => none
  | _ => none

/-- How two parts of a class are joined. -/
inductive ClassOp where
  | inter
  | diff
  | symmDiff

def ClassOp.apply : ClassOp → CharSet → CharSet → CharSet
  | .inter => .inter
  | .diff => CharSet.diff
  | .symmDiff => CharSet.symmDiff

/-- An open class: the part before the last operator, and the union read
since. -/
structure ClassLevel where
  negated : Bool
  left : Option (CharSet × ClassOp) := none
  union : CharSet := .none

/-- The set read so far. -/
def ClassLevel.value (l : ClassLevel) : CharSet :=
  match l.left with
  | some (s, op) => op.apply s l.union
  | none => l.union

/-- Add an item. -/
def ClassLevel.add (l : ClassLevel) (s : CharSet) : ClassLevel :=
  { l with union := .union l.union s }

/-- Note an operator. -/
def ClassLevel.operator (l : ClassLevel) (op : ClassOp) : ClassLevel :=
  { l with left := some (l.value, op), union := .none }

/-- The set of a class that has been closed. -/
def ClassLevel.close (l : ClassLevel) : CharSet :=
  if l.negated then .compl l.value else l.value

/-- Read the start of a class after its bracket. Dashes there are literal, and so
is a closing bracket that comes first. -/
def openClass (flags : Flags) (cs : List Char) : ClassLevel × List Char :=
  let (negated, cs) := match cs with
    | '^' :: cs => (true, cs)
    | cs => (false, cs)
  let dashes := cs.takeWhile (· == '-')
  let cs := cs.dropWhile (· == '-')
  let level : ClassLevel := { negated }
  if !dashes.isEmpty then (level.add (.range '-' '-'), cs)
  else match cs with
    | ']' :: cs => (level.add (flags.range ']' ']'), cs)
    | cs => (level, cs)

/-- Read one end of a range, or a set. -/
def classItem? : List Char → Option (Escape × List Char)
  | '\\' :: cs => do
    let (e, cs) ← escape? cs
    match e with
    | .anchor _ => none
    | e => some (e, cs)
  | c :: cs => some (.char c, cs)
  | [] => none

/-- Read an item of a class: a character, a range or a set. -/
def classRange? (flags : Flags) (cs : List Char) : Option (CharSet × List Char) := do
  let (first, rest) ← classItem? cs
  let alone : CharSet := match first with
    | .char c => flags.range c c
    | .set s => s
    | .anchor _ => .none
  match rest with
  | '-' :: ']' :: _ | '-' :: '-' :: _ => some (alone, rest)
  | '-' :: cs =>
    let (last, rest) ← classItem? cs
    match first, last with
    | .char low, .char high => if low ≤ high then some (flags.range low high, rest) else none
    | _, _ => none
  | rest => some (alone, rest)

/-- Read a class up to its closing bracket; `outer` holds the classes around
it. -/
def class? (flags : Flags) :
    (fuel : Nat) → (level : ClassLevel) → (outer : List ClassLevel) → List Char →
      Option (CharSet × List Char)
  | 0, _, _, _ | _, _, _, [] => none
  | fuel + 1, level, outer, ']' :: cs =>
    match outer with
    | [] => some (level.close, cs)
    | up :: outer => class? flags fuel (up.add level.close) outer cs
  | fuel + 1, level, outer, '[' :: cs =>
    match named? flags cs with
    | some (s, cs) => class? flags fuel (level.add s) outer cs
    | none =>
      let (inner, cs) := openClass flags cs
      class? flags fuel inner (level :: outer) cs
  | fuel + 1, level, outer, '&' :: '&' :: cs => class? flags fuel (level.operator .inter) outer cs
  | fuel + 1, level, outer, '-' :: '-' :: cs => class? flags fuel (level.operator .diff) outer cs
  | fuel + 1, level, outer, '~' :: '~' :: cs =>
    class? flags fuel (level.operator .symmDiff) outer cs
  | fuel + 1, level, outer, cs =>
    match classRange? flags cs with
    | some (s, cs) => class? flags fuel (level.add s) outer cs
    | none => none

/-! ### Groups -/

/-- An open group: the finished alternatives and the items of the current one,
each last first. An item without an expression is a change of settings. -/
structure Level where
  branches : List Regex := []
  items : List (Option Regex) := []
  outerFlags : Flags := {}

/-- The sequence of the current items. -/
def Level.sequence (l : Level) : Regex :=
  l.items.foldl (fun rest item =>
    match item, rest with
    | none, rest => rest
    | some r, .empty => r
    | some r, rest => .seq r rest) .empty

/-- The expression of a group. -/
def Level.value (l : Level) : Regex :=
  l.branches.foldl (fun rest branch => .alt branch rest) l.sequence

/-- Add an expression. -/
def Level.add (l : Level) (r : Regex) : Level :=
  { l with items := some r :: l.items }

/-- Start the next alternative. -/
def Level.nextBranch (l : Level) : Level :=
  { l with branches := l.sequence :: l.branches, items := [] }

/-- Repeat the last item, if there is one to repeat. -/
def Level.repeated? (l : Level) (least : Nat) (most : Option Nat) : Option Level :=
  match l.items with
  | some r :: items => some { l with items := some (.times r least most) :: items }
  | _ => none

/-- Whether `c` may stand in the name of a group. -/
def isNameChar (first : Bool) (c : Char) : Bool :=
  c == '_' || c.isAlpha || (!first && (c.isDigit || c == '.' || c == '[' || c == ']'))

/-- Read the name of a group up to the closing angle bracket. -/
def groupName? (cs : List Char) : Option (List Char × List Char) :=
  match Text.breakAt (· == '>') cs with
  | (c :: name, _ :: rest) =>
    if isNameChar true c && name.all (isNameChar false) then some (c :: name, rest) else none
  | _ => none

/-- Turn one setting on or off. -/
def Flags.set? (flags : Flags) (c : Char) (on : Bool) : Option Flags :=
  match c with
  | 'i' => some { flags with ignoreCase := on }
  | 'm' => some { flags with multiLine := on }
  | 's' => some { flags with dotAll := on }
  | 'U' => some flags
  | _ => none

/-- Read settings up to the colon or parenthesis after them. The last part of the
answer tells whether a group follows. -/
def settings? (flags : Flags) (seen : List Char) (negated : Bool) :
    List Char → Option (Flags × Bool × List Char)
  | [] => none
  | ':' :: cs => if seen.head? == some '-' then none else some (flags, true, cs)
  | ')' :: cs => if seen.isEmpty || seen.head? == some '-' then none else some (flags, false, cs)
  | '-' :: cs => if negated then none else settings? flags ('-' :: seen) true cs
  | c :: cs =>
    if seen.contains c then none
    else match flags.set? c (!negated) with
      | some flags => settings? flags (c :: seen) negated cs
      | none => none

/-- Read the bounds of a repetition up to the closing brace. -/
def bounds? (cs : List Char) : Option (Nat × Option Nat × List Char) :=
  let number? (cs : List Char) : Option Nat :=
    (Decimal.readNat? (Text.trim cs)).filter (· < 4294967296)
  match Text.breakAt (· == '\x7d') cs with
  | (inside, _ :: rest) =>
    match Text.breakAt (· == ',') inside with
    | (least, []) => (number? least).map fun n => (n, some n, rest)
    | (least, [_]) => (number? least).map fun n => (n, none, rest)
    | (least, _ :: most) => do
      let least ← number? least
      let most ← number? most
      if least ≤ most then some (least, some most, rest) else none
  | _ => none

/-- Skip the mark of a lazy repetition. -/
def skipLazy : List Char → List Char
  | '?' :: cs => cs
  | cs => cs

/-- The expression of one escape. -/
def Escape.regex (flags : Flags) : Escape → Regex
  | .char c => .one (flags.range c c)
  | .set s => .one s
  | .anchor a => .anchor a

/-- The most groups that may be open at once. -/
def deepest : Nat := 250

/-- Read a pattern. `names` lists the group names seen so far. -/
def read (names : List (List Char)) (flags : Flags) :
    (fuel : Nat) → (level : Level) → (outer : List Level) → List Char → Option Regex
  | 0, _, _, _ => none
  | _, level, outer, [] => if outer.isEmpty then some level.value else none
  | fuel + 1, level, outer, c :: cs =>
    let goOn (level : Level) (cs : List Char) := read names flags fuel level outer cs
    let enter (names : List (List Char)) (inner : Flags) (cs : List Char) :=
      if deepest ≤ outer.length then none
      else read names inner fuel { outerFlags := flags } (level :: outer) cs
    match c with
    | '(' =>
      match cs with
      | '?' :: 'P' :: '<' :: cs => do
        let (name, cs) ← groupName? cs
        if names.contains name then none else enter (name :: names) flags cs
      | '?' :: '<' :: cs => do
        let (name, cs) ← groupName? cs
        if names.contains name then none else enter (name :: names) flags cs
      | '?' :: cs => do
        let (inner, opens, cs) ← settings? flags [] false cs
        if opens then enter names inner cs
        else read names inner fuel { level with items := none :: level.items } outer cs
      | cs => enter names flags cs
    | ')' =>
      match outer with
      | [] => none
      | up :: outer => read names level.outerFlags fuel (up.add level.value) outer cs
    | '|' => goOn level.nextBranch cs
    | '[' => do
      let (inner, cs) := openClass flags cs
      let (s, cs) ← class? flags fuel inner [] cs
      goOn (level.add (.one s)) cs
    | '?' => do goOn (← level.repeated? 0 (some 1)) (skipLazy cs)
    | '*' => do goOn (← level.repeated? 0 none) (skipLazy cs)
    | '+' => do goOn (← level.repeated? 1 none) (skipLazy cs)
    | '\x7b' => do
      let (least, most, cs) ← bounds? cs
      goOn (← level.repeated? least most) (skipLazy cs)
    | '\\' => do
      let (e, cs) ← escape? cs
      goOn (level.add (e.regex flags)) cs
    | '.' =>
      let s : CharSet := if flags.dotAll then .compl .none else .compl (.range '\n' '\n')
      goOn (level.add (.one s)) cs
    | '^' => goOn (level.add (.anchor (if flags.multiLine then .lineStart else .textStart))) cs
    | '$' => goOn (level.add (.anchor (if flags.multiLine then .lineEnd else .textEnd))) cs
    | c => goOn (level.add (.one (flags.range c c))) cs

/-- Read a whole text as a regular expression. -/
def Regex.read? (cs : List Char) : Option Regex :=
  read [] {} (cs.length + 1) {} [] cs

end BookmarkViews.Pattern
