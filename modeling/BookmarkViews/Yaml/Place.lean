/-!
YAML text as characters that know where they stand.

All layout rules compare lines and columns, so a text becomes a list of places
(`places`) and is read from there by recursion on the list. A line break is one
place, however it is written.
-/

namespace BookmarkViews.Yaml

/-- A character and where it stands. -/
structure Place where
  char : Char
  line : Nat
  column : Nat
  /-- The number of characters before it. -/
  offset : Nat
deriving DecidableEq, Repr

def isBlank (c : Char) : Bool :=
  c = ' ' || c = '\t'

/-- Whether `c` ends a line. -/
def isBreak (c : Char) : Bool :=
  c = '\n' || c = '\r' || c.toNat = 0x85 || c.toNat = 0x2028 || c.toNat = 0x2029

/-- Whether a text may hold `c`: anything but control characters. -/
def isAllowed (c : Char) : Bool :=
  let n := c.toNat
  n = 9 || n = 10 || n = 13 || (0x20 ≤ n && n ≤ 0x7E) || n = 0x85 ||
    (0xA0 ≤ n && n ≤ 0xFFFD) || 0x10000 ≤ n

/-- The character that stands for a line break: a line feed for all but the
separators of lines and paragraphs. -/
def breakChar (c : Char) : Char :=
  if c.toNat = 0x2028 || c.toNat = 0x2029 then c else '\n'

/-- The places of a text that starts at a line and column. -/
def placesFrom (line column offset : Nat) : List Char → List Place
  | [] => []
  | '\r' :: '\n' :: cs => ⟨'\n', line, column, offset⟩ :: placesFrom (line + 1) 0 (offset + 2) cs
  | c :: cs =>
    if isBreak c then ⟨breakChar c, line, column, offset⟩ :: placesFrom (line + 1) 0 (offset + 1) cs
    else ⟨c, line, column, offset⟩ :: placesFrom line (column + 1) (offset + 1) cs

/-- The places of a text, without a byte order mark in front. -/
def places (cs : List Char) : List Place :=
  match cs with
  | '\uFEFF' :: cs => placesFrom 0 0 0 cs
  | cs => placesFrom 0 0 0 cs

/-- Whether a blank, a line break or the end comes next. -/
def atGap : List Place → Bool
  | [] => true
  | p :: _ => isBlank p.char || isBreak p.char

/-- Whether a character comes next. -/
def isNext (c : Char) : List Place → Bool
  | [] => false
  | p :: _ => p.char == c

/-- Whether a mark of three characters at the start of a line comes next. -/
def isMark (c : Char) : List Place → Bool
  | p :: q :: r :: ps =>
    p.column = 0 && p.char = c && q.char = c && r.char = c && atGap ps
  | _ => false

/-- Whether the start or the end of a document comes next. -/
def atDocumentMark (ps : List Place) : Bool :=
  isMark '-' ps || isMark '.' ps

end BookmarkViews.Yaml
