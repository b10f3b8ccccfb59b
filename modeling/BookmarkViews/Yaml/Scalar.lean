import BookmarkViews.Yaml.Place

/-!
The scalars of YAML text: quoted, unquoted and in blocks.

Blanks around a line break are not part of a scalar, and a single line break
counts as one blank; of several breaks the first is dropped. Each reader takes the
places after its opening mark and returns the text and the places after it.
-/

namespace BookmarkViews.Yaml

/-! ### Gaps -/

/-- The blanks and line breaks between two words of a scalar, last first. -/
structure Gap where
  /-- The blanks before the first line break. -/
  blanks : List Char := []
  breaks : List Char := []
  /-- Whether it starts with a line break that does not count. -/
  escaped : Bool := false

namespace Gap

def isEmpty (g : Gap) : Bool :=
  g.blanks.isEmpty && g.breaks.isEmpty && !g.escaped

/-- Whether a line ended in the gap. -/
def crossed (g : Gap) : Bool :=
  g.escaped || !g.breaks.isEmpty

/-- Add a blank or a line break. -/
def add (g : Gap) (c : Char) : Gap :=
  if isBreak c then { g with breaks := c :: g.breaks }
  else if g.crossed then g
  else { g with blanks := c :: g.blanks }

/-- The text that line breaks stand for. -/
def folded : List Char → List Char
  | ['\n'] => [' ']
  | '\n' :: breaks => breaks
  | breaks => breaks

/-- The text that a gap stands for. -/
def text (g : Gap) : List Char :=
  if g.escaped then g.breaks.reverse
  else if g.breaks.isEmpty then g.blanks.reverse
  else folded g.breaks.reverse

end Gap

/-! ### Quoted scalars -/

/-- Read the rest of a scalar in single quotes; `done` is its text so far, last
first. -/
def single? (done : List Char) (gap : Gap) : List Place → Option (List Char × List Place)
  | [] => none
  | p :: ps =>
    if atDocumentMark (p :: ps) then none
    else if isBlank p.char || isBreak p.char then single? done (gap.add p.char) ps
    else
      let done := gap.text.reverse ++ done
      if p.char = '\'' then
        match ps with
        | q :: ps => if q.char = '\'' then single? ('\'' :: done) {} ps else some (done.reverse, q :: ps)
        | [] => some (done.reverse, [])
      else single? (p.char :: done) {} ps

/-- The character that a one-letter escape stands for. -/
def escape? : Char → Option Char
  | '0' => some (Char.ofNat 0)
  | 'a' => some (Char.ofNat 7)
  | 'b' => some (Char.ofNat 8)
  | 't' | '\t' => some '\t'
  | 'n' => some '\n'
  | 'v' => some (Char.ofNat 11)
  | 'f' => some (Char.ofNat 12)
  | 'r' => some '\r'
  | 'e' => some (Char.ofNat 27)
  | ' ' => some ' '
  | '"' => some '"'
  | '/' => some '/'
  | '\\' => some '\\'
  | 'N' => some (Char.ofNat 0x85)
  | '_' => some (Char.ofNat 0xA0)
  | 'L' => some (Char.ofNat 0x2028)
  | 'P' => some (Char.ofNat 0x2029)
  | _ => none

/-- The number of hexadecimal digits after an escape letter. -/
def escapeWidth? : Char → Option Nat
  | 'x' => some 2
  | 'u' => some 4
  | 'U' => some 8
  | _ => none

def hexDigit? (c : Char) : Option Nat :=
  if '0' ≤ c && c ≤ '9' then some (c.toNat - '0'.toNat)
  else if 'a' ≤ c && c ≤ 'f' then some (c.toNat - 'a'.toNat + 10)
  else if 'A' ≤ c && c ≤ 'F' then some (c.toNat - 'A'.toNat + 10)
  else none

/-- The character of a number; surrogates are refused. -/
def charOf? (n : Nat) : Option Char :=
  if (0xD800 ≤ n && n ≤ 0xDFFF) || 0x10FFFF < n then none else some (Char.ofNat n)

/-- What is being read between double quotes. -/
inductive DoubleMode where
  | text
  | escape
  /-- So many digits of a character number are missing. -/
  | digits (missing value : Nat)

/-- Read the rest of a scalar in double quotes; `done` is its text so far, last
first. -/
def double? (mode : DoubleMode) (done : List Char) (gap : Gap) :
    List Place → Option (List Char × List Place)
  | [] => none
  | p :: ps =>
    match mode with
    | .digits missing value =>
      match hexDigit? p.char with
      | none => none
      | some d =>
        let value := 16 * value + d
        if missing ≤ 1 then
          match charOf? value with
          | some c => double? .text (c :: done) {} ps
          | none => none
        else double? (.digits (missing - 1) value) done gap ps
    | .escape =>
      if isBreak p.char then double? .text done { escaped := true } ps
      else match escapeWidth? p.char, escape? p.char with
        | some width, _ => double? (.digits width 0) done {} ps
        | none, some c => double? .text (c :: done) {} ps
        | none, none => none
    | .text =>
      if atDocumentMark (p :: ps) then none
      else if isBlank p.char || isBreak p.char then double? .text done (gap.add p.char) ps
      else
        let done := gap.text.reverse ++ done
        if p.char = '"' then some (done.reverse, ps)
        else if p.char = '\\' then double? .escape done {} ps
        else double? .text (p.char :: done) {} ps

/-! ### Unquoted scalars -/

def isFlowMark (c : Char) : Bool :=
  [',', '[', ']', '\x7b', '\x7d'].contains c

/-- An unquoted scalar, and whether a line ended after it. -/
structure PlainText where
  text : List Char
  crossed : Bool
  rest : List Place

/-- Read the rest of an unquoted scalar, whose further lines are indented at least
to the column `floor`; `done` is its text so far, last first. Between brackets
the marks of collections end it. -/
def plain? (inFlow : Bool) (floor : Nat) (done : List Char) (gap : Gap) :
    List Place → Option PlainText
  | [] => some ⟨done.reverse, gap.crossed, []⟩
  | p :: ps =>
    let stop := some ⟨done.reverse, gap.crossed, p :: ps⟩
    let afterGap := !gap.isEmpty
    if isBlank p.char then
      if gap.crossed && p.column < floor && p.char = '\t' then none
      else plain? inFlow floor done (gap.add p.char) ps
    else if isBreak p.char then plain? inFlow floor done (gap.add p.char) ps
    else if afterGap && !inFlow && p.column < floor then stop
    else if afterGap && (p.char = '#' || atDocumentMark (p :: ps)) then stop
    else if inFlow && p.char = ':' && (isNext '?' ps || (ps.head?.any fun q => isFlowMark q.char)) then
      none
    else if p.char = ':' && atGap ps then stop
    else if inFlow && isFlowMark p.char then stop
    else plain? inFlow floor (p.char :: (gap.text.reverse ++ done)) {} ps

/-! ### Scalars in blocks -/

/-- What happens to the line breaks at the end of a block. -/
inductive Chomping where
  | strip
  | clip
  | keep

/-- How a block is read. -/
structure BlockStyle where
  /-- Whether line breaks are kept as they are. -/
  literal : Bool
  chomping : Chomping
  /-- The least indentation of its lines. -/
  floor : Nat

/-- What has been read of a block, texts last first. -/
structure BlockState where
  /-- The indentation of the lines, once it is known. -/
  indent : Option Nat
  /-- The longest indentation seen while it is not known. -/
  widest : Nat := 0
  done : List Char := []
  /-- The break that ended the last line with text. -/
  ending : List Char := []
  /-- The breaks after it. -/
  breaks : List Char := []
  /-- Whether the last line with text starts with a blank. -/
  blankStart : Bool := false

namespace BlockState

/-- The whole text. -/
def text (style : BlockStyle) (s : BlockState) : List Char :=
  match style.chomping with
  | .strip => s.done.reverse
  | .clip => (s.ending ++ s.done).reverse
  | .keep => (s.breaks ++ s.ending ++ s.done).reverse

/-- Start a line with the character `c`. -/
def startLine (style : BlockStyle) (s : BlockState) (c : Char) : BlockState :=
  let folds := !style.literal && s.ending == ['\n'] && !s.blankStart && !isBlank c
  let joint := if folds then (if s.breaks.isEmpty then [' '] else []) else s.ending
  { s with
    done := c :: (s.breaks ++ joint ++ s.done)
    ending := []
    breaks := []
    blankStart := isBlank c }

end BlockState

/-- Read the lines of a block. -/
def block? (style : BlockStyle) (s : BlockState) (inLine : Bool) :
    List Place → Option (List Char × List Place)
  | [] => some (s.text style, [])
  | p :: ps =>
    if inLine then
      if isBreak p.char then block? style { s with ending := [p.char] } false ps
      else block? style { s with done := p.char :: s.done } true ps
    else
      let indent := s.indent.getD (max s.widest (max style.floor 1))
      let inIndent := s.indent.isNone || p.column < indent
      if inIndent && p.char = ' ' then
        block? style { s with widest := max s.widest (p.column + 1) } false ps
      else if inIndent && p.char = '\t' then none
      else if isBreak p.char then block? style { s with breaks := p.char :: s.breaks } false ps
      else if p.column = indent then
        block? style { s.startLine style p.char with indent := some indent } true ps
      else some (s.text style, p :: ps)

/-- The digit of an indentation. -/
def indentDigit? (p : Place) : Option Nat :=
  if '1' ≤ p.char && p.char ≤ '9' then some (p.char.toNat - '0'.toNat) else none

/-- Read the signs after the mark of a block: chomping and indentation, in either
order. -/
def blockSigns (ps : List Place) : Chomping × Option Nat × List Place :=
  let sign? (p : Place) : Option Chomping :=
    if p.char = '+' then some .keep else if p.char = '-' then some .strip else none
  match ps with
  | [] => (.clip, none, [])
  | p :: ps =>
    match sign? p, indentDigit? p with
    | some chomping, _ =>
      match ps with
      | q :: rest =>
        match indentDigit? q with
        | some n => (chomping, some n, rest)
        | none => (chomping, none, q :: rest)
      | [] => (chomping, none, [])
    | none, some n =>
      match ps with
      | q :: rest =>
        match sign? q with
        | some chomping => (chomping, some n, rest)
        | none => (.clip, some n, q :: rest)
      | [] => (.clip, some n, [])
    | none, none => (.clip, none, p :: ps)

/-- Read a block after its mark, in a collection indented to `parent`. -/
def blockScalar? (literal : Bool) (parent : Int) (ps : List Place) :
    Option (List Char × List Place) :=
  let (chomping, increment, rest) := blockSigns ps
  let rest := rest.dropWhile fun p => isBlank p.char
  let rest := if isNext '#' rest then rest.dropWhile fun p => !isBreak p.char else rest
  let style : BlockStyle := { literal, chomping, floor := (parent + 1).toNat }
  let indent := increment.map fun n => parent.toNat + n
  match rest with
  | [] => some ([], [])
  | p :: ps => if isBreak p.char then block? style { indent } false ps else none

end BookmarkViews.Yaml
