import BookmarkViews.Text.Blank
import BookmarkViews.Yaml.Place
import BookmarkViews.Yaml.Plain

/-!
YAML text of values.

Containers are written as blocks, a line each for items and fields, and the dashes
of a list stand at the column of the field that holds it. A text is written without
quotes where it reads back as itself; otherwise in single quotes, and in double
quotes where a character has to be escaped. A text of several lines is a literal
block.
-/

namespace BookmarkViews.Yaml

/-! ### Texts -/

/-- Whether a character can be written as it is. -/
def isPrintable (c : Char) : Bool :=
  let n := c.toNat
  n = 10 || (0x20 ≤ n && n ≤ 0x7E) || (0xA0 ≤ n && n ≤ 0xFFFD && n ≠ 0xFEFF) || 0x10000 ≤ n

/-- Whether a text without quotes would not be a text. -/
def readsAsOther (s : String) : Bool :=
  Plain.isPadded s.toList || Plain.node? s.toList != some (.text s)

/-- Whether a text without quotes must not start with `c`, followed by `cs`. -/
def isStartMark (c : Char) (cs : List Char) : Bool :=
  ['#', ',', '[', ']', '\x7b', '\x7d', '&', '*', '!', '|', '>', '\'', '"', '%', '@', '\x60'].contains c ||
    (['?', ':', '-'].contains c && (cs.head?.all isBlank))

/-- Whether a mark stands after the first character, which is `before`: a colon in
front of a blank or the end, or a number sign after a blank. -/
def hasInnerMark (before : Char) : List Char → Bool
  | [] => false
  | c :: cs =>
    (c = ':' && cs.head?.all isBlank) || (c = '#' && isBlank before) || hasInnerMark c cs

/-- Whether the layout of a text is lost without quotes. -/
def isDelicate (cs : List Char) : Bool :=
  cs.take 3 == ['-', '-', '-'] || cs.take 3 == ['.', '.', '.'] ||
    cs.head? == some ' ' || cs.getLast? == some ' ' || cs.any isBreak ||
    match cs with
    | [] => false
    | c :: cs => isStartMark c cs || hasInnerMark c cs

/-- Whether a blank and a line break stand side by side, in this order. -/
def hasBlankBreak : List Char → Bool
  | c :: d :: cs => (c = ' ' && isBreak d) || hasBlankBreak (d :: cs)
  | _ => false

/-- Whether a line break and a blank stand side by side, in this order. -/
def hasBreakBlank : List Char → Bool
  | c :: d :: cs => (isBreak c && d = ' ') || hasBreakBlank (d :: cs)
  | _ => false

/-- Whether a text can only be written with escapes. -/
def needsEscapes (cs : List Char) : Bool :=
  cs.any (!isPrintable ·) || hasBlankBreak cs

inductive TextStyle where
  | plain
  | single
  | double
  | literal
deriving DecidableEq, Repr

/-- How a text is written. A key stands on one line. -/
def textStyle (isKey : Bool) (s : String) : TextStyle :=
  let cs := s.toList
  if cs.contains '\n' then
    if isKey || needsEscapes cs || cs.getLast? == some ' ' then .double else .literal
  else if needsEscapes cs || (isKey && cs.any isBreak) then .double
  else if !readsAsOther s && !isDelicate cs then .plain
  else if hasBreakBlank cs then .double
  else .single

/-- `n` in upper-case hexadecimal digits. -/
def hexadecimal (width n : Nat) : List Char :=
  let ds := (Nat.toDigits 16 n).map Char.toUpper
  List.replicate (width - ds.length) '0' ++ ds

/-- A character between double quotes. -/
def doubleChar (c : Char) : List Char :=
  let n := c.toNat
  let letters : List (Nat × Char) :=
    [(0, '0'), (7, 'a'), (8, 'b'), (9, 't'), (10, 'n'), (11, 'v'), (12, 'f'), (13, 'r'), (27, 'e'),
      (0x22, '"'), (0x5C, '\\'), (0x85, 'N'), (0xA0, '_'), (0x2028, 'L'), (0x2029, 'P')]
  if isPrintable c && !isBreak c && c ≠ '"' && c ≠ '\\' then [c]
  else match letters.lookup n with
    | some l => ['\\', l]
    | none =>
      if n ≤ 0xFF then '\\' :: 'x' :: hexadecimal 2 n
      else if n ≤ 0xFFFF then '\\' :: 'u' :: hexadecimal 4 n
      else '\\' :: 'U' :: hexadecimal 8 n

def blanks (n : Nat) : List Char :=
  List.replicate n ' '

/-- The characters between single quotes; a line is indented to a column. -/
def singleChars (column : Nat) (lineStart : Bool) : List Char → List Char
  | [] => if lineStart then blanks column else []
  | c :: cs =>
    if isBreak c then c :: singleChars column true cs
    else
      (if lineStart then blanks column else []) ++
        (if c = '\'' then ['\'', '\''] else [c]) ++ singleChars column false cs

/-- The lines of a literal block, indented to a column. -/
def literalChars (column : Nat) (lineStart : Bool) : List Char → List Char
  | [] => []
  | c :: cs =>
    if isBreak c then c :: literalChars column true cs
    else (if lineStart then blanks column else []) ++ c :: literalChars column false cs

/-- The signs after the mark of a literal block: the indentation where the text
starts with a blank, and what happens to the line breaks at its end. -/
def literalSigns (cs : List Char) : List Char :=
  let indentation := if cs.head?.any fun c => c = ' ' || isBreak c then ['2'] else []
  let chomping := match cs.reverse with
    | c :: rest => if !isBreak c then ['-'] else if rest.head?.all isBreak then ['+'] else []
    | [] => ['-']
  indentation ++ chomping

/-- Characters with a line break after them, unless they end in one. -/
def ended (cs : List Char) : List Char :=
  if cs.getLast?.any isBreak then cs else cs ++ ['\n']

/-- A text, whose further lines are indented to a column. -/
def textChars (isKey : Bool) (column : Nat) (s : String) : List Char :=
  match textStyle isKey s with
  | .plain => s.toList
  | .single => '\'' :: singleChars column false s.toList ++ ['\'']
  | .double => '"' :: s.toList.flatMap doubleChar ++ ['"']
  | .literal => '|' :: literalSigns s.toList ++ '\n' :: literalChars column true s.toList

/-! ### Values -/

/-- Where a value is written. -/
structure Spot where
  /-- The column of the dashes of a list. -/
  items : Nat
  /-- The column of the fields of an object. -/
  fields : Nat
  /-- The column of the further lines of a text. -/
  lines : Nat
  /-- Whether a container starts on the line of the mark before it. -/
  joined : Bool
  /-- What stands between the mark and the value. -/
  lead : List Char := [' ']

namespace Spot

/-- A whole text. -/
def top : Spot := { items := 0, fields := 0, lines := 2, joined := true, lead := [] }

/-- The place after a field name at a column. -/
def afterName (column : Nat) : Spot :=
  { items := column, fields := column + 2, lines := column + 2, joined := false }

/-- The place after a dash at a column. -/
def afterDash (column : Nat) : Spot :=
  { items := column + 2, fields := column + 2, lines := column + 2, joined := true }

end Spot

/-- The longest field name, in bytes, that stands in front of its colon. -/
def longestName : Nat := 128

/-- Whether a field name stands on one line with its value. -/
def isSimpleName (name : String) : Bool :=
  Text.byteLength name.toList ≤ longestName && !name.toList.any isBreak

/-- A field name at a column, which may be on a line that has started, and the mark
of its value. A long name gets a mark and a line of its own. -/
def nameChars (column : Nat) (joined : Bool) (name : String) : List Char :=
  (if joined then [] else blanks column) ++
    if isSimpleName name then textChars true column name ++ [':']
    else '?' :: ' ' :: ended (textChars false (column + 2) name) ++ blanks column ++ [':']

/-- The place after a field name. -/
def Spot.afterField (column : Nat) (name : String) : Spot :=
  if isSimpleName name then .afterName column else .afterDash column

/-- What stands between a mark and a container that is not empty. -/
def Spot.opening (spot : Spot) : List Char :=
  if spot.joined then spot.lead else ['\n']

mutual

/-- The text of a value at a place, to the end of its last line. -/
def valueChars (spot : Spot) : Value → List Char
  | .null => spot.lead ++ "null\n".toList
  | .bool b => spot.lead ++ (if b then "true\n" else "false\n").toList
  | .number n => spot.lead ++ n.yamlText.toList ++ ['\n']
  | .text s => spot.lead ++ ended (textChars false spot.lines s)
  | .list [] => spot.lead ++ "[]\n".toList
  | .list (v :: vs) => spot.opening ++ itemsChars spot.items spot.joined (v :: vs)
  | .object [] => spot.lead ++ "\x7b\x7d\n".toList
  | .object (f :: fs) => spot.opening ++ fieldsChars spot.fields spot.joined (f :: fs)

/-- Items with their dashes at a column; the first one may be on a line that has
started. -/
def itemsChars (column : Nat) (joined : Bool) : List Value → List Char
  | [] => []
  | v :: vs =>
    (if joined then [] else blanks column) ++ '-' :: valueChars (.afterDash column) v ++
      itemsChars column false vs

/-- Fields at a column, a line each. -/
def fieldsChars (column : Nat) (joined : Bool) : List (String × Value) → List Char
  | [] => []
  | (name, v) :: fs =>
    nameChars column joined name ++ valueChars (.afterField column name) v ++
      fieldsChars column false fs

end

/-- The YAML text of a value. -/
def text (v : Value) : String :=
  String.ofList (valueChars .top v)

end BookmarkViews.Yaml
