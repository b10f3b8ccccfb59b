import BookmarkViews.Number.Decimal

/-!
TOML text as settings.

Settings are texts, flags, lists and tables. TOML has numbers and dates too, but no
setting of this program is one, so a text that holds one is refused like a text
that breaks the rules.

A text is a list of assignments under headers (`Toml.read?`). A path is assigned
once, a header is written once, and a table is made either by its header or by the
dotted keys below another one, not by both.
-/

namespace BookmarkViews.Toml

inductive Setting where
  | text (s : String)
  | flag (b : Bool)
  | list (items : List Setting)
  | table (entries : List (String × Setting))
deriving Repr, Inhabited

/-- A value, the header it stands under and the key it is assigned to. -/
structure Assignment where
  header : List String
  key : List String
  value : Setting
deriving Repr, Inhabited

/-- The whole path of the value. -/
def Assignment.path (a : Assignment) : List String :=
  a.header ++ a.key

structure Document where
  headers : List (List String) := []
  assignments : List Assignment := []
deriving Repr, Inhabited

/-! ### Texts -/

abbrev Reader := StateT (List Char) Option

namespace Reader

def peek? : Reader (Option Char) :=
  return (← get).head?

/-- Skip the characters of `lead` if they come next, and tell whether they do. -/
def accept (lead : String) : Reader Bool := do
  let cs ← get
  if lead.toList.isPrefixOf cs then
    set (cs.drop lead.length)
    return true
  else return false

def expect (lead : String) : Reader Unit := do
  guard (← accept lead)

/-- Take the characters from here on that satisfy `f`. -/
def takeWhile (f : Char → Bool) : Reader (List Char) := do
  let cs ← get
  set (cs.dropWhile f)
  return cs.takeWhile f

def isSpace (c : Char) : Bool :=
  c = ' ' || c = '\t'

/-- Whether a text may hold `c` as it is. -/
def isTextChar (c : Char) : Bool :=
  (0x20 ≤ c.toNat && c.toNat ≠ 0x7F) || c = '\t'

def skipSpaces : Reader Unit := do
  let _ ← takeWhile isSpace

/-- Skip a comment. -/
def skipComment : Reader Unit := do
  if ← accept "#" then
    let _ ← takeWhile isTextChar

/-- Skip a line break, and tell whether there is one. -/
def skipBreak : Reader Bool := do
  if ← accept "\n" then return true else accept "\r\n"

/-- Skip spaces, comments and line breaks. -/
def skipLines : (fuel : Nat) → Reader Unit
  | 0 => return
  | fuel + 1 => do
    skipSpaces
    skipComment
    if ← skipBreak then skipLines fuel

/-- Read the end of a line. -/
def endLine : Reader Unit := do
  skipSpaces
  skipComment
  if (← peek?).isSome then guard (← skipBreak)

/-- The value of `width` hexadecimal digits, as a character. -/
def charCode (width : Nat) : Reader Char := do
  let cs ← get
  let ds := cs.take width
  let digit? (c : Char) : Option Nat :=
    if Decimal.isDigit c then some (c.toNat - '0'.toNat)
    else if 'a' ≤ c && c ≤ 'f' then some (c.toNat - 'a'.toNat + 10)
    else if 'A' ≤ c && c ≤ 'F' then some (c.toNat - 'A'.toNat + 10)
    else none
  let n ← ds.foldlM (fun n c => (digit? c).map (16 * n + ·)) 0
  guard (ds.length = width && !(0xD800 ≤ n && n ≤ 0xDFFF) && n ≤ 0x10FFFF)
  set (cs.drop width)
  return Char.ofNat n

/-- The character that a backslash and `c` stand for. -/
def escaped (c : Char) : Reader Char :=
  match c with
  | 'b' => return Char.ofNat 8
  | 't' => return '\t'
  | 'n' => return '\n'
  | 'f' => return Char.ofNat 12
  | 'r' => return '\r'
  | '"' => return '"'
  | '\\' => return '\\'
  | 'u' => charCode 4
  | 'U' => charCode 8
  | _ => failure

/-- Read a character as it is. -/
def next : Reader Char := do
  match ← get with
  | c :: cs => set cs; return c
  | [] => failure

/-- Read a text of one line up to the closing `quote`. -/
def lineText (quote : Char) (done : List Char) : (fuel : Nat) → Reader String
  | 0 => failure
  | fuel + 1 => do
    let c ← next
    if c = quote then return String.ofList done.reverse
    else if c = '\\' && quote = '"' then
      let c ← escaped (← next)
      lineText quote (c :: done) fuel
    else
      guard (isTextChar c)
      lineText quote (c :: done) fuel

/-- Skip a backslash at the end of a line with all blanks and line breaks after it,
and tell whether there was one. -/
def skipJoint (fuel : Nat) : Reader Bool := do
  let start ← get
  skipSpaces
  if ← skipBreak then
    skipBlankLines fuel
    return true
  else
    set start
    return false
where
  skipBlankLines : Nat → Reader Unit
    | 0 => return
    | fuel + 1 => do
      skipSpaces
      if ← skipBreak then skipBlankLines fuel

/-- Read a text of several lines up to three closing quotes, which may follow up to
two quotes of the text. -/
def blockText (quote : Char) (done : List Char) : (fuel : Nat) → Reader String
  | 0 => failure
  | fuel + 1 => do
    let quotes := (← get).takeWhile (· = quote)
    if 3 ≤ quotes.length then
      let extra := min (quotes.length - 3) 2
      set ((← get).drop (3 + extra))
      return String.ofList (done.reverse ++ List.replicate extra quote)
    else if ← skipBreak then blockText quote ('\n' :: done) fuel
    else
      let c ← next
      if c = '\\' && quote = '"' then
        if ← skipJoint fuel then blockText quote done fuel
        else
          let c ← escaped (← next)
          blockText quote (c :: done) fuel
      else
        guard (isTextChar c)
        blockText quote (c :: done) fuel

/-- Read a text in quotes, of one line or of several. -/
def quoted (quote : Char) (fuel : Nat) : Reader String := do
  if ← accept (String.ofList [quote, quote, quote]) then
    let _ ← skipBreak
    blockText quote [] fuel
  else
    expect (String.ofList [quote])
    lineText quote [] fuel

/-! ### Keys and values -/

def isBareChar (c : Char) : Bool :=
  c.isAlphanum || c = '_' || c = '-'

/-- Read one part of a key. -/
def keyPart (fuel : Nat) : Reader String := do
  match ← peek? with
  | some '"' => next *> lineText '"' [] fuel
  | some '\'' => next *> lineText '\'' [] fuel
  | _ =>
    let cs ← takeWhile isBareChar
    guard !cs.isEmpty
    return String.ofList cs

/-- Read a key: parts with dots between them. -/
def key : (fuel : Nat) → Reader (List String)
  | 0 => failure
  | fuel + 1 => do
    skipSpaces
    let part ← keyPart fuel
    skipSpaces
    if ← accept "." then return part :: (← key fuel) else return [part]

mutual

/-- Read a value. -/
def value : (fuel : Nat) → Reader Setting
  | 0 => failure
  | fuel + 1 => do
    match ← peek? with
    | some '"' => return .text (← quoted '"' fuel)
    | some '\'' => return .text (← quoted '\'' fuel)
    | some '[' => next *> return .list (← items fuel)
    | some '\x7b' =>
      let _ ← next
      skipSpaces
      if ← accept "\x7d" then return .table [] else return .table (← entries fuel)
    | _ =>
      if ← accept "true" then return .flag true
      else if ← accept "false" then return .flag false
      else failure

/-- Read the items of a list and its closing bracket. -/
def items : (fuel : Nat) → Reader (List Setting)
  | 0 => failure
  | fuel + 1 => do
    skipLines fuel
    if ← accept "]" then return []
    else
      let v ← value fuel
      skipLines fuel
      if ← accept "," then return v :: (← items fuel)
      else
        expect "]"
        return [v]

/-- Read the entries of a table on one line and its closing brace. -/
def entries : (fuel : Nat) → Reader (List (String × Setting))
  | 0 => failure
  | fuel + 1 => do
    let path ← key fuel
    expect "="
    skipSpaces
    let v ← value fuel
    skipSpaces
    let entry ← match path with
      | [name] => pure (name, v)
      | name :: rest => pure (name, rest.foldr (fun name v => .table [(name, v)]) v)
      | [] => failure
    if ← accept "," then
      skipSpaces
      let rest ← entries fuel
      guard !rest.any (·.1 == entry.1)
      return entry :: rest
    else
      expect "\x7d"
      return [entry]

end

/-! ### Documents -/

/-- Read the lines of a document under a header. -/
def lines (header : List String) (d : Document) : (fuel : Nat) → Reader Document
  | 0 => failure
  | fuel + 1 => do
    skipLines fuel
    match ← peek? with
    | none => return d
    | some '[' =>
      let _ ← next
      let header ← key fuel
      expect "]"
      endLine
      lines header { d with headers := d.headers ++ [header] } fuel
    | some _ =>
      let path ← key fuel
      expect "="
      skipSpaces
      let value ← value fuel
      endLine
      lines header { d with assignments := d.assignments ++ [⟨header, path, value⟩] } fuel

end Reader

/-! ### Consistency -/

/-- The paths of the tables that dotted keys make. -/
def Assignment.dottedTables (a : Assignment) : List (List String) :=
  (List.range (a.key.length - 1)).map fun i => a.header ++ a.key.take (i + 1)

namespace Document

/-- Whether no path is assigned twice, below a value or to a table. -/
def assignsOnce (d : Document) : Bool :=
  let paths := d.assignments.map Assignment.path
  let apart (p q : List String) : Bool := !p.isPrefixOf q && !q.isPrefixOf p
  (List.range paths.length).all fun i =>
    (List.range i).all fun j => apart (paths.getD i []) (paths.getD j [])

/-- Whether every header is written once and names no value, nothing below a value
and no table of dotted keys. -/
def headersOnce (d : Document) : Bool :=
  d.headers.eraseDups.length = d.headers.length &&
    d.headers.all fun h =>
      d.assignments.all fun a => !a.path.isPrefixOf h && !a.dottedTables.contains h

end Document

/-- Read a whole text. -/
def read? (text : String) : Option Document := do
  let cs := match text.toList with
    | '\uFEFF' :: cs => cs
    | cs => cs
  let (d, _) ← (Reader.lines [] {} (2 * cs.length + 4)).run cs
  guard (d.assignsOnce && d.headersOnce)
  return d

end BookmarkViews.Toml
