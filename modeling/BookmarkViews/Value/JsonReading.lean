import BookmarkViews.Value.Basic

/-!
Reading JSON text.

The text is cut into tokens, and the tokens drive a machine whose stack holds the
containers still open (`Json.step`). Containers nest at most `Json.deepest` deep.
A repeated name keeps its first place and its last value.

A number with a fraction or an exponent is read from at most twenty digits and
one multiplication or division by a power of ten, so a text of more than fifteen
digits may give a neighbour of the nearest double.
-/

namespace BookmarkViews.Json

inductive Token where
  | openList
  | closeList
  | openObject
  | closeObject
  | comma
  | colon
  | value (v : Value)
deriving Repr

/-! ### Numbers -/

/-- The greatest significand. -/
def greatestSignificand : Nat := 18446744073709551615

/-- Append digits to a significand as long as it stays in range. The second part
counts the digits left out. -/
def absorb (significand : Nat) : List Char → Nat × Nat
  | [] => (significand, 0)
  | c :: cs =>
    let next := 10 * significand + (c.toNat - '0'.toNat)
    if greatestSignificand < next then (significand, cs.length + 1) else absorb next cs

/-- A power of ten as a double. -/
def powerOfTen (n : Nat) : Binary64 :=
  Decimal.nearest false 1 n

/-- `f` divided by ten to the `n`, in steps of at most 308 places. -/
def scaleDown (f : Binary64) : (n steps : Nat) → Binary64
  | _, 0 => Binary64.zero
  | n, steps + 1 =>
    if n ≤ 308 then f.div (powerOfTen n)
    else scaleDown (f.div (powerOfTen 308)) (n - 308) steps

/-- The double for `significand * 10 ^ exponent`; none when it is too large. -/
def scaled? (negative : Bool) (significand : Nat) (exponent : Int) : Option Binary64 :=
  let f := Binary64.ofInt significand
  let result :=
    if significand = 0 then f
    else if 308 < exponent then ⟨false, Binary64.infinity⟩
    else if 0 ≤ exponent then f.mul (powerOfTen exponent.toNat)
    else scaleDown f (-exponent).toNat 4
  if result.isFinite then some { result with negative } else none

/-- The number written with these digits. -/
def number? (negative : Bool) (whole : List Char) (fraction : Option (List Char))
    (exponent : Option Int) : Option Number :=
  let n := Decimal.ofDigits whole
  let (head, dropped) := absorb 0 whole
  match fraction, exponent with
  | none, none =>
    if negative && 0 < n && n ≤ 9223372036854775808 then some (.int (-n))
    else if !negative && n ≤ greatestSignificand then some (.int n)
    else (scaled? negative head dropped).map .float
  | _, _ =>
    let digits := fraction.getD []
    let (significand, left) := absorb head digits
    let places : Int := (dropped : Int) - (digits.length - left : Nat)
    (scaled? negative significand (places + exponent.getD 0)).map .float

/-- Read a number whose sign has been read. -/
def lexNumber? (negative : Bool) (cs : List Char) : Option (Number × List Char) := do
  let (whole, rest) := cs.span Decimal.isDigit
  if whole.isEmpty || (whole.head? == some '0' && 1 < whole.length) then none
  let (fraction, rest) ← match rest with
    | '.' :: rest =>
      let (ds, rest) := rest.span Decimal.isDigit
      if ds.isEmpty then none else some (some ds, rest)
    | _ => some (none, rest)
  let (exponent, rest) ← match rest with
    | c :: rest' =>
      if c = 'e' || c = 'E' then
        let (sign, tail) := match rest' with
          | '-' :: tail => (true, tail)
          | '+' :: tail => (false, tail)
          | tail => (false, tail)
        let (ds, tail) := tail.span Decimal.isDigit
        if ds.isEmpty then none
        else
          let e : Int := Decimal.ofDigits ds
          some (some (if sign then -e else e), tail)
      else some (none, rest)
    | [] => some (none, [])
  let n ← number? negative whole fraction exponent
  some (n, rest)

/-! ### Texts -/

/-- The value of a hexadecimal digit. -/
def hexDigit? (c : Char) : Option Nat :=
  if '0' ≤ c && c ≤ '9' then some (c.toNat - '0'.toNat)
  else if 'a' ≤ c && c ≤ 'f' then some (c.toNat - 'a'.toNat + 10)
  else if 'A' ≤ c && c ≤ 'F' then some (c.toNat - 'A'.toNat + 10)
  else none

/-- The number that four hexadecimal digits denote. -/
def hex4? (a b c d : Char) : Option Nat := do
  let a ← hexDigit? a
  let b ← hexDigit? b
  let c ← hexDigit? c
  let d ← hexDigit? d
  some (((a * 16 + b) * 16 + c) * 16 + d)

/-- The character that a one-letter escape stands for. -/
def simpleEscape? : Char → Option Char
  | '"' => some '"'
  | '\\' => some '\\'
  | '/' => some '/'
  | 'b' => some (Char.ofNat 8)
  | 'f' => some (Char.ofNat 12)
  | 'n' => some '\n'
  | 'r' => some '\r'
  | 't' => some '\t'
  | _ => none

/-- Read up to the closing quote; `done` holds the characters so far, last
first. -/
def lexString? (done : List Char) : List Char → Option (String × List Char)
  | [] => none
  | '"' :: rest => some (String.ofList done.reverse, rest)
  | '\\' :: 'u' :: a :: b :: c :: d :: '\\' :: 'u' :: e :: f :: g :: h :: rest =>
    match hex4? a b c d, hex4? e f g h with
    | some high, some low =>
      if 0xD800 ≤ high && high ≤ 0xDBFF then
        if 0xDC00 ≤ low && low ≤ 0xDFFF then
          lexString? (Char.ofNat (0x10000 + (high - 0xD800) * 0x400 + (low - 0xDC00)) :: done) rest
        else none
      else if 0xDC00 ≤ high && high ≤ 0xDFFF then none
      else lexString? (Char.ofNat high :: done) ('\\' :: 'u' :: e :: f :: g :: h :: rest)
    | _, _ => none
  | '\\' :: 'u' :: a :: b :: c :: d :: rest =>
    match hex4? a b c d with
    | some n => if 0xD800 ≤ n && n ≤ 0xDFFF then none else lexString? (Char.ofNat n :: done) rest
    | none => none
  | '\\' :: c :: rest =>
    match simpleEscape? c with
    | some c => lexString? (c :: done) rest
    | none => none
  | c :: rest => if c.toNat < 0x20 || c = '\\' then none else lexString? (c :: done) rest

/-! ### Tokens -/

/-- The next token and the rest; nothing at the end of the text. -/
def lexToken? : List Char → Option (Token × List Char)
  | '[' :: rest => some (.openList, rest)
  | ']' :: rest => some (.closeList, rest)
  | '\x7b' :: rest => some (.openObject, rest)
  | '\x7d' :: rest => some (.closeObject, rest)
  | ',' :: rest => some (.comma, rest)
  | ':' :: rest => some (.colon, rest)
  | '"' :: rest => (lexString? [] rest).map fun (s, rest) => (.value (.text s), rest)
  | 'n' :: 'u' :: 'l' :: 'l' :: rest => some (.value .null, rest)
  | 't' :: 'r' :: 'u' :: 'e' :: rest => some (.value (.bool true), rest)
  | 'f' :: 'a' :: 'l' :: 's' :: 'e' :: rest => some (.value (.bool false), rest)
  | '-' :: rest => (lexNumber? true rest).map fun (n, rest) => (.value (.number n), rest)
  | rest => (lexNumber? false rest).map fun (n, rest) => (.value (.number n), rest)

/-- The blanks of JSON. -/
def isBlank (c : Char) : Bool :=
  c = ' ' || c = '\t' || c = '\n' || c = '\r'

/-- Cut a text into tokens, of which there are at most `fuel`. -/
def lex? (done : List Token) : (fuel : Nat) → List Char → Option (List Token)
  | 0, _ => none
  | fuel + 1, cs =>
    match cs.dropWhile isBlank with
    | [] => some done.reverse
    | c :: cs =>
      match lexToken? (c :: cs) with
      | some (token, rest) => lex? (token :: done) fuel rest
      | none => none

/-! ### The machine -/

/-- A container still open, its entries last first. -/
inductive Frame where
  | list (items : List Value)
  | object (fields : List (String × Value)) (name : String)

/-- What may come next. -/
inductive Want where
  | value
  | itemOrClose
  | nameOrClose
  | name
  | colon
  | separator

structure State where
  stack : List Frame
  want : Want
  result : Option Value

/-- The most containers that may be open at once. -/
def deepest : Nat := 127

/-- Hand a complete value to the container it stands in. -/
def State.place (stack : List Frame) (v : Value) : State :=
  match stack with
  | [] => ⟨[], .separator, some v⟩
  | .list items :: stack => ⟨.list (v :: items) :: stack, .separator, none⟩
  | .object fields name :: stack => ⟨.object ((name, v) :: fields) "" :: stack, .separator, none⟩

/-- Take one token. -/
def step (s : State) (token : Token) : Option State :=
  match token, s.want, s.stack with
  | .value v, .value, stack => some (State.place stack v)
  | .value v, .itemOrClose, stack => some (State.place stack v)
  | .value (.text k), .nameOrClose, .object fields _ :: stack
  | .value (.text k), .name, .object fields _ :: stack =>
    some ⟨.object fields k :: stack, .colon, none⟩
  | .colon, .colon, stack => some ⟨stack, .value, none⟩
  | .openList, .value, stack | .openList, .itemOrClose, stack =>
    if stack.length < deepest then some ⟨.list [] :: stack, .itemOrClose, none⟩ else none
  | .openObject, .value, stack | .openObject, .itemOrClose, stack =>
    if stack.length < deepest then some ⟨.object [] "" :: stack, .nameOrClose, none⟩ else none
  | .comma, .separator, .list items :: stack => some ⟨.list items :: stack, .value, none⟩
  | .comma, .separator, .object fields name :: stack =>
    some ⟨.object fields name :: stack, .name, none⟩
  | .closeList, .separator, .list items :: stack
  | .closeList, .itemOrClose, .list items :: stack =>
    some (State.place stack (.list items.reverse))
  | .closeObject, .separator, .object fields _ :: stack
  | .closeObject, .nameOrClose, .object fields _ :: stack =>
    some (State.place stack (.object (Keyed.ofEntries fields.reverse)))
  | _, _, _ => none

/-- Read a whole text as one value. -/
def read? (cs : List Char) : Option Value := do
  let tokens ← lex? [] (cs.length + 1) cs
  let final ← tokens.foldlM step ⟨[], .value, none⟩
  final.result

/-- The names in the outermost object of a text, each as often as it is written;
`depth` containers are open before the tokens. -/
def outerNames (depth : Nat) : List Token → List String
  | .value (.text name) :: .colon :: tokens =>
    if depth = 1 then name :: outerNames depth tokens else outerNames depth tokens
  | .openList :: tokens | .openObject :: tokens => outerNames (depth + 1) tokens
  | .closeList :: tokens | .closeObject :: tokens => outerNames (depth - 1) tokens
  | _ :: tokens => outerNames depth tokens
  | [] => []

/-- Whether the outermost object of a text repeats a name. -/
def repeatsName (cs : List Char) : Bool :=
  match lex? [] (cs.length + 1) cs with
  | some tokens =>
    let names := outerNames 0 tokens
    names.eraseDups.length < names.length
  | none => false

end BookmarkViews.Json
