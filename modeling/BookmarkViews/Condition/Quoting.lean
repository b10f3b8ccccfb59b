import BookmarkViews.Fault
import BookmarkViews.Text.Blank

/-!
Quoted texts and bracketed lists, as conditions write them.

Between quotes a backslash takes the next character as it stands. `quote` writes
what `unquote?` reads, and `listItem` quotes an item of a list only where the bare
item would not be read back.
-/

namespace BookmarkViews.Quoting

/-! ### Texts -/

/-- Put a backslash before every quote and backslash. -/
def escape : List Char → List Char
  | [] => []
  | c :: cs => if c = '"' || c = '\\' then '\\' :: c :: escape cs else c :: escape cs

/-- A text in quotes. -/
def quote (cs : List Char) : List Char :=
  '"' :: escape cs ++ ['"']

/-- Read up to the closing quote; the answer is the text and what follows. -/
def closeQuote? : List Char → Option (List Char × List Char)
  | [] => none
  | '"' :: rest => some ([], rest)
  | '\\' :: c :: cs => (closeQuote? cs).map fun (s, rest) => (c :: s, rest)
  | c :: cs =>
    if c = '\\' then none else (closeQuote? cs).map fun (s, rest) => (c :: s, rest)

/-- Read a quoted text; only blanks may follow it. -/
def unquote? : List Char → Except Fault (List Char)
  | '"' :: cs =>
    match closeQuote? cs with
    | some (s, rest) => if rest.all Text.isBlank then .ok s else .error .afterQuote
    | none => .error .unbalancedQuote
  | _ => .error .notQuoted

/-! ### Lists -/

/-- Where the reader of a list stands. -/
inductive ItemState where
  /-- In an item without quotes; its characters, last first. -/
  | bare (seen : List Char)
  /-- Between quotes. -/
  | inside (seen : List Char)
  /-- After the closing quote. -/
  | closed (item : List Char)
deriving DecidableEq, Repr

/-- The item that ends here. -/
def finish : ItemState → Except Fault String
  | .bare seen =>
    let item := Text.trim seen.reverse
    if item.isEmpty then .error .emptyItem else .ok (String.ofList item)
  | .inside _ => .error .unbalancedQuote
  | .closed item => .ok (String.ofList item)

/-- Read the items between the brackets; those already read stand last first in
`items`. -/
def itemsFrom (items : List String) : ItemState → List Char → Except Fault (List String)
  | .inside seen, '\\' :: c :: cs => itemsFrom items (.inside (c :: seen)) cs
  | .inside seen, c :: cs =>
    if c = '\\' then .error .unbalancedQuote
    else if c = '"' then itemsFrom items (.closed seen.reverse) cs
    else itemsFrom items (.inside (c :: seen)) cs
  | .inside _, [] => .error .unbalancedQuote
  | state, [] =>
    let nothing := match state with
      | .bare seen => items.isEmpty && seen.all Text.isBlank
      | _ => false
    if nothing then .ok [] else (finish state).map fun item => (item :: items).reverse
  | state, ',' :: cs => do
    let item ← finish state
    itemsFrom (item :: items) (.bare []) cs
  | .bare seen, c :: cs =>
    if c = '"' then
      if seen.all Text.isBlank then itemsFrom items (.inside []) cs else .error .quoteInItem
    else if c = '[' || c = ']' then .error .unbalancedBrackets
    else itemsFrom items (.bare (c :: seen)) cs
  | .closed item, c :: cs =>
    if c = '"' then .error .quoteInItem
    else if c = '[' || c = ']' then .error .unbalancedBrackets
    else if Text.isBlank c then itemsFrom items (.closed item) cs
    else .error .afterQuote

section
attribute [local simp] itemsFrom

/-- Behind a backslash a character is collected whatever it is. -/
theorem itemsFrom_escaped {items : List String} {seen rest : List Char} {c : Char} :
    itemsFrom items (.inside seen) ('\\' :: c :: rest) =
      itemsFrom items (.inside (c :: seen)) rest := by
  simp

end

/-- Read a bracketed list. -/
def list? (cs : List Char) : Except Fault (List String) :=
  let cs := Text.trim cs
  match Text.after? ['['] cs, Text.before? [']'] cs with
  | some (inner), some _ =>
    match Text.before? [']'] inner with
    | some items => itemsFrom [] (.bare []) items
    | none => .error .unbalancedBrackets
  | none, none => .error .notAList
  | _, _ => .error .unbalancedBrackets

/-- Whether an item needs no quotes. -/
def isPlainItem (cs : List Char) : Bool :=
  !cs.isEmpty && Text.trim cs == cs &&
    cs.all fun c => c != '"' && c != ',' && c != '[' && c != ']'

/-- An item of a list. -/
def listItem (cs : List Char) : List Char :=
  if isPlainItem cs then cs else quote cs

/-- A bracketed list. -/
def list (items : List String) : List Char :=
  '[' :: (", ".toList.intercalate (items.map fun s => listItem s.toList)) ++ [']']

/-! ### Laws -/

theorem closeQuote?_escape (cs rest : List Char) :
    closeQuote? (escape cs ++ '"' :: rest) = some (cs, rest) := by
  induction cs with
  | nil => simp [escape, closeQuote?]
  | cons c cs ih =>
    by_cases h : c = '"' ∨ c = '\\'
    · simp [escape, h, closeQuote?, ih]
    · simp only [not_or] at h
      simp [escape, h.1, h.2, closeQuote?, ih]

/-- What is quoted is read back. -/
theorem unquote?_quote (cs : List Char) : unquote? (quote cs) = .ok cs := by
  simp [quote, unquote?, closeQuote?_escape]

end BookmarkViews.Quoting
