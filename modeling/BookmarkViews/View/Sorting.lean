import BookmarkViews.Field

/-!
Sort keys and the clauses that write them: a field, then the direction, then the
place of nulls, the last two optional. Clauses are separated by commas.
-/

namespace BookmarkViews

inductive Direction where
  | ascending
  | descending
deriving DecidableEq, Repr

/-- Where rows without a value go. -/
inductive NullsPlace where
  | first
  | last
deriving DecidableEq, Repr

/-- One key to sort by. -/
structure SortKey where
  field : FieldPath
  direction : Direction := .ascending
  nulls : NullsPlace := .last
deriving DecidableEq, Repr

/-- Why a sort clause cannot be read. -/
inductive SortFault where
  | emptyClause
  | field (fault : Fault)
  | unexpected (word : String)
  | nullsPlace
deriving DecidableEq, Repr

def SortFault.text : SortFault → String
  | .emptyClause => "empty sort clause"
  | .field fault => fault.text
  | .unexpected word => s!"unexpected token '{word}'"
  | .nullsPlace => "expected 'nulls first' or 'nulls last'"

namespace SortKey

/-- The text of a sort key, with direction and place of nulls. -/
def text (k : SortKey) : String :=
  let direction := match k.direction with
    | .ascending => "asc"
    | .descending => "desc"
  let nulls := match k.nulls with
    | .first => "first"
    | .last => "last"
  s!"{k.field.text} {direction} nulls {nulls}"

/-- Read the place of nulls, after the direction. -/
def readNulls? (key : SortKey) : List String → Except SortFault SortKey
  | [] => .ok key
  | "nulls" :: "first" :: rest => nothingAfter { key with nulls := .first } rest
  | "nulls" :: "last" :: rest => nothingAfter { key with nulls := .last } rest
  | "nulls" :: _ => .error .nullsPlace
  | word :: _ => .error (.unexpected word)
where
  /-- A key is complete when no word follows. -/
  nothingAfter (key : SortKey) : List String → Except SortFault SortKey
    | [] => .ok key
    | word :: _ => .error (.unexpected word)

/-- Read the words after the field. -/
def readOptions? (key : SortKey) : List String → Except SortFault SortKey
  | "asc" :: rest => readNulls? { key with direction := .ascending } rest
  | "desc" :: rest => readNulls? { key with direction := .descending } rest
  | rest => readNulls? key rest

/-- Read one clause. -/
def read? (clause : List Char) : Except SortFault SortKey :=
  match Text.words clause with
  | [] => .error .emptyClause
  | field :: rest => do
    let field ← (FieldPath.read? (String.ofList field)).mapError fun m => .field m.fault
    readOptions? { field } (rest.map fun word => String.ofList (Text.asciiLower word))

/-- Read clauses with commas between them. -/
def readAll? (s : String) : Except SortFault (List SortKey) :=
  (s.toList.splitOn ',').mapM read?

end SortKey

end BookmarkViews
