import BookmarkViews.Files.Access
import BookmarkViews.Files.Path
import BookmarkViews.Store.Memory
import BookmarkViews.Value.Json
import BookmarkViews.Value.JsonReading
import BookmarkViews.Yaml.Reading
import BookmarkViews.Yaml.Writing

/-!
Snapshot files: the records of a memory store as one text.

A snapshot has the fields `bookmarks`, `tags` and `edges`, all of which may be left
out; tags that are left out are derived. It is JSON when its file says so and YAML
otherwise. A file is replaced as a whole, never half written.
-/

namespace BookmarkViews.Snapshot

/-- The fields of a snapshot. -/
def fieldNames : List String :=
  ["bookmarks", "tags", "edges"]

/-- Whether a path has the extension of JSON files. -/
def isJson (path : String) : Bool :=
  (Path.extension? path).any fun e => Text.asciiLowered e == "json"

/-! ### Reading -/

/-- The records of the fields of a snapshot, given how a list of rows is read and
which values say that there are no tags. -/
def ofFields? {α : Type} (field? : String → Option α) (rows? : α → Option (List Row))
    (isNothing : α → Bool) : Option MemoryRecords := do
  let rows (name : String) : Option (List Row) :=
    match field? name with
    | some v => rows? v
    | none => some []
  let tags ← match field? "tags" with
    | some v => if isNothing v then some none else (rows? v).map some
    | none => some none
  return { bookmarks := ← rows "bookmarks", tags, edges := ← rows "edges" }

/-- The rows of a list of objects. -/
def rows? : Value → Option (List Row)
  | .list items => items.mapM Value.object?
  | _ => none

/-- Read JSON text: an object, or a list of the fields in their order. -/
def ofJson? (text : String) : Option MemoryRecords := do
  let cs := text.toList
  match ← Json.read? cs with
  | .object fields =>
    guard (!Json.repeatsName cs && fields.all fun f => fieldNames.contains f.1)
    ofFields? (Keyed.get? fields) rows? Value.isNull
  | .list items =>
    guard (items.length ≤ fieldNames.length)
    ofFields? (fun name => (fieldNames.zip items).lookup name) rows? Value.isNull
  | _ => none

/-- Whether nothing is written where a tree is expected. -/
def isMissing : Yaml.Tree → Bool
  | .scalar _ true [] => true
  | _ => false

/-- Whether a tree is null. -/
def isNullTree : Yaml.Tree → Bool
  | .scalar none true text => Yaml.Plain.isNull text
  | .scalar (some _) _ _ | .scalar none false _ | .sequence _ _ | .mapping _ _ => false

/-- The row of a mapping. -/
def rowOfTree? : Yaml.Tree → Option Row
  | .mapping _ entries => (Yaml.Tree.fields? (Yaml.deepest - 3) entries).map Keyed.ofEntries
  | t => if isMissing t then some [] else none

/-- The rows of a sequence of mappings. -/
def rowsOfTree? : Yaml.Tree → Option (List Row)
  | .sequence _ items => items.mapM rowOfTree?
  | t => if isMissing t then some [] else none

/-- Read YAML text. -/
def ofYaml? (text : String) : Option MemoryRecords := do
  match ← Yaml.Tree.read? text.toList with
  | .mapping _ entries =>
    let fields ← entries.mapM fun e => do return (← e.1.keyText?, e.2)
    let names := Keyed.keys fields
    guard (names.eraseDups.length = names.length && names.all fieldNames.contains)
    ofFields? (Keyed.get? fields) rowsOfTree? isNullTree
  | t => if isMissing t then some {} else none

/-- Read the text of a snapshot. -/
def read? (json : Bool) (text : String) : Option MemoryRecords :=
  if json then ofJson? text else ofYaml? text

/-! ### Writing -/

/-- The records as one value. -/
def toValue (m : MemoryRecords) : Value :=
  let rows (rs : List Row) : Value := .list (rs.map .object)
  .object ([("bookmarks", rows m.bookmarks)] ++
    (match m.tags with
      | some tags => [("tags", rows tags)]
      | none => []) ++
    [("edges", rows m.edges)])

/-- The text of a snapshot. -/
def text (json : Bool) (m : MemoryRecords) : String :=
  if json then (toValue m).pretty else Yaml.text (toValue m)

/-! ### Files -/

variable {m : Type → Type} [Monad m]

/-- Load a snapshot file. -/
def load (files : FileAccess m) (path : String) : m (Except StoreError MemoryRecords) := do
  match ← files.read path with
  | .error e => return .error (.access path e.text)
  | .ok text =>
    match read? (isJson path) text with
    | some records => return .ok records
    | none => return .error (.snapshot path "not a set of records")

/-- Save a snapshot file: the text is written next to it first. -/
def save (files : FileAccess m) (path : String) (records : MemoryRecords) :
    m (Except StoreError Unit) := ExceptT.run do
  let failing (path : String) (e : FileError) : StoreError := .access path e.text
  match (Path.parent? path).filter (!·.isEmpty) with
  | some parent => ExceptT.mk (return (← files.makeDirectories parent).mapError (failing parent))
  | none => pure ()
  let draft := Path.withExtension path "tmp"
  let content := text (isJson path) records
  ExceptT.mk (return (← files.write draft content).mapError (failing draft))
  ExceptT.mk (return (← files.move draft path).mapError (failing path))

end BookmarkViews.Snapshot
