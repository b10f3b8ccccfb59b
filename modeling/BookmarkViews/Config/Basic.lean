import BookmarkViews.Config.Toml
import BookmarkViews.Files.Glob
import BookmarkViews.Result.Format

/-!
The configuration: where records and view documents are, how results are written
and whether filters may be pushed to the store.

Every setting may be left out. Relative paths start at the directory of the
configuration file.
-/

namespace BookmarkViews

/-- Why a configuration is refused. -/
inductive ConfigError where
  | unreadable (path reason : String)
  | notToml
  | pattern (pattern : String) (fault : Glob.Fault)
  | twoStores
deriving DecidableEq, Repr

/-- What is wrong with a configuration that has two stores. -/
def ConfigError.twoStoresText : String :=
  "[store] takes either snapshot or sqlite, not both"

def ConfigError.message : ConfigError → String
  | .unreadable path reason => s!"cannot read {path}: {reason}"
  | .notToml => "invalid config"
  | .pattern glob fault => s!"invalid view pattern '{glob}': {fault.text}"
  | .twoStores => s!"invalid config: {twoStoresText}"

structure Config where
  snapshot : Option String := none
  sqlite : Option String := none
  /-- The patterns of the paths of view documents. -/
  viewPaths : List String := []
  format : OutputFormat := .table
  pushdown : Bool := true
  /-- The directory where relative paths start. -/
  root : String := "."
deriving DecidableEq, Repr

namespace Config

/-- The name of the configuration file in the working directory. -/
def fileName : String := "markql.toml"

/-! ### Settings -/

open Toml (Setting)

def text? : Setting → Option String
  | .text s => some s
  | _ => none

def flag? : Setting → Option Bool
  | .flag b => some b
  | _ => none

def texts? : Setting → Option (List String)
  | .list items => items.mapM text?
  | _ => none

/-- A format is written as its name, or as a table with the name as its only key
and nothing below it. -/
def format? : Setting → Option OutputFormat
  | .text s => OutputFormat.ofName? s
  | .table [(name, .table [])] | .table [(name, .list [])] => OutputFormat.ofName? name
  | _ => none

/-- The entries of a section. One that is written as a list gives its settings in
the order of their names. -/
def entries? (names : List String) : Setting → Option (List (String × Setting))
  | .table entries => if entries.all fun e => names.contains e.1 then some entries else none
  | .list items => some (names.zip items)
  | _ => none

/-- The names of the settings of each section. -/
def sections : List (String × List String) :=
  [("store", ["snapshot", "sqlite"]), ("views", ["paths"]), ("output", ["format"]),
    ("execution", ["pushdown"])]

/-- A setting of a section, which may be left out. -/
def setting? {α : Type} (entries : List (String × Setting)) (name : String)
    (read : Setting → Option α) : Option (Option α) :=
  match entries.lookup name with
  | some v => (read v).map some
  | none => some none

/-- Take over the entries of a section. -/
def withSection? (c : Config) (name : String) (entries : List (String × Setting)) : Option Config := do
  match name with
  | "store" =>
    let snapshot ← setting? entries "snapshot" text?
    let sqlite ← setting? entries "sqlite" text?
    return { c with snapshot, sqlite }
  | "views" =>
    let paths ← setting? entries "paths" texts?
    return { c with viewPaths := paths.getD [] }
  | "output" =>
    let format ← setting? entries "format" format?
    return { c with format := format.getD .table }
  | "execution" =>
    let pushdown ← setting? entries "pushdown" flag?
    return { c with pushdown := pushdown.getD true }
  | _ => none

/-- The entries that a document gives to a section. -/
def entriesOf? (d : Toml.Document) (name : String) (names : List String) :
    Option (List (String × Setting)) :=
  match d.assignments.find? fun a => a.path == [name] with
  | some a => entries? names a.value
  | none => do
    let below := d.assignments.filter fun a => a.path.head? == some name
    let entries ← below.mapM fun a =>
      match a.path with
      | [_, key] => some (key, a.value)
      | _ => none
    entries? names (.table entries)

/-- The configuration that a document describes. -/
def ofDocument? (d : Toml.Document) (root : String) : Option Config := do
  let paths := d.headers ++ d.assignments.map Toml.Assignment.path
  guard (paths.all fun p => sections.any fun s => p.head? == some s.1)
  guard (d.headers.all fun h => h.length = 1)
  sections.foldlM (fun c s => do c.withSection? s.1 (← entriesOf? d s.1 s.2)) { root }

/-! ### Checks -/

/-- Refuse a configuration with two stores or with a text that is no pattern. -/
def check (c : Config) : Except ConfigError Config :=
  if c.snapshot.isSome && c.sqlite.isSome then .error .twoStores
  else do
    for pattern in c.viewPaths do
      let _ ← (Glob.read? pattern.toList).mapError (.pattern pattern)
    return c

/-- Read the text of a configuration file in a directory. -/
def read? (text root : String) : Except ConfigError Config :=
  match (Toml.read? text).bind fun d => ofDocument? d root with
  | some c => c.check
  | none => .error .notToml

/-! ### Files -/

/-- A path that starts at the directory of the configuration file. -/
def resolve (c : Config) (path : String) : String :=
  Path.join c.root path

def snapshotPath? (c : Config) : Option String :=
  c.snapshot.map c.resolve

def sqlitePath? (c : Config) : Option String :=
  c.sqlite.map c.resolve

variable {m : Type → Type} [Monad m]

/-- Load a configuration file. -/
def load (files : FileAccess m) (path : String) : m (Except ConfigError Config) := do
  match ← files.read path with
  | .ok text => return read? text ((Path.parent? path).getD ".")
  | .error e => return .error (.unreadable path e.text)

/-- Load the configuration file that is named, or else the one in the working
directory, if there is one. -/
def discover (files : FileAccess m) (named : Option String) : m (Except ConfigError Config) := do
  match named with
  | some path => load files path
  | none => if ← files.isFile fileName then load files fileName else return .ok {}

/-- The files that the patterns for view documents mean, each once. -/
def viewFiles (files : FileAccess m) (c : Config) : m (Except ConfigError (List String)) :=
  go c.viewPaths []
where
  go : List String → (found : List String) → m (Except ConfigError (List String))
    | [], found => return .ok found
    | pattern :: patterns, found => do
      match ← Glob.expand files (c.resolve pattern) with
      | .error f => return .error (.pattern pattern f)
      | .ok paths =>
        go patterns (paths.foldl (fun found path =>
          if found.any fun other => Path.order other path == .eq then found
          else found ++ [path]) found)

end Config

end BookmarkViews
