import BookmarkViews.Command.Arguments
import BookmarkViews.Command.Starter
import BookmarkViews.Config.Basic
import BookmarkViews.Run.Validation
import BookmarkViews.Store.Snapshot
import BookmarkViews.View.DocumentSchema
import BookmarkViews.View.Registry

/-!
What the commands do.

A command asks a `FileAccess` for the files it reads and writes, and answers with
the texts it prints.
-/

namespace BookmarkViews

variable [PatternEngine]

/-- What a command prints, and why it failed. -/
structure Outcome where
  output : String := ""
  /-- What it prints besides its output. -/
  remarks : String := ""
  failure : Option String := none
  /-- Whether the program broke off with the failure, instead of reporting it. -/
  brokeOff : Bool := false
deriving DecidableEq

/-- Why a command failed. -/
structure Failure where
  message : String
  brokeOff : Bool := false

/-- A query fails with a report, except that the program breaks off in a sort. -/
def Failure.ofQuery (e : QueryError) : Failure :=
  { message := e.message, brokeOff := e = .failed .disorder }

namespace Outcome

/-- The outcome of printing lines. -/
def ofLines (lines : List String) : Outcome :=
  { output := String.join (lines.map (· ++ "\n")) }

def ofFailure (f : Failure) : Outcome :=
  { failure := some f.message, brokeOff := f.brokeOff }

end Outcome

namespace Command

variable {m : Type → Type} [Monad m]

/-- A step that may fail. -/
abbrev Step (m : Type → Type) := ExceptT Failure m

def fail {α : Type} (message : String) : Step m α :=
  throw { message }

def orFail {ε α : Type} (message : ε → String) (r : Except ε α) : Step m α :=
  ExceptT.mk (pure (r.mapError fun e => { message := message e }))

/-! ### Views and records -/

/-- Read a view document and add its views. -/
def loadDocument (files : FileAccess m) (r : Registry) (path : String) : Step m Registry := do
  let refuse (e : ViewError) : Step m Registry := fail s!"{path}: {e.message}"
  match ← (files.read path : m _) with
  | .error e => refuse (.unreadable path e.text)
  | .ok text =>
    match Registry.loadText r false text with
    | .ok (_, r) => return r
    | .error e => refuse e

/-- Read the view documents that are named, or else those of the configuration. -/
def loadViews (files : FileAccess m) (c : Config) (named : List String) : Step m Registry := do
  let paths ←
    if named.isEmpty then orFail ConfigError.message (← (c.viewFiles files : m _))
    else pure named
  if paths.isEmpty then fail "no view documents (pass -f or set [views] paths)"
  paths.foldlM (loadDocument files) Registry.empty

/-- Open the records that are named, or else those of the configuration. -/
def openStore (files : FileAccess m) (c : Config) (source : SourceOptions) : Step m Store := do
  let (snapshot, sqlite) :=
    if source.snapshot.isNone && source.sqlite.isNone then (c.snapshotPath?, c.sqlitePath?)
    else (source.snapshot, source.sqlite)
  match snapshot, sqlite with
  | some path, _ =>
    return (← orFail StoreError.message (← (Snapshot.load files path : m _))).store
  | none, some path =>
    if ← (files.isFile path : m _) then return (← (files.database path : m _)).store
    else fail s!"sqlite database {path} not found"
  | none, none => fail "no record store (pass --snapshot/--sqlite or set [store])"

/-- The context of a run; `clock` is the present instant. -/
def contextOf (c : Config) (source : SourceOptions) (clock : Instant) (store : Store) :
    Except String RunContext := do
  let now ← match source.now with
    | none => pure clock
    | some text =>
      match readInstant? text with
      | some now => pure now
      | none => .error s!"invalid --now instant '{text}'"
  return { store, now, pushdown := !source.noPushdown && c.pushdown }

/-! ### Commands -/

/-- Write the files of a new project; files that exist are kept. -/
def startProject (files : FileAccess m) (path : String) : Step m Outcome := do
  let configPath := Path.join path Config.fileName
  if ← (files.isPresent configPath : m _) then fail s!"{configPath} already exists"
  let viewsPath := Path.join path "views"
  orFail (fun e : FileError => s!"cannot create views dir: {e.text}")
    (← (files.makeDirectories viewsPath : m _))
  let texts := [(configPath, Starter.config), (Path.join viewsPath "starter.yaml", Starter.views),
    (Path.join path "records.yaml", Starter.records)]
  for (file, text) in texts do
    if !(← (files.isPresent file : m _)) then
      orFail (fun e : FileError => s!"cannot write {file}: {e.text}")
        (← (files.write file text : m _))
  return .ofLines (s!"Initialized markql project at {path}" ::
    texts.map fun t => s!"  Created: {t.1}")

/-- Report what is wrong with the views of a registry. -/
def report (r : Registry) : Outcome :=
  match r.findings with
  | [] => .ofLines [s!"OK: {r.size} views"]
  | findings =>
    { remarks := String.join (findings.map fun f => s!"  ERROR: {f.message}\n")
      failure := some s!"{findings.length} validation error(s)" }

/-- The line of a view in a list, whose names take up `width` characters. -/
def listLine (r : Registry) (width : Nat) (v : View) : String :=
  let entity := ((r.entityOf? v).map Entity.name).getD "?"
  let line := Text.padRight width v.name.toList ++ ' ' :: ' ' :: Text.padRight 8 entity.toList
  let references :=
    if v.references.isEmpty then "" else "  from " ++ ", ".intercalate v.references
  let description := (v.description.map ("  " ++ ·)).getD ""
  String.ofList (Text.trimRight (line ++ references.toList ++ description.toList))

/-- List the views of a registry. Names are padded to the longest, in bytes. -/
def overview (r : Registry) : Outcome :=
  let width := (r.names.map fun name => Text.byteLength name.toList).foldl max 0
  .ofLines (r.views.map (listLine r width))

/-- Run a view. -/
def runView (files : FileAccess m) (c : Config) (clock : Instant) (view : String)
    (source : SourceOptions) (format : OutputFormat) : Step m Outcome := do
  let r ← loadViews files c source.files
  let store ← openStore files c source
  let ctx ← orFail id (contextOf c source clock store)
  let answer := (executeNamed ctx r source.params view).result
  let q ← ExceptT.mk (pure (answer.mapError Failure.ofQuery))
  return { output := (QueryResult.ofRows q.entity q.rows q.groupColumns).render format }

/-- Explain a view. -/
def explainView (files : FileAccess m) (c : Config) (clock : Instant) (view : String)
    (source : SourceOptions) : Step m Outcome := do
  let r ← loadViews files c source.files
  let store ← openStore files c source
  let ctx ← orFail id (contextOf c source clock store)
  match r.find? view with
  | none => fail s!"unknown view '{view}'"
  | some v =>
    let e ← orFail QueryError.message (BookmarkViews.explain ctx r source.params v)
    return { output := e.text }

/-- Carry out a command. -/
def carryOut (files : FileAccess m) (c : Config) (clock : Instant) : Command → Step m Outcome
  | .init path => startProject files path
  | .validate paths => return report (← loadViews files c paths)
  | .list paths => return overview (← loadViews files c paths)
  | .run view source format => runView files c clock view source (format.getD c.format)
  | .explain view source => explainView files c clock view source
  | .schema => return .ofLines [DocumentSchema.value.pretty]

end Command

/-- Carry out what a command line asks for. -/
def Invocation.carryOut {m : Type → Type} [Monad m] (files : FileAccess m) (clock : Instant)
    (i : Invocation) : m Outcome := do
  let steps : Command.Step m Outcome := do
    let c ← Command.orFail ConfigError.message (← (Config.discover files i.config : m _))
    i.command.carryOut files c clock
  match ← steps.run with
  | .ok outcome => return outcome
  | .error f => return .ofFailure f

end BookmarkViews
