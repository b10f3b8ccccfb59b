import BookmarkViews.Files.Access
import BookmarkViews.Files.Path

/-!
Files in memory.

A tree lists its entries by the names that lead to them. The working directory is
the top of the tree, and nothing stands outside of it.
-/

namespace BookmarkViews

inductive FileEntry where
  | directory
  | text (s : String)
  | database (d : Database)
deriving DecidableEq

structure FileTree where
  entries : List (List String × FileEntry) := []
deriving DecidableEq

namespace FileTree

/-- What stands at the end of some names. -/
def entry? (t : FileTree) (names : List String) : Option FileEntry :=
  if names.isEmpty then some .directory else Keyed.get? t.entries names

def put (t : FileTree) (names : List String) (e : FileEntry) : FileTree :=
  ⟨Keyed.insert t.entries names e⟩

/-- Follow names from a place in the tree. All of them but the last have to lead to
directories; two dots lead back. -/
def follow? (t : FileTree) (place : List String) : List String → Except FileError (List String)
  | [] => .ok place
  | name :: rest =>
    match t.entry? place with
    | none => .error .missing
    | some .directory =>
      if name = ".." then
        if place.isEmpty then .error .missing else t.follow? place.dropLast rest
      else t.follow? (place ++ [name]) rest
    | some _ => .error .notDirectory

/-- The place that a path leads to, which may be empty. -/
def place? (t : FileTree) (path : String) : Except FileError (List String) :=
  if path.isEmpty || Path.isAbsolute path then .error .missing
  else t.follow? [] (Path.names path)

/-- What a path leads to. -/
def find? (t : FileTree) (path : String) : Except FileError FileEntry := do
  match t.entry? (← t.place? path) with
  | none => .error .missing
  | some .directory => .ok .directory
  | some e => if Path.asksDirectory path then .error .notDirectory else .ok e

def kind? (t : FileTree) (path : String) : Option FileKind :=
  match t.find? path with
  | .ok .directory => some .directory
  | .ok _ => some .file
  | .error _ => none

def read (t : FileTree) (path : String) : Except FileError String := do
  match ← t.find? path with
  | .text s => return s
  | .directory => .error .isDirectory
  | .database _ => .error .notText

def write (t : FileTree) (path text : String) : Except FileError FileTree := do
  let place ← t.place? path
  if t.entry? place = some .directory || Path.asksDirectory path then .error .isDirectory
  else return t.put place (.text text)

/-- Make the directories on the way along names. -/
def makeAlong (t : FileTree) (place : List String) : List String → Except FileError FileTree
  | [] => .ok t
  | name :: rest =>
    let next := if name = ".." then place.dropLast else place ++ [name]
    match t.entry? next with
    | none => (t.put next .directory).makeAlong next rest
    | some .directory => t.makeAlong next rest
    | some _ => .error (if rest.isEmpty then .taken else .notDirectory)

def makeDirectories (t : FileTree) (path : String) : Except FileError FileTree :=
  if Path.isAbsolute path then .error .missing else t.makeAlong [] (Path.names path)

def move (t : FileTree) (source target : String) : Except FileError FileTree := do
  let place ← t.place? source
  let e ← t.find? source
  let goal ← t.place? target
  if t.entry? goal = some .directory then .error .isDirectory
  else return (FileTree.mk (Keyed.erase t.entries place)).put goal e

/-- The names that lead on from a place, for all that stands below it. -/
def belowPlace (t : FileTree) (place : List String) : List (List String) :=
  t.entries.filterMap fun e =>
    if place.isPrefixOf e.1 && place.length < e.1.length then some (e.1.drop place.length)
    else none

def below (t : FileTree) (path : String) : List (List String) :=
  match t.place? path with
  | .ok place => t.belowPlace place
  | .error _ => []

def names (t : FileTree) (path : String) : List String :=
  (t.below path).filterMap fun
    | [name] => some name
    | _ => none

def database (t : FileTree) (path : String) : Database :=
  match t.find? path with
  | .ok (.database d) => d
  | .ok (.text "") => .withoutTables
  | _ => .notDatabase

/-- Make a change to a tree, or report why it cannot be made. -/
def change (f : FileTree → Except FileError FileTree) : StateM FileTree (Except FileError Unit) :=
  fun t => match f t with
    | .ok t => (.ok (), t)
    | .error e => (.error e, t)

/-- A tree as a file system. -/
def access : FileAccess (StateM FileTree) where
  kind? path := return (← get).kind? path
  read path := return (← get).read path
  write path text := change (·.write path text)
  makeDirectories path := change (·.makeDirectories path)
  move source target := change (·.move source target)
  names path := return (← get).names path
  below path := return (← get).below path
  database path := return (← get).database path

end FileTree

end BookmarkViews
