import BookmarkViews.Store.Relational

/-!
Access to files.

Whatever reads or writes files asks a `FileAccess` for it, in any monad: files in
memory (`FileTree.access`) or files on disk.
-/

namespace BookmarkViews

/-- Why a file cannot be read or written. -/
inductive FileError where
  | missing
  | notDirectory
  | isDirectory
  | taken
  | notText
  | other (reason : String)
deriving DecidableEq, Repr

def FileError.text : FileError → String
  | .missing => "No such file or directory (os error 2)"
  | .notDirectory => "Not a directory (os error 20)"
  | .isDirectory => "Is a directory (os error 21)"
  | .taken => "File exists (os error 17)"
  | .notText => "stream did not contain valid UTF-8"
  | .other reason => reason

inductive FileKind where
  | file
  | directory
deriving DecidableEq, Repr

/-- What can be asked of a file system. -/
structure FileAccess (m : Type → Type) where
  /-- What stands at a path. -/
  kind? : String → m (Option FileKind)
  /-- The text of a file. -/
  read : String → m (Except FileError String)
  /-- Write a file, or overwrite it. -/
  write : String → String → m (Except FileError Unit)
  /-- Make a directory and those that it stands in. -/
  makeDirectories : String → m (Except FileError Unit)
  /-- Give a file another path, and replace what stands there. -/
  move : String → String → m (Except FileError Unit)
  /-- The names in a directory. -/
  names : String → m (List String)
  /-- The paths of all that stands below a directory, from it on. -/
  below : String → m (List (List String))
  /-- The database in a file. -/
  database : String → m Database

namespace FileAccess

variable {m : Type → Type} [Monad m]

def isFile (files : FileAccess m) (path : String) : m Bool :=
  return (← files.kind? path) == some .file

def isDirectory (files : FileAccess m) (path : String) : m Bool :=
  return (← files.kind? path) == some .directory

def isPresent (files : FileAccess m) (path : String) : m Bool :=
  return (← files.kind? path).isSome

end FileAccess

end BookmarkViews
