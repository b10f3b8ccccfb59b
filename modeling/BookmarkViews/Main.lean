import BookmarkViews.Command.Run
import BookmarkViews.Pattern.Standard
import Std.Time.DateTime.Timestamp

/-!
The program: the command line on the files on disk.

Directories are not listed and databases are not opened here, so a pattern finds a
document on disk only when it has no wildcards, and records come from snapshots.
-/

namespace BookmarkViews.Disk

def errorOf : IO.Error → FileError
  | .noFileOrDirectory .. => .missing
  | .alreadyExists .. => .taken
  | .inappropriateType _ code _ =>
    if code = 20 then .notDirectory else .isDirectory
  | e => .other (toString e)

/-- Carry out an action, and report why it fails. -/
def attempt {α : Type} (action : IO α) : IO (Except FileError α) := do
  try
    return .ok (← action)
  catch e => return .error (errorOf e)

/-- What can be opened and read is a file, what can only be opened a directory. -/
def kindOf (path : String) : IO (Option FileKind) := do
  match ← attempt (IO.FS.Handle.mk path .read) with
  | .error _ => return none
  | .ok handle =>
    match ← attempt (handle.read 1) with
    | .ok _ => return some .file
    | .error _ => return some .directory

def access : FileAccess IO where
  kind? := kindOf
  read path := attempt (IO.FS.readFile path)
  write path text := attempt (IO.FS.writeFile path text)
  makeDirectories path := attempt (IO.FS.createDirAll path)
  move source target := attempt (IO.FS.rename source target)
  names _ := return []
  below _ := return []
  database _ := return .notDatabase

/-- The present instant. -/
def clock : IO Instant := do
  let now := (← Std.Time.Timestamp.now).toNanosecondsSinceUnixEpoch.val
  return ⟨now.fdiv 1000000000, (now.fmod 1000000000).toNat⟩

end BookmarkViews.Disk

open BookmarkViews BookmarkViews.StandardPatterns in
/-- Carry out what the arguments ask for. -/
def main (args : List String) : IO UInt32 := do
  match Invocation.read? args with
  | none =>
    IO.eprintln "usage: markql [-v] [--config FILE] init|validate|list|run|explain|schema [OPTIONS]"
    return 2
  | some i =>
    let outcome ← i.carryOut Disk.access (← Disk.clock)
    IO.print outcome.output
    IO.eprint outcome.remarks
    match outcome.failure with
    | some message =>
      IO.eprintln s!"error: {message}"
      return 1
    | none => return 0
