import BookmarkViews.Text.Order

/-!
Path texts.

A path is kept as it is written; `Path.names` is what it means: the names on the way
from the working directory, or from the root when the path is absolute.
-/

namespace BookmarkViews.Path

def isAbsolute (path : String) : Bool :=
  path.startsWith "/"

/-- A path below a directory; an absolute path stays as it is. -/
def join (directory path : String) : String :=
  if isAbsolute path || directory.isEmpty then path
  else if directory.endsWith "/" then directory ++ path
  else directory ++ "/" ++ path

/-- The names of a path. Single dots and empty names say nothing. -/
def names (path : String) : List String :=
  (path.toList.splitOn '/').filterMap fun cs =>
    if cs.isEmpty || cs = ['.'] then none else some (String.ofList cs)

/-- Whether a path can only mean a directory. -/
def asksDirectory (path : String) : Bool :=
  path.endsWith "/" || path.endsWith "/."

/-- Drop the separators at the end of a reversed path, and the single dots between
them. -/
def dropSeparators : List Char → List Char
  | '/' :: cs => dropSeparators cs
  | '.' :: '/' :: cs => dropSeparators cs
  | cs => cs

/-- A path before its last name, reversed, and that name; both empty if there is no
name. -/
def splitLast (path : String) : List Char × List Char :=
  let cs := dropSeparators path.toList.reverse
  (cs.dropWhile (· ≠ '/'), (cs.takeWhile (· ≠ '/')).reverse)

/-- The directory that a path stands in. The root and the empty path stand in
none. -/
def parent? (path : String) : Option String :=
  let (front, name) := splitLast path
  if name.isEmpty then none
  else
    let front' := dropSeparators front
    some (if front'.isEmpty && !front.isEmpty then "/" else String.ofList front'.reverse)

/-- The last name of a path, in two parts at its last dot. A dot in front belongs to
the first part, and without any other dot there is no second one. -/
def stemAndExtension (name : List Char) : List Char × Option (List Char) :=
  if name = ['.', '.'] then (name, none)
  else
    let reversed := name.reverse
    let extension := (reversed.takeWhile (· ≠ '.')).reverse
    match reversed.dropWhile (· ≠ '.') with
    | _ :: c :: stem => ((c :: stem).reverse, some extension)
    | _ => (name, none)

/-- The extension of a path. -/
def extension? (path : String) : Option String :=
  (stemAndExtension (splitLast path).2).2.map String.ofList

/-- A path with another extension. -/
def withExtension (path extension : String) : String :=
  let (front, name) := splitLast path
  if name.isEmpty || name = ['.'] || name = ['.', '.'] then path
  else
    String.ofList (front.reverse ++ (stemAndExtension name).1 ++ '.' :: extension.toList)

/-- The order of paths: by names, from the first on. -/
def order (a b : String) : Ordering :=
  compareNames (names a) (names b)
where
  compareNames : List String → List String → Ordering
    | [], [] => .eq
    | [], _ :: _ => .lt
    | _ :: _, [] => .gt
    | a :: as, b :: bs => (Text.order a b).then (compareNames as bs)

end BookmarkViews.Path
